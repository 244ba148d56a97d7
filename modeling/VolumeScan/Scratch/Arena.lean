/-
VolumeScan.Scratch.Arena — scratch memory handed out from the bottom of a region to its top.

Requests are rounded up to sixteen bytes and served at the top of what is in use. Releasing the
newest block moves the top down again; releasing another one is accepted, and its bytes come back
when nothing is in use any more. `Pool` is an arena together with the bytes of its region.
-/
import VolumeScan.Scratch.Allocator

namespace VolumeScan

/-- The state of an arena: the size of the region, the end of what is in use, and the number of
blocks that are out. -/
structure Arena where
  size : Nat
  top : Nat
  live : Nat
deriving DecidableEq, Repr

namespace Arena

/-- Blocks start and end at multiples of this. -/
def granule : Nat := 16

/-- The smallest multiple of the granule that is not below `n`. -/
def roundUp (n : Nat) : Nat := (n + (granule - 1)) / granule * granule

/-- The bytes from `misalignment` bytes behind a multiple of the granule to the next one. -/
def skipped (misalignment : Nat) : Nat := roundUp misalignment - misalignment

/-- An arena over a region of `len` bytes that starts `misalignment` bytes behind a multiple of the
granule. The arena starts at the first multiple inside the region, or is empty. -/
def ofRegion (misalignment len : Nat) : Arena := ⟨len - min (skipped misalignment) len, 0, 0⟩

/-- The bytes below the top. -/
def used (arena : Arena) : Nat := arena.top

/-- The bytes above the top. -/
def remaining (arena : Arena) : Nat := arena.size - arena.top

/-- Take a block from the top. -/
def allocate (arena : Arena) (size : Nat) : Option Grant × Arena :=
  if size + (granule - 1) < wordLimit ∧ arena.top + roundUp size ≤ arena.size then
    (some ⟨arena.top, roundUp size⟩,
      { arena with top := arena.top + roundUp size, live := arena.live + 1 })
  else (none, arena)

/-- Take a block back. A block that starts outside the region is refused, and so is any block when
none is out. -/
def release (arena : Arena) (grant : Grant) : Bool × Arena :=
  if arena.size < grant.start ∨ arena.live = 0 then (false, arena)
  else if arena.live = 1 then (true, { arena with top := 0, live := 0 })
  else if grant.start + grant.size = arena.top then
    (true, { arena with top := grant.start, live := arena.live - 1 })
  else (true, { arena with live := arena.live - 1 })

end Arena

/-- An arena and the bytes of its region. -/
structure Pool where
  arena : Arena
  memory : Bytes
deriving DecidableEq, Repr

namespace Pool

/-- An arena over a region as in `Arena.ofRegion`, with every byte of it set to `fill`. -/
def ofRegion (misalignment len : Nat) (fill : UInt8) : Pool :=
  let arena := Arena.ofRegion misalignment len
  ⟨arena, List.replicate arena.size fill⟩

/-- The bytes of a block. -/
def load (pool : Pool) (grant : Grant) : Bytes := (pool.memory.drop grant.start).take grant.size

/-- Put bytes into the region. -/
def overwrite (memory : Bytes) (start : Nat) (bytes : Bytes) : Bytes :=
  memory.take start ++ bytes ++ memory.drop (start + bytes.length)

/-- The pool as a source of scratch memory. -/
def allocator : Allocator Pool where
  allocate := fun pool size =>
    let (grant, arena) := pool.arena.allocate size
    (grant, { pool with arena := arena })
  release := fun pool grant =>
    let (accepted, arena) := pool.arena.release grant
    (accepted, { pool with arena := arena })
  clear := fun pool grant =>
    { pool with memory := overwrite pool.memory grant.start (List.replicate grant.size 0) }
  store := fun pool grant start bytes =>
    { pool with memory := overwrite pool.memory (grant.start + start) bytes }

end Pool

end VolumeScan

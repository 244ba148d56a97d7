/-
VolumeScan.Scratch.Holdings — a client of an arena, and the buffers and blocks it holds.

Buffers and blocks are numbered in the order they were asked for. A buffer is a block that was big
enough and has been cleared; it is written at any place inside it and read as a whole, and dropping
it gives its block back once. A raw block is asked for and given back directly, even twice.
-/
import VolumeScan.Scratch.Arena
import VolumeScan.Error

namespace VolumeScan

/-- What a client holds: the buffers asked for (nothing if there was none, or if it was dropped),
and the raw blocks ever granted. -/
structure Holdings where
  pool : Pool
  buffers : List (Option Grant)
  blocks : List Grant
deriving DecidableEq, Repr

namespace Holdings

/-- What a client does. -/
inductive Step where
  /-- Ask for a buffer. -/
  | acquire (size : Nat)
  /-- Drop a buffer. -/
  | drop (buffer : Nat)
  /-- Put bytes into a buffer, from a position on. -/
  | store (buffer start : Nat) (bytes : Bytes)
  /-- Set a buffer to one value, from a position to its end. -/
  | write (buffer start : Nat) (value : UInt8)
  /-- Read a buffer. -/
  | read (buffer : Nat)
  /-- Ask for a raw block. -/
  | allocate (size : Nat)
  /-- Give a raw block back. -/
  | release (block : Nat)
deriving DecidableEq, Repr

/-- What a client is told. -/
inductive Answer where
  /-- The buffer and the bytes in it. -/
  | buffer (grant : Grant) (contents : Bytes)
  /-- There is no buffer. -/
  | failed (error : Error)
  /-- The raw block, or nothing, and the size as it is known now. -/
  | block (grant : Option Grant) (size : Nat)
  /-- Whether it was done. -/
  | done (flag : Bool)
  /-- The bytes of a buffer. -/
  | bytes (contents : Bytes)
  /-- There is nothing of this number. -/
  | missing
deriving DecidableEq, Repr

/-- A client that holds nothing. -/
def ofPool (pool : Pool) : Holdings := ⟨pool, [], []⟩

/-- The block of a buffer that is still held. -/
def held? (holdings : Holdings) (buffer : Nat) : Option Grant := (holdings.buffers[buffer]?).join

/-- Do one step. -/
def step (holdings : Holdings) : Step → Answer × Holdings
  | .acquire size =>
    match Pool.allocator.acquire holdings.pool size with
    | (.whole grant, pool) =>
      (.buffer grant (pool.load grant),
        { holdings with pool := pool, buffers := holdings.buffers ++ [some grant] })
    | (_, pool) =>
      (.failed (.outOfScratch size),
        { holdings with pool := pool, buffers := holdings.buffers ++ [none] })
  | .drop buffer =>
    match holdings.held? buffer with
    | some grant =>
      (.done true,
        { holdings with
          pool := (Pool.allocator.release holdings.pool grant).2
          buffers := holdings.buffers.set buffer none })
    | none => (.done false, holdings)
  | .store buffer start bytes =>
    match holdings.held? buffer with
    | some grant =>
      if start + bytes.length ≤ grant.size then
        (.done true,
          { holdings with pool := Pool.allocator.store holdings.pool grant start bytes })
      else (.done false, holdings)
    | none => (.done false, holdings)
  | .write buffer start value =>
    match holdings.held? buffer with
    | some grant =>
      if start < grant.size then
        (.done true,
          { holdings with
            pool := Pool.allocator.store holdings.pool grant start
              (List.replicate (grant.size - start) value) })
      else (.done false, holdings)
    | none => (.done false, holdings)
  | .read buffer =>
    match holdings.held? buffer with
    | some grant => (.bytes (holdings.pool.load grant), holdings)
    | none => (.missing, holdings)
  | .allocate size =>
    match Pool.allocator.allocate holdings.pool size with
    | (some grant, pool) =>
      (.block (some grant) grant.size,
        { holdings with pool := pool, blocks := holdings.blocks ++ [grant] })
    | (none, pool) => (.block none size, { holdings with pool := pool })
  | .release block =>
    match holdings.blocks[block]? with
    | some grant =>
      let (accepted, pool) := Pool.allocator.release holdings.pool grant
      (.done accepted, { holdings with pool := pool })
    | none => (.missing, holdings)

end Holdings

end VolumeScan

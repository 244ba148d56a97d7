/-
VolumeScan.Proofs.Scratch.Pool — the bytes of the blocks of an arena.

Bytes that are put into a block of a pool are read back from it, and from no other block
(`Pool.load_store`, `Pool.load_store_of_apart`), because the blocks that are out have no byte in
common. `Pool.Shows` lists the blocks that are out together with the bytes in them; granting,
releasing and writing a block change this list at that block only, whatever else the region holds.
-/
import VolumeScan.Proofs.Scratch.Arena

namespace VolumeScan

namespace Pool

/-! ## Bytes put over others -/

section

variable {memory bytes : Bytes} {start : Nat}

/-- What is found behind an overwritten place: the new bytes there, and the old ones elsewhere. -/
theorem getElem?_overwrite (h : start + bytes.length ≤ memory.length) (pos : Nat) :
    (overwrite memory start bytes)[pos]? =
      if start ≤ pos ∧ pos < start + bytes.length then bytes[pos - start]? else memory[pos]? := by
  have hbefore : (memory.take start).length = start := List.length_take_of_le (by omega)
  rw [overwrite, List.append_assoc]
  rcases Nat.lt_or_ge pos start with hpos | hpos
  · rw [if_neg (by omega), List.getElem?_append_left (by omega), List.getElem?_take_of_lt hpos]
  · rw [List.getElem?_append_right (by omega), hbefore]
    rcases Nat.lt_or_ge pos (start + bytes.length) with hend | hend
    · rw [if_pos ⟨hpos, hend⟩, List.getElem?_append_left (by omega)]
    · rw [if_neg (by omega), List.getElem?_append_right (by omega), List.getElem?_drop]
      congr 1
      omega

theorem length_overwrite (h : start + bytes.length ≤ memory.length) :
    (overwrite memory start bytes).length = memory.length := by
  simp only [overwrite, List.length_append, List.length_take, List.length_drop]
  omega

/-- Bytes in front of an overwritten place stay. -/
theorem take_overwrite {base : Nat} (hbase : base ≤ start) (hlen : base ≤ memory.length) :
    (overwrite memory start bytes).take base = memory.take base := by
  rw [overwrite, List.append_assoc, List.take_append_of_le_length, List.take_take,
    Nat.min_eq_left hbase]
  rw [List.length_take]
  exact Nat.le_min.mpr ⟨hbase, hlen⟩

/-- If everything is overwritten, nothing is left of what was there. -/
theorem overwrite_all (h : bytes.length = memory.length) : overwrite memory 0 bytes = bytes := by
  rw [overwrite, List.take_zero, List.nil_append, Nat.zero_add, h, List.drop_length,
    List.append_nil]

end

/-! ## Bytes of a block -/

variable {pool : Pool} {grant other : Grant} {pos : Nat} {bytes : Bytes}

theorem getElem?_load (pool : Pool) (grant : Grant) (pos : Nat) :
    (pool.load grant)[pos]?
      = if pos < grant.size then pool.memory[grant.start + pos]? else none := by
  rw [load, List.getElem?_take, List.getElem?_drop]

theorem length_load (h : grant.start + grant.size ≤ pool.memory.length) :
    (pool.load grant).length = grant.size := by
  rw [load, List.length_take, List.length_drop]
  omega

/-- A block that ends below a position is read from the bytes below it. -/
theorem load_eq_of_take_eq {pool' : Pool} {base : Nat}
    (h : pool'.memory.take base = pool.memory.take base)
    (hend : grant.size ≠ 0 → grant.start + grant.size ≤ base) :
    pool'.load grant = pool.load grant := by
  refine List.ext_getElem? fun pos => ?_
  rw [getElem?_load, getElem?_load]
  split
  case isTrue hpos =>
    have hbelow : grant.start + pos < base := by omega
    rw [← List.getElem?_take_of_lt hbelow, h, List.getElem?_take_of_lt hbelow]
  case isFalse => rfl

/-- **What is put into a block is read back from it.** -/
theorem load_store (hinside : grant.start + grant.size ≤ pool.memory.length)
    (hfits : pos + bytes.length ≤ grant.size) :
    (allocator.store pool grant pos bytes).load grant = overwrite (pool.load grant) pos bytes := by
  have hlength := length_load hinside
  refine List.ext_getElem? fun i => ?_
  rw [getElem?_load, getElem?_overwrite (by omega), getElem?_load]
  by_cases hi : i < grant.size
  · rw [if_pos hi, if_pos hi]
    dsimp only [allocator]
    rw [getElem?_overwrite (by omega)]
    by_cases hnew : pos ≤ i ∧ i < pos + bytes.length
    · rw [if_pos (by omega), if_pos hnew]
      congr 1
      omega
    · rw [if_neg (by omega), if_neg hnew]
  · rw [if_neg hi, if_neg (by omega), if_neg hi]

/-- **It is not seen in other blocks.** -/
theorem load_store_of_apart (hapart : grant.Apart other)
    (hinside : grant.start + grant.size ≤ pool.memory.length)
    (hfits : pos + bytes.length ≤ grant.size) :
    (allocator.store pool grant pos bytes).load other = pool.load other := by
  have hplaces := Grant.apart_iff.mp hapart
  refine List.ext_getElem? fun i => ?_
  rw [getElem?_load, getElem?_load]
  split
  case isTrue hi =>
    dsimp only [allocator]
    rw [getElem?_overwrite (by omega), if_neg (by omega)]
  case isFalse => rfl

/-! ## Acquiring a block -/

/-- A request for a buffer ends in one of two ways, since an arena grants no less than it is asked
for. -/
theorem acquire_cases (pool : Pool) (size : Nat) :
    (∃ grant arena, pool.arena.allocate size = (some grant, arena)
        ∧ allocator.acquire pool size
          = (.whole grant, allocator.clear { pool with arena := arena } grant))
      ∨ pool.arena.allocate size = (none, pool.arena)
        ∧ allocator.acquire pool size = (.refused, pool) := by
  rcases hallocate : pool.arena.allocate size with ⟨grant, arena⟩
  cases grant with
  | some grant =>
    obtain ⟨-, -, hgrant, -⟩ := Arena.allocate_eq_some_iff.mp hallocate
    have hlarge : ¬grant.size < size := by
      rw [hgrant]
      exact Nat.not_lt.mpr (Arena.le_roundUp size)
    refine .inl ⟨grant, arena, rfl, ?_⟩
    simp only [Allocator.acquire, allocator, hallocate, if_neg hlarge]
  | none =>
    obtain rfl := Arena.eq_of_allocate_eq_none hallocate
    refine .inr ⟨rfl, ?_⟩
    simp only [Allocator.acquire, allocator, hallocate]

/-! ## The blocks that are out, and their bytes -/

/-- These blocks of the pool are out, and these are the bytes in them. -/
structure Shows (pool : Pool) (held : List (Grant × Bytes)) : Prop where
  backs : pool.arena.Backs (held.map Prod.fst)
  length_memory : pool.memory.length = pool.arena.size
  load_eq : ∀ block ∈ held, pool.load block.1 = block.2

namespace Shows

variable {held : List (Grant × Bytes)} {own : Bytes}

theorem perm (h : pool.Shows held) {held' : List (Grant × Bytes)} (hperm : held.Perm held') :
    pool.Shows held' where
  backs := h.backs.perm (hperm.map Prod.fst)
  length_memory := h.length_memory
  load_eq := fun block hmem => h.load_eq block (hperm.mem_iff.mpr hmem)

/-- A block that is out lies in the region. -/
theorem end_le (h : pool.Shows held) {block : Grant × Bytes} (hmem : block ∈ held) :
    block.1.start + block.1.size ≤ pool.memory.length :=
  h.length_memory ▸ h.backs.end_le block.1 (List.mem_map_of_mem hmem)

/-- There are as many bytes in a block as it has room for. -/
theorem length_eq (h : pool.Shows held) {block : Grant × Bytes} (hmem : block ∈ held) :
    block.2.length = block.1.size := by
  rw [← h.load_eq block hmem]
  exact length_load (h.end_le hmem)

/-- Writing to a block changes its bytes and no others. -/
theorem stored (h : pool.Shows ((grant, own) :: held)) (hfits : pos + bytes.length ≤ grant.size) :
    (allocator.store pool grant pos bytes).Shows ((grant, overwrite own pos bytes) :: held) := by
  have hinside : grant.start + grant.size ≤ pool.memory.length := h.end_le List.mem_cons_self
  obtain ⟨hown, hothers⟩ := List.forall_mem_cons.mp h.load_eq
  obtain ⟨hapart, -⟩ := List.pairwise_cons.mp h.backs.apart
  constructor
  case backs => exact h.backs
  case length_memory => exact (length_overwrite (by omega)).trans h.length_memory
  case load_eq =>
    refine List.forall_mem_cons.mpr ⟨?_, fun block hmem => ?_⟩
    · exact (load_store hinside hfits).trans (congrArg (overwrite · pos bytes) hown)
    · have hblock := hapart block.1 (List.mem_map_of_mem hmem)
      exact (load_store_of_apart hblock hinside hfits).trans (hothers block hmem)

/-- A block that has been cleared holds zeros. -/
theorem cleared (h : pool.Shows ((grant, own) :: held)) :
    (allocator.clear pool grant).Shows ((grant, List.replicate grant.size 0) :: held) := by
  have hlength : own.length = grant.size := h.length_eq List.mem_cons_self
  have hfits : 0 + (List.replicate grant.size (0 : UInt8)).length ≤ grant.size := by simp
  have hall : overwrite own 0 (List.replicate grant.size 0) = List.replicate grant.size 0 :=
    overwrite_all (by rw [List.length_replicate, hlength])
  -- Clearing a block is writing zeros to all of it.
  exact hall ▸ h.stored hfits

/-- A new buffer holds zeros, and its creation changes no other block. -/
theorem acquired (h : pool.Shows held) {size : Nat} {arena : Arena}
    (hgranted : pool.arena.allocate size = (some grant, arena)) :
    (allocator.clear { pool with arena := arena } grant).Shows
      ((grant, List.replicate grant.size 0) :: held) := by
  have hsize := pool.arena.size_allocate size
  rw [hgranted] at hsize
  -- Before it is cleared, it shows what was left there.
  have hfresh : Shows { pool with arena := arena } ((grant, pool.load grant) :: held) := by
    constructor
    case backs => exact h.backs.granted hgranted
    case length_memory => exact h.length_memory.trans hsize.symm
    case load_eq => exact List.forall_mem_cons.mpr ⟨rfl, h.load_eq⟩
  exact hfresh.cleared

/-- A release changes no other block. -/
theorem released (h : pool.Shows ((grant, own) :: held)) :
    (allocator.release pool grant).2.Shows held where
  backs := h.backs.released
  length_memory := h.length_memory.trans (Arena.size_release ..).symm
  load_eq := (List.forall_mem_cons.mp h.load_eq).2

end Shows

end Pool

end VolumeScan

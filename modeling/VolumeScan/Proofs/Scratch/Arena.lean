/-
VolumeScan.Proofs.Scratch.Arena — the blocks of an arena, in whatever order they come back.

`Arena.Backs` relates an arena to the blocks of it that are out: it counts them, they lie in its
region without sharing a byte, and those that hold any byte end at or below the top. An allocation
keeps this, since it takes its block above the top (`Arena.Backs.granted`). So does the release of
any block that is out (`Arena.Backs.released`): the top moves down only to the start of a block that
reached up to it, and the others end below that, for else they would share a byte with it. A block
of no bytes may come to lie above the top; it shares no byte with anything, and releasing it does
not move the top.

For the newest block, releasing it undoes the allocation (`Arena.release_of_allocate`).
-/
import Mathlib.Data.List.Perm.Basic
import VolumeScan.Scratch.Arena

namespace VolumeScan

/-- What stands at a place of a list comes before the others, up to the order. -/
theorem perm_cons_eraseIdx {α : Type} {xs : List α} {place : Nat} {x : α}
    (h : xs[place]? = some x) : xs.Perm (x :: xs.eraseIdx place) := by
  obtain ⟨hlt, rfl⟩ := List.getElem?_eq_some_iff.mp h
  exact (List.getElem_cons_eraseIdx_perm hlt).symm

/-! ## Blocks -/

namespace Grant

/-- The byte at this position belongs to the block. -/
def Covers (grant : Grant) (pos : Nat) : Prop :=
  grant.start ≤ pos ∧ pos < grant.start + grant.size

/-- No byte belongs to both blocks. -/
def Apart (grant other : Grant) : Prop := ∀ pos, grant.Covers pos → ¬other.Covers pos

theorem Apart.symm {grant other : Grant} (h : grant.Apart other) : other.Apart grant :=
  fun pos hother hgrant => h pos hgrant hother

/-- Blocks are apart if one of them is empty, or one of them ends where the other one starts, or
below. -/
theorem apart_iff {grant other : Grant} :
    grant.Apart other ↔ grant.size = 0 ∨ other.size = 0
      ∨ grant.start + grant.size ≤ other.start ∨ other.start + other.size ≤ grant.start := by
  unfold Apart Covers
  constructor
  · intro hapart
    -- Otherwise the byte at the higher one of the two starts belongs to both.
    have hshared := hapart (max grant.start other.start)
    omega
  · intro hplaces pos hgrant hother
    omega

end Grant

namespace Arena

variable {arena arena' : Arena} {request : Nat} {grant : Grant} {out : List Grant}

/-! ## Rounding -/

theorem granule_dvd_roundUp (n : Nat) : granule ∣ roundUp n := Nat.dvd_mul_left ..

theorem le_roundUp (n : Nat) : n ≤ roundUp n := by
  unfold roundUp granule
  omega

theorem roundUp_lt (n : Nat) : roundUp n < n + granule := by
  unfold roundUp granule
  omega

/-- A request that can be rounded up within a machine word is one that is not too large for the sum
in the rounding. -/
theorem roundUp_lt_wordLimit_iff {n : Nat} :
    roundUp n < wordLimit ↔ n + (granule - 1) < wordLimit := by
  unfold roundUp granule wordLimit
  omega

/-! ## One allocation, one release -/

/-- An arena grants what fits between its top and its end. -/
theorem allocate_eq_some_iff :
    arena.allocate request = (some grant, arena') ↔
      request + (granule - 1) < wordLimit ∧ arena.top + roundUp request ≤ arena.size
        ∧ grant = ⟨arena.top, roundUp request⟩
        ∧ arena' = { arena with top := arena.top + roundUp request, live := arena.live + 1 } := by
  unfold allocate
  split
  case isTrue hfits => simp [hfits, eq_comm]
  case isFalse hfits =>
    simp only [Prod.mk.injEq, reduceCtorEq, false_and, false_iff]
    intro h
    exact hfits ⟨h.1, h.2.1⟩

/-- A refusal leaves an arena as it is. -/
theorem eq_of_allocate_eq_none (h : arena.allocate request = (none, arena')) : arena' = arena := by
  unfold allocate at h
  split at h
  · cases h
  · exact (congrArg Prod.snd h).symm

@[simp] theorem size_allocate (arena : Arena) (request : Nat) :
    (arena.allocate request).2.size = arena.size := by
  unfold allocate
  split <;> rfl

@[simp] theorem size_release (arena : Arena) (grant : Grant) :
    (arena.release grant).2.size = arena.size := by
  unfold release
  split
  · rfl
  · split
    · rfl
    · split <;> rfl

/-- An arena of which nothing is out is empty. -/
def Settled (arena : Arena) : Prop := arena.live = 0 → arena.top = 0

theorem settled_ofRegion (misalignment len : Nat) : (ofRegion misalignment len).Settled :=
  fun _ => rfl

theorem Settled.allocate (h : arena.Settled) (request : Nat) :
    (arena.allocate request).2.Settled := by
  unfold Arena.allocate
  split
  · exact fun hnone => absurd hnone (Nat.succ_ne_zero _)
  · exact h

/-- **Releasing the newest block undoes its allocation.** -/
theorem release_of_allocate (hsettled : arena.Settled)
    (h : arena.allocate request = (some grant, arena')) : arena'.release grant = (true, arena) := by
  obtain ⟨-, hfits, rfl, rfl⟩ := allocate_eq_some_iff.mp h
  obtain ⟨size, top, live⟩ := arena
  have haccepted : ¬(size < top ∨ live + 1 = 0) := by
    dsimp only at hfits
    omega
  unfold release
  dsimp only
  rw [if_neg haccepted]
  by_cases hlast : live = 0
  · obtain rfl := hlast
    obtain rfl : top = 0 := hsettled rfl
    rfl
  · rw [if_neg (by omega), if_pos rfl, Nat.add_sub_cancel]

/-! ## The blocks that are out -/

/-- These blocks of the arena are out. -/
structure Backs (arena : Arena) (out : List Grant) : Prop where
  /-- The arena knows how many they are. -/
  live_eq : arena.live = out.length
  /-- If there are none, nothing is in use. -/
  settled : arena.Settled
  top_le : arena.top ≤ arena.size
  granule_dvd_top : granule ∣ arena.top
  granule_dvd_start : ∀ grant ∈ out, granule ∣ grant.start
  end_le : ∀ grant ∈ out, grant.start + grant.size ≤ arena.size
  /-- Only blocks without a byte may lie above the top. -/
  end_le_top : ∀ grant ∈ out, grant.size ≠ 0 → grant.start + grant.size ≤ arena.top
  /-- They have no byte in common. -/
  apart : out.Pairwise Grant.Apart

theorem backs_ofRegion (misalignment len : Nat) : (ofRegion misalignment len).Backs [] where
  live_eq := rfl
  settled := settled_ofRegion misalignment len
  top_le := Nat.zero_le _
  granule_dvd_top := Nat.dvd_zero _
  granule_dvd_start := nofun
  end_le := nofun
  end_le_top := nofun
  apart := .nil

namespace Backs

/-- It makes no difference in which order the blocks are listed. -/
theorem perm (h : arena.Backs out) {out' : List Grant} (hperm : out.Perm out') :
    arena.Backs out' where
  live_eq := h.live_eq.trans hperm.length_eq
  settled := h.settled
  top_le := h.top_le
  granule_dvd_top := h.granule_dvd_top
  granule_dvd_start := fun grant hmem => h.granule_dvd_start grant (hperm.mem_iff.mpr hmem)
  end_le := fun grant hmem => h.end_le grant (hperm.mem_iff.mpr hmem)
  end_le_top := fun grant hmem => h.end_le_top grant (hperm.mem_iff.mpr hmem)
  apart := (hperm.pairwise_iff Grant.Apart.symm).mp h.apart

/-- A new block starts at the top, so all others are below it. -/
theorem granted (h : arena.Backs out) (hgranted : arena.allocate request = (some grant, arena')) :
    arena'.Backs (grant :: out) := by
  obtain ⟨-, hfits, rfl, rfl⟩ := allocate_eq_some_iff.mp hgranted
  constructor
  case live_eq => exact congrArg (· + 1) h.live_eq
  case settled => exact fun hnone => absurd hnone (Nat.succ_ne_zero _)
  case top_le => exact hfits
  case granule_dvd_top => exact Nat.dvd_add h.granule_dvd_top (granule_dvd_roundUp request)
  case granule_dvd_start => exact List.forall_mem_cons.mpr ⟨h.granule_dvd_top, h.granule_dvd_start⟩
  case end_le => exact List.forall_mem_cons.mpr ⟨hfits, h.end_le⟩
  case end_le_top =>
    refine List.forall_mem_cons.mpr ⟨fun _ => Nat.le_refl _, fun other hmem hsize => ?_⟩
    exact Nat.le_trans (h.end_le_top other hmem hsize) (Nat.le_add_right _ _)
  case apart =>
    refine List.pairwise_cons.mpr ⟨fun other hmem => Grant.apart_iff.mpr ?_, h.apart⟩
    have hbelow := h.end_le_top other hmem
    dsimp only
    omega

/-- Which way the release of a block goes. -/
theorem release_eq (h : arena.Backs (grant :: out)) :
    arena.release grant = (true, { arena with
      top := if out = [] then 0
        else if grant.start + grant.size = arena.top then grant.start else arena.top
      live := out.length }) := by
  have hlive := h.live_eq
  have hend := h.end_le grant List.mem_cons_self
  rw [List.length_cons] at hlive
  have haccepted : ¬(arena.size < grant.start ∨ arena.live = 0) := by omega
  unfold release
  rw [if_neg haccepted]
  by_cases hlast : out = []
  · rw [if_pos hlast, if_pos (by rw [hlive, hlast]; rfl), hlast]
    rfl
  · have hmore : arena.live ≠ 1 := by
      have hlength := List.length_pos_iff.mpr hlast
      omega
    have hrest : arena.live - 1 = out.length := by omega
    rw [if_neg hlast, if_neg hmore, hrest]
    split <;> rfl

/-- Whatever is released, the blocks that stay out end at or below the new top. -/
theorem released (h : arena.Backs (grant :: out)) : (arena.release grant).2.Backs out := by
  obtain ⟨hstart, hstarts⟩ := List.forall_mem_cons.mp h.granule_dvd_start
  obtain ⟨hend, hends⟩ := List.forall_mem_cons.mp h.end_le
  obtain ⟨hreach, hreaches⟩ := List.forall_mem_cons.mp h.end_le_top
  obtain ⟨hapart, hrest⟩ := List.pairwise_cons.mp h.apart
  have htop := h.top_le
  rw [h.release_eq]
  constructor
  case live_eq => rfl
  case settled => exact fun hnone => if_pos (List.length_eq_zero_iff.mp hnone)
  case top_le =>
    dsimp only
    split
    · exact Nat.zero_le _
    · split <;> omega
  case granule_dvd_top =>
    dsimp only
    split
    · exact Nat.dvd_zero _
    · split
      · exact hstart
      · exact h.granule_dvd_top
  case granule_dvd_start => exact hstarts
  case end_le => exact hends
  case end_le_top =>
    intro other hmem hsize
    have hother := hreaches other hmem hsize
    have hplaces := Grant.apart_iff.mp (hapart other hmem)
    dsimp only
    rw [if_neg (List.ne_nil_of_mem hmem)]
    split
    · -- The released block reached up to the top, so the other one does not, unless it is below.
      omega
    · exact hother
  case apart => exact hrest

end Backs

end Arena

end VolumeScan

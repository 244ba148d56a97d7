/-
VolumeScan.Proofs.Scratch.Reclaim — when an arena gets its bytes back.

An arena keeps its top and the number of blocks, and nothing about the blocks below. So the release
of the block that reaches up to the top moves the top to the start of that block, and no further:
if the block below it was released before, its bytes stay in use (`Ledger.Strands`) until something
new is allocated and released in the right order, or until nothing is out any more. In a history
without such a release the bytes in use end where the blocks that are out end, after every call;
with one, they do not (`Ledger.used_eq_extent_iff`).
-/
import Mathlib.Data.List.Induction
import VolumeScan.Proofs.Scratch.Ledger

namespace VolumeScan

namespace Grant

/-- Where the bytes of these blocks end, the highest of them. Blocks without a byte do not count. -/
def extent : List Grant → Nat
  | [] => 0
  | grant :: others =>
    if grant.size = 0 then extent others else max (grant.start + grant.size) (extent others)

theorem extent_le_iff {out : List Grant} {pos : Nat} :
    extent out ≤ pos ↔ ∀ grant ∈ out, grant.size ≠ 0 → grant.start + grant.size ≤ pos := by
  induction out with
  | nil => exact ⟨fun _ => nofun, fun _ => Nat.zero_le _⟩
  | cons grant others ih =>
    rw [List.forall_mem_cons, ← ih, extent]
    by_cases hsize : grant.size = 0
    · simp [hsize]
    · rw [if_neg hsize, Nat.max_le]
      simp [hsize]

/-- It makes no difference in which order the blocks are listed. -/
theorem extent_perm {out out' : List Grant} (h : out.Perm out') : extent out = extent out' := by
  have hle : ∀ {xs ys : List Grant}, xs.Perm ys → extent xs ≤ extent ys := fun hperm =>
    extent_le_iff.mpr fun grant hmem =>
      extent_le_iff.mp (Nat.le_refl _) grant (hperm.mem_iff.mp hmem)
  exact Nat.le_antisymm (hle h) (hle h.symm)

end Grant

namespace Arena

variable {arena arena' : Arena} {request : Nat} {grant : Grant} {out : List Grant}

namespace Backs

/-- What is out is in use. -/
theorem extent_le_top (h : arena.Backs out) : Grant.extent out ≤ arena.top :=
  Grant.extent_le_iff.mpr h.end_le_top

/-- After an allocation the bytes in use end where the blocks end, if they did so before. -/
theorem extent_granted (h : arena.top = Grant.extent out)
    (hgranted : arena.allocate request = (some grant, arena')) :
    arena'.top = Grant.extent (grant :: out) := by
  obtain ⟨-, -, rfl, rfl⟩ := allocate_eq_some_iff.mp hgranted
  rw [Grant.extent]
  dsimp only
  split <;> omega

/-- After a release they still do so exactly if the block had bytes next to those of the other
blocks, or none, or no other blocks. -/
theorem extent_released_iff (hbacks : arena.Backs (grant :: out))
    (h : arena.top = Grant.extent (grant :: out)) :
    (arena.release grant).2.top = Grant.extent out ↔
      ¬(grant.size ≠ 0 ∧ out ≠ [] ∧ Grant.extent out < grant.start) := by
  have hbelow := hbacks.released.extent_le_top
  rw [Grant.extent] at h
  rw [hbacks.release_eq] at hbelow ⊢
  dsimp only at hbelow ⊢
  by_cases hlast : out = []
  · rw [if_pos hlast, hlast]
    exact iff_of_true rfl fun hgap => hgap.2.1 rfl
  · rw [if_neg hlast] at hbelow ⊢
    by_cases hsize : grant.size = 0
    · rw [if_pos hsize] at h
      have hkept : (if grant.start + grant.size = arena.top then grant.start else arena.top)
          = arena.top := by split <;> omega
      exact iff_of_true (hkept.trans h) fun hgap => hgap.1 hsize
    · rw [if_neg hsize] at h
      by_cases hreach : grant.start + grant.size = arena.top
      · -- The top moves down to the block, where the other blocks may end or not.
        rw [if_pos hreach] at hbelow ⊢
        constructor
        · rintro hends ⟨-, -, hgap⟩
          omega
        · intro hnogap
          by_contra hends
          exact hnogap ⟨hsize, hlast, by omega⟩
      · -- Another block reaches up to the top.
        rw [if_neg hreach]
        exact iff_of_true (by omega) fun hgap => by omega

end Backs

namespace Ledger

/-- The call leaves bytes stranded: it gives a block back above a gap, while other blocks are out
whose bytes all end below the start of this one. -/
def Strands (ledger : Ledger) (call : Call) : Prop :=
  ∃ place grant, call = .release place ∧ ledger.out[place]? = some grant ∧ grant.size ≠ 0
    ∧ ledger.out.eraseIdx place ≠ [] ∧ Grant.extent (ledger.out.eraseIdx place) < grant.start

/-- The bytes in use end where the blocks that are out end. -/
def Tight (ledger : Ledger) : Prop := ledger.arena.used = Grant.extent ledger.out

/-- One call keeps this up exactly if it strands no bytes. -/
theorem tight_call_iff {ledger : Ledger} (hbacks : ledger.arena.Backs ledger.out)
    (h : ledger.Tight) (call : Call) : (ledger.call call).Tight ↔ ¬ledger.Strands call := by
  rcases ledger.call_cases call with ⟨size, grant, arena, rfl, hgranted, hafter⟩
    | ⟨place, grant, rfl, hplace, hafter⟩ | ⟨hnone, hafter⟩
  · rw [hafter]
    refine iff_of_true (Backs.extent_granted h hgranted) ?_
    rintro ⟨_, _, hcall, -⟩
    cases hcall
  · have hperm := perm_cons_eraseIdx hplace
    have hends : ledger.arena.top = Grant.extent (grant :: ledger.out.eraseIdx place) :=
      Eq.trans h (Grant.extent_perm hperm)
    rw [hafter]
    refine ((hbacks.perm hperm).extent_released_iff hends).trans (not_congr ?_)
    constructor
    · intro hgap
      exact ⟨place, grant, rfl, hplace, hgap⟩
    · rintro ⟨_, _, hcall, hplace', hgap⟩
      cases hcall
      cases hplace.symm.trans hplace'
      exact hgap
  · rw [hafter]
    refine iff_of_true h ?_
    rintro ⟨place, grant, hcall, hplace, -⟩
    cases (hnone place hcall).symm.trans hplace

/-- **When the bytes in use are those below the end of what is out.** In every history, whatever is
out is in use. And after every call the bytes in use end where the blocks that are out end, the
highest of them, exactly if no call of the history gives back a block above a gap: above bytes of
blocks that were given back before, with others below them that are still out. -/
theorem used_eq_extent_iff (misalignment len : Nat) (calls : List Call) :
    let after := (ofRegion misalignment len).run
    (∀ past, past <+: calls → Grant.extent (after past).out ≤ (after past).arena.used)
      ∧ ((∀ past, past <+: calls → (after past).arena.used = Grant.extent (after past).out) ↔
        ∀ past call, past ++ [call] <+: calls → ¬(after past).Strands call) := by
  intro after
  have hbacks : ∀ past, (after past).arena.Backs (after past).out := backs_run misalignment len
  have hcall : ∀ past call, (after past).Tight →
      ((after (past ++ [call])).Tight ↔ ¬(after past).Strands call) := by
    intro past call htight
    dsimp only [after]
    rw [run_concat]
    exact tight_call_iff (hbacks past) htight call
  refine ⟨fun past _ => (hbacks past).extent_le_top, ?_⟩
  constructor
  · intro htight past call hpast
    have hbefore : past <+: calls := (List.prefix_append past [call]).trans hpast
    exact (hcall past call (htight past hbefore)).mp (htight _ hpast)
  · intro hnogap past
    induction past using List.reverseRecOn with
    | nil => exact fun _ => rfl
    | append_singleton past call ih =>
      intro hpast
      have hbefore : past <+: calls := (List.prefix_append past [call]).trans hpast
      exact (hcall past call (ih hbefore)).mpr (hnogap past call hpast)

/-- Three blocks, of which the middle one and then the highest one are given back: the bytes in use
still end where the middle block ended. -/
theorem middle_block_stays_in_use :
    let ledger := (ofRegion 0 48).run
      [.allocate 16, .allocate 16, .allocate 16, .release 1, .release 0]
    ledger.out = [⟨0, 16⟩] ∧ Grant.extent ledger.out = 16 ∧ ledger.arena.used = 32 := by
  decide

end Ledger

end Arena

end VolumeScan

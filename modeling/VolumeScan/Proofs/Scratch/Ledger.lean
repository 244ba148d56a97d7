/-
VolumeScan.Proofs.Scratch.Ledger — every history of an arena.

A client of an arena asks for blocks, and gives back, in any order, blocks that it still has. A
`Call` is one of these, and a `Ledger` keeps the blocks that are out beside the arena, so that every
list of calls is a history in which no block is given back twice. What holds between an arena and
its blocks (`Arena.Backs`) holds at the start and is kept by every call, hence in every history
(`Ledger.backs_run`); everything that a client may rely on (`Ledger.Safe`) follows from it.
-/
import VolumeScan.Proofs.Scratch.Arena
import VolumeScan.Scratch.Holdings

namespace VolumeScan

namespace Arena

/-- A call of an arena. -/
inductive Call where
  /-- Ask for a block of at least so many bytes. -/
  | allocate (size : Nat)
  /-- Give back the block at this place among those that are out. -/
  | release (place : Nat)
deriving DecidableEq, Repr

/-- An arena, and the blocks of it that are out, the newest first. -/
structure Ledger where
  arena : Arena
  out : List Grant
deriving DecidableEq, Repr

namespace Ledger

/-- An arena over a region as in `Arena.ofRegion`, of which nothing is out. -/
def ofRegion (misalignment len : Nat) : Ledger := ⟨Arena.ofRegion misalignment len, []⟩

/-- Make a call. Without a block at the place, nothing is given back. -/
def call (ledger : Ledger) : Call → Ledger
  | .allocate size =>
    match ledger.arena.allocate size with
    | (some grant, arena) => ⟨arena, grant :: ledger.out⟩
    | (none, arena) => ⟨arena, ledger.out⟩
  | .release place =>
    match ledger.out[place]? with
    | some grant => ⟨(ledger.arena.release grant).2, ledger.out.eraseIdx place⟩
    | none => ledger

/-- Make calls one after the other. -/
def run (ledger : Ledger) (calls : List Call) : Ledger := calls.foldl Ledger.call ledger

theorem run_concat (ledger : Ledger) (calls : List Call) (call : Call) :
    ledger.run (calls ++ [call]) = (ledger.run calls).call call := List.foldl_concat ..

/-- What a call can do. -/
theorem call_cases (ledger : Ledger) (call : Call) :
    (∃ size grant arena, call = .allocate size
        ∧ ledger.arena.allocate size = (some grant, arena)
        ∧ ledger.call call = ⟨arena, grant :: ledger.out⟩)
      ∨ (∃ place grant, call = .release place ∧ ledger.out[place]? = some grant
        ∧ ledger.call call = ⟨(ledger.arena.release grant).2, ledger.out.eraseIdx place⟩)
      ∨ (∀ place, call = .release place → ledger.out[place]? = none)
        ∧ ledger.call call = ledger := by
  cases call with
  | allocate size =>
    rcases hallocate : ledger.arena.allocate size with ⟨grant, arena⟩
    cases grant with
    | some grant => exact .inl ⟨size, grant, arena, rfl, hallocate, by simp only [call, hallocate]⟩
    | none =>
      obtain rfl := eq_of_allocate_eq_none hallocate
      exact .inr (.inr ⟨nofun, by simp only [call, hallocate]⟩)
  | release place =>
    cases hplace : ledger.out[place]? with
    | some grant => exact .inr (.inl ⟨place, grant, rfl, hplace, by simp only [call, hplace]⟩)
    | none =>
      refine .inr (.inr ⟨fun place' hcall => ?_, by simp only [call, hplace]⟩)
      cases hcall
      exact hplace

/-- What is kept by every call is kept by every history. -/
theorem run_preserves {P : Ledger → Prop} {start : Ledger} (hstart : P start)
    (hcall : ∀ ledger call, P ledger → P (ledger.call call)) (calls : List Call) :
    P (start.run calls) := by
  induction calls generalizing start with
  | nil => exact hstart
  | cons call calls ih => exact ih (hcall start call hstart)

theorem backs_call {ledger : Ledger} (h : ledger.arena.Backs ledger.out) (call : Call) :
    (ledger.call call).arena.Backs (ledger.call call).out := by
  rcases ledger.call_cases call with ⟨_, _, _, -, hgranted, hafter⟩ | ⟨_, _, -, hplace, hafter⟩
    | ⟨-, hafter⟩
  · rw [hafter]
    exact h.granted hgranted
  · rw [hafter]
    exact (h.perm (perm_cons_eraseIdx hplace)).released
  · rwa [hafter]

/-- **In every history the blocks that are out are blocks of the arena.** -/
theorem backs_run (misalignment len : Nat) (calls : List Call) :
    ((ofRegion misalignment len).run calls).arena.Backs
      ((ofRegion misalignment len).run calls).out :=
  run_preserves (P := fun ledger => ledger.arena.Backs ledger.out) (backs_ofRegion misalignment len)
    (fun _ call h => backs_call h call) calls

theorem size_call (ledger : Ledger) (call : Call) :
    (ledger.call call).arena.size = ledger.arena.size := by
  rcases ledger.call_cases call with ⟨size, _, arena, -, hgranted, hafter⟩ | ⟨_, _, -, -, hafter⟩
    | ⟨-, hafter⟩
  · have hsize := ledger.arena.size_allocate size
    rw [hgranted] at hsize
    rw [hafter]
    exact hsize
  · rw [hafter]
    exact size_release ..
  · rw [hafter]

/-- The region does not change. -/
theorem size_run (ledger : Ledger) (calls : List Call) :
    (ledger.run calls).arena.size = ledger.arena.size :=
  run_preserves (P := fun after => after.arena.size = ledger.arena.size) rfl
    (fun after call h => (after.size_call call).trans h) calls

/-- What a client of an arena may rely on. The region has `len` bytes and starts `misalignment`
bytes behind a multiple of the granule, and the arena starts at the next one. -/
structure Safe (misalignment len : Nat) (ledger : Ledger) : Prop where
  /-- The blocks that are out are counted. -/
  live_eq : ledger.arena.live = ledger.out.length
  /-- Each of them can be given back. -/
  accepted : ∀ grant ∈ ledger.out, (ledger.arena.release grant).1 = true
  /-- The next block has as many bytes as were asked for, rounded up to whole granules. -/
  rounded : ∀ size grant, (ledger.arena.allocate size).1 = some grant →
    granule ∣ grant.size ∧ size ≤ grant.size ∧ grant.size < size + granule
  /-- It starts at whole granules, and ends inside the region. -/
  placed : ∀ size grant, (ledger.arena.allocate size).1 = some grant →
    granule ∣ grant.start ∧ min (skipped misalignment) len + grant.start + grant.size ≤ len
  /-- The blocks that are out have no byte in common. -/
  apart : ledger.out.Pairwise Grant.Apart
  /-- They are in use, as far as they have any bytes. -/
  end_le_used : ∀ grant ∈ ledger.out, grant.size ≠ 0 →
    grant.start + grant.size ≤ ledger.arena.used
  /-- What is not in use remains. -/
  used_add_remaining : ledger.arena.used + ledger.arena.remaining
    = (Arena.ofRegion misalignment len).size
  /-- Nothing is in use if nothing is out. -/
  used_eq_zero : ledger.out = [] → ledger.arena.used = 0
  /-- A request is served exactly if the rounded size is a machine word and remains. -/
  served_iff : ∀ size, (ledger.arena.allocate size).1.isSome ↔
    roundUp size < wordLimit ∧ roundUp size ≤ ledger.arena.remaining
  /-- A request that is not served changes nothing. -/
  refused : ∀ size, (ledger.arena.allocate size).1 = none →
    (ledger.arena.allocate size).2 = ledger.arena
  /-- Whoever made it is left with the size that was asked for. -/
  refused_size : ∀ (holdings : Holdings) size, holdings.pool.arena = ledger.arena →
    (ledger.arena.allocate size).1 = none →
      holdings.step (.allocate size) = (.block none size, holdings)

end Ledger

variable {arena : Arena} {out : List Grant} {request : Nat} {grant : Grant}

theorem isSome_allocate_iff : (arena.allocate request).1.isSome ↔
    request + (granule - 1) < wordLimit ∧ arena.top + roundUp request ≤ arena.size := by
  unfold allocate
  split
  case isTrue hfits => simp [hfits]
  case isFalse hfits => simpa using hfits

/-- A block that is granted is the rounded request, at the top. -/
theorem fits_of_allocate (h : (arena.allocate request).1 = some grant) :
    arena.top + roundUp request ≤ arena.size ∧ grant = ⟨arena.top, roundUp request⟩ := by
  have hgranted : arena.allocate request = (some grant, (arena.allocate request).2) :=
    Prod.ext h rfl
  obtain ⟨-, hfits, hgrant, -⟩ := allocate_eq_some_iff.mp hgranted
  exact ⟨hfits, hgrant⟩

/-- A client that asks for a block in vain is told the size that it asked for. -/
theorem step_of_refused {holdings : Holdings} (harena : holdings.pool.arena = arena)
    (h : (arena.allocate request).1 = none) :
    holdings.step (.allocate request) = (.block none request, holdings) := by
  obtain ⟨⟨arena', memory⟩, buffers, blocks⟩ := holdings
  obtain rfl : arena' = arena := harena
  have hrefused : arena'.allocate request = (none, arena') :=
    Prod.ext h (eq_of_allocate_eq_none (Prod.ext h rfl))
  simp only [Holdings.step, Pool.allocator, hrefused]

namespace Ledger

/-- **An arena is safe in every history.** Whatever is asked of an arena, and in whatever order its
blocks come back, the blocks that are out are counted and can be given back, they are rounded
requests inside the region, they have no byte in common, the bytes in use and the remaining ones
make up the region, and a request is served exactly if it fits into what remains. -/
theorem safe_in_every_history (misalignment len : Nat) (calls : List Call) :
    ((ofRegion misalignment len).run calls).Safe misalignment len := by
  have hbacks := backs_run misalignment len calls
  have hsize := (ofRegion misalignment len).size_run calls
  have hregion : min (skipped misalignment) len + (ofRegion misalignment len).arena.size = len :=
    Nat.add_sub_cancel' (Nat.min_le_right ..)
  have htop := hbacks.top_le
  constructor
  case live_eq => exact hbacks.live_eq
  case accepted =>
    intro grant hmem
    rw [(hbacks.perm (List.perm_cons_erase hmem)).release_eq]
  case rounded =>
    intro size grant hgrant
    obtain ⟨-, rfl⟩ := fits_of_allocate hgrant
    exact ⟨granule_dvd_roundUp size, le_roundUp size, roundUp_lt size⟩
  case placed =>
    intro size grant hgrant
    obtain ⟨hfits, rfl⟩ := fits_of_allocate hgrant
    refine ⟨hbacks.granule_dvd_top, ?_⟩
    dsimp only
    omega
  case apart => exact hbacks.apart
  case end_le_used => exact hbacks.end_le_top
  case used_add_remaining => exact (Nat.add_sub_cancel' htop).trans hsize
  case used_eq_zero =>
    intro hnone
    exact hbacks.settled (hbacks.live_eq.trans (congrArg List.length hnone))
  case served_iff =>
    intro size
    rw [isSome_allocate_iff, roundUp_lt_wordLimit_iff, remaining]
    omega
  case refused =>
    intro size hnone
    exact eq_of_allocate_eq_none (Prod.ext hnone rfl)
  case refused_size => exact fun holdings size harena hnone => step_of_refused harena hnone

end Ledger

end Arena

end VolumeScan

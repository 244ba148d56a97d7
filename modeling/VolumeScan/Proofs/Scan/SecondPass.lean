/-
VolumeScan.Proofs.Scan.SecondPass — a second pass finds nothing new.

A place of a registry is exhausted if there is nothing to find on the volume in it. Only devices
that were not scanned before have something to find on them (`Scanner.Sound`), so a visit exhausts
its place: either nothing was found, or the device has been classified. No visit opens another
place again, since the volumes that it appends are partitions. So behind a pass every place is
exhausted, those of the new volumes included, and a second pass leaves the registry as it is.
-/
import VolumeScan.Proofs.Scan.SteadyPass

namespace VolumeScan

/-- What there is to find on volumes is found on devices that were not scanned before, and consists
of partitions. -/
structure Finding.Sound (finding : Volume → Option Finding) : Prop where
  unscanned : ∀ {volume found}, finding volume = some found →
    volume.partition = none ∧ volume.kind = .unknown
  partitions : ∀ {volume found}, finding volume = some found →
    ∀ partition ∈ found.volumes, partition.isPartition = true

theorem Scanner.sound_finding {σ : Type} (scanner : Scanner σ) (state : σ) :
    Finding.Sound (scanner.finding state) where
  unscanned := fun h =>
    have hfound := eq_of_examine (finding_eq_some_iff.mp h)
    ⟨hfound.1, hfound.2.1⟩
  partitions := fun h => (eq_of_examine (finding_eq_some_iff.mp h)).2.2

namespace Finding.Sound

variable {finding : Volume → Option Finding}

/-- There is nothing to find on a partition. -/
theorem eq_none_of_isPartition (h : Sound finding) {volume : Volume}
    (hpartition : volume.isPartition = true) : finding volume = none := by
  cases hfound : finding volume with
  | none => rfl
  | some found =>
    rw [Volume.isPartition, (h.unscanned hfound).1] at hpartition
    cases hpartition

/-- There is nothing left to find on a volume that was enrolled. -/
theorem eq_none_of_enrolled (h : Sound finding) (volume : Volume) :
    finding (volume.enrolled (finding volume)) = none := by
  cases hfound : finding volume with
  | none => exact hfound
  | some found =>
    cases hagain : finding (volume.enrolled (some found)) with
    | none => rfl
    | some again =>
      have hkind := (h.unscanned hagain).2
      cases hscheme : found.scheme <;> simp [Volume.enrolled, hscheme, Scheme.container] at hkind

end Finding.Sound

namespace Registry

/-- There is nothing to find on the volume at an index, if there is a volume. -/
def Exhausted (finding : Volume → Option Finding) (registry : Registry) (index : Nat) : Prop :=
  registry.volumes[index]?.bind finding = none

variable {finding : Volume → Option Finding} {registry : Registry} {index i : Nat}

/-- A visit exhausts its place, and opens no other one again. -/
theorem exhausted_enrollFrom (hsound : Finding.Sound finding)
    (h : i = index ∨ registry.Exhausted finding i) :
    (registry.enrollFrom finding index).Exhausted finding i := by
  rcases Nat.lt_or_ge i registry.size with hold | hnew
  · rw [Exhausted, getElem?_enrollFrom finding hold]
    by_cases hindex : index = i
    · subst hindex
      rw [if_pos rfl]
      cases registry.volumes[index]? with
      | none => rfl
      | some volume => exact hsound.eq_none_of_enrolled volume
    · rw [if_neg hindex]
      exact h.resolve_left fun heq => hindex heq.symm
  · unfold Exhausted
    cases hat : (registry.enrollFrom finding index).volumes[i]? with
    | none => rfl
    | some volume =>
      obtain ⟨found, hfound, hmem⟩ := mem_of_getElem?_enroll hnew hat
      obtain ⟨device, -, hdevice⟩ := Option.bind_eq_some_iff.mp hfound
      exact hsound.eq_none_of_isPartition (hsound.partitions hdevice volume hmem)

/-- Behind a pass every place is exhausted that was visited or exhausted before. -/
theorem exhausted_enrollAll (hsound : Finding.Sound finding) {indices : List Nat}
    (h : i ∈ indices ∨ registry.Exhausted finding i) :
    (registry.enrollAll finding indices).Exhausted finding i := by
  induction indices generalizing registry with
  | nil => exact h.resolve_left List.not_mem_nil
  | cons index rest ih =>
    refine ih ?_
    rcases h with hmem | hexhausted
    · rcases List.mem_cons.mp hmem with heq | hrest
      · exact .inr (exhausted_enrollFrom hsound (.inl heq))
      · exact .inl hrest
    · exact .inr (exhausted_enrollFrom hsound (.inr hexhausted))

/-- A pass over exhausted places changes nothing. -/
theorem enrollAll_of_exhausted {indices : List Nat}
    (h : ∀ index ∈ indices, registry.Exhausted finding index) :
    registry.enrollAll finding indices = registry := by
  induction indices with
  | nil => rfl
  | cons index rest ih =>
    obtain ⟨hindex, hrest⟩ := List.forall_mem_cons.mp h
    have hsame : registry.enrollFrom finding index = registry := by
      unfold Exhausted at hindex
      rw [enrollFrom, hindex]
      rfl
    rw [enrollAll, List.foldl_cons, hsame]
    exact ih hrest

/-- A pass over all volumes leaves nothing to find. -/
theorem exhausted_of_pass (hsound : Finding.Sound finding) (registry : Registry) (i : Nat) :
    (registry.enrollAll finding (List.range registry.size)).Exhausted finding i := by
  refine exhausted_enrollAll hsound ?_
  rcases Nat.lt_or_ge i registry.size with hold | hnew
  · exact .inl (List.mem_range.mpr hold)
  · have hnone : registry.volumes[i]? = none := List.getElem?_eq_none hnew
    exact .inr (by rw [Exhausted, hnone]; rfl)

end Registry

namespace Scanner

variable {σ : Type} {scratch : Allocator σ} {start : σ}
  {answer : List (Nat × Nat) → Nat → Option Nat}

/-- **A second pass finds nothing new.** Take any registry, any devices with any reads that always
fail, any options, and an allocator whose answers depend only on the request and on what is out. If
a pass over the registry is followed by another one with the same options, then this one leaves the
registry as it found it, and says the same as the first one. -/
theorem second_pass_finds_nothing (hscratch : scratch.Answers start answer) (disks : Disks)
    (failing : UInt32 → UInt64 → Nat → Nat → Bool) (options : Options) (registry : Registry) :
    let scanner : Scanner σ := ⟨.ofReader (disks.reader failing) scratch, options⟩
    let first := scanner.discover registry start
    let second := scanner.discover first.registry first.state
    second.registry = first.registry ∧ second.result = first.result := by
  intro scanner first second
  have hsound := scanner.sound_finding start
  obtain ⟨hfirst, hread, hbetween⟩ := discover_steady (disks.reader failing) hscratch options
    (fun _ _ _ _ => rfl) .start registry
  obtain ⟨hsecond, hread', -⟩ := discover_steady (disks.reader failing) hscratch options
    (fun _ _ _ _ => rfl) hbetween first.registry
  have hsame : second.registry = first.registry := by
    refine hsecond.trans (Registry.enrollAll_of_exhausted fun index _ => ?_)
    rw [hfirst]
    exact Registry.exhausted_of_pass hsound registry index
  refine ⟨hsame, Bool.eq_iff_iff.mpr (hread'.trans (Iff.trans ?_ hread.symm))⟩
  have hkinds : ∀ volume kind, scanner.readable start { volume with kind := kind }
      = scanner.readable start volume :=
    fun _ _ => readable_with_kind hscratch options fun _ _ => rfl
  rw [hfirst]
  exact Registry.exists_any_enrollAll hkinds (fun h => readable_of_finding h) registry _

/-- The first pass over `splitDisk`, with scratch memory from an arena, finds two partitions, and
the second one nothing more. -/
theorem splitDisk_second_pass :
    let disks : Disks := ⟨.resident, [splitDevice]⟩
    let start := Pool.ofRegion 0 2048 0
    let scanner : Scanner Pool :=
      ⟨.ofReader (disks.reader fun _ _ _ _ => false) Pool.allocator, {}⟩
    let first := scanner.discover ⟨4, [splitDisk]⟩ start
    let second := scanner.discover first.registry first.state
    (∃ answer, Pool.allocator.Answers start answer)
      ∧ first.registry.size = 3 ∧ second.registry = first.registry ∧ second.result = true := by
  intro disks start scanner first second
  obtain ⟨answer, hscratch⟩ : ∃ answer, Pool.allocator.Answers start answer :=
    ⟨_, Pool.answers_allocator (Arena.settled_ofRegion 0 2048)⟩
  obtain ⟨hregistry, hresult⟩ :=
    second_pass_finds_nothing hscratch disks (fun _ _ _ _ => false) {} ⟨4, [splitDisk]⟩
  obtain ⟨hsize, hread⟩ : first.registry.size = 3 ∧ first.result = true := by decide +kernel
  exact ⟨⟨answer, hscratch⟩, hsize, hregistry, hresult.trans hread⟩

end Scanner

end VolumeScan

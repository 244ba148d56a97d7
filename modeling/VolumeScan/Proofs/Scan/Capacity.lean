/-
VolumeScan.Proofs.Scan.Capacity — what a larger registry would have changed.

One registry truncates another one (`Registry.Truncates`) if it holds the first volumes of it, as
many as it has places for. A visit does not see the difference: it examines the same volume and
finds the same, and enrolling that in both keeps the relation (`Truncates.enroll`). So a pass over
the smaller registry does what it would do with more room, step by step, and ends with the first
volumes of what it would have ended with.
-/
import VolumeScan.Proofs.Scan.ScratchDiscipline
import VolumeScan.Proofs.Scan.Survey
import VolumeScan.Scratch.Heap

namespace VolumeScan

namespace Registry

/-- `small` has so many places, and holds the first volumes of `large`, as many as there are places
for. -/
structure Truncates (capacity : Nat) (small large : Registry) : Prop where
  capacity_eq : small.capacity = capacity
  capacity_le : capacity ≤ large.capacity
  volumes_eq : small.volumes = large.volumes.take capacity

variable {capacity : Nat} {small large : Registry} {index : Nat}

/-- Volumes that both have room for are in both. -/
theorem truncates_of_length_le {larger : Nat} {volumes : List Volume}
    (hcapacity : capacity ≤ larger) (hvolumes : volumes.length ≤ capacity) :
    Truncates capacity ⟨capacity, volumes⟩ ⟨larger, volumes⟩ :=
  ⟨rfl, hcapacity, (List.take_of_length_le hvolumes).symm⟩

/-- A volume of the smaller registry stands in the same place of the larger one. -/
theorem Truncates.getElem?_eq (h : Truncates capacity small large) (hindex : index < small.size) :
    large.volumes[index]? = small.volumes[index]? := by
  have hlength : index < small.volumes.length := hindex
  rw [h.volumes_eq, List.length_take] at hlength
  rw [h.volumes_eq, List.getElem?_take, if_pos (by omega)]

/-- What there is no room for in the smaller registry is cut off its end. -/
theorem Truncates.enroll (h : Truncates capacity small large) (index : Nat)
    (finding : Option Finding) :
    Truncates capacity (small.enroll index finding) (large.enroll index finding) := by
  cases finding with
  | none => exact h
  | some finding =>
    have hcapacity := h.capacity_le
    have hroom : small.room = min (capacity - large.volumes.length) large.room := by
      unfold room size
      rw [h.capacity_eq, h.volumes_eq, List.length_take]
      omega
    refine ⟨h.capacity_eq, hcapacity, ?_⟩
    simp only [Registry.enroll]
    rw [List.take_append, List.take_modify, ← h.volumes_eq, List.length_modify, List.take_take,
      hroom]

end Registry

namespace Scanner

variable {σ : Type} (scanner : Scanner σ) {capacity : Nat} {small large : Registry}

/-- A visit to a volume in both registries does the same. -/
theorem visit_truncates (h : Registry.Truncates capacity small large) {index : Nat}
    (hindex : index < small.size) (state : σ) :
    let pass := scanner.visit small index state
    let roomier := scanner.visit large index state
    pass.result = roomier.result ∧ pass.state = roomier.state
      ∧ Registry.Truncates capacity pass.registry roomier.registry
      ∧ small.size ≤ pass.registry.size := by
  intro pass roomier
  have hat : small.volumes[index]? = some small.volumes[index] := List.getElem?_eq_getElem hindex
  obtain ⟨hresult, hstate, hregistry, -⟩ :=
    scanner.visit_eq_examine hat small state
  obtain ⟨hresult', hstate', hregistry', -⟩ :=
    scanner.visit_eq_examine ((h.getElem?_eq hindex).trans hat) small state
  refine ⟨hresult.trans hresult'.symm, hstate.trans hstate'.symm, ?_, ?_⟩
  · dsimp only [pass, roomier]
    rw [hregistry, hregistry']
    exact h.enroll index _
  · dsimp only [pass]
    rw [hregistry]
    exact small.size_le_enroll index _

/-- Visits to volumes in both registries do the same, although there is less room behind each. -/
theorem visitAll_truncates (h : Registry.Truncates capacity small large) {indices : List Nat}
    (hindices : ∀ index ∈ indices, index < small.size) (state : σ) :
    let pass := scanner.visitAll indices small state
    let roomier := scanner.visitAll indices large state
    pass.result = roomier.result ∧ pass.state = roomier.state
      ∧ Registry.Truncates capacity pass.registry roomier.registry := by
  induction indices generalizing small large state with
  | nil => exact ⟨rfl, rfl, h⟩
  | cons index rest ih =>
    obtain ⟨hindex, hrest⟩ := List.forall_mem_cons.mp hindices
    obtain ⟨hresult, hstate, htruncates, hsize⟩ := scanner.visit_truncates h hindex state
    obtain ⟨hfurther, hlast, hend⟩ := ih htruncates
      (fun index hmem => Nat.lt_of_lt_of_le (hrest index hmem) hsize)
      (scanner.visit small index state).state
    dsimp only [visitAll]
    rw [← hstate, ← hresult, ← hfurther]
    exact ⟨rfl, hlast, hend⟩

/-- So passes over registries with the same volumes do the same, if both have room for these. -/
theorem discover_truncates {larger : Nat} (hcapacity : capacity ≤ larger) {volumes : List Volume}
    (hvolumes : volumes.length ≤ capacity) (state : σ) :
    let pass := scanner.discover ⟨capacity, volumes⟩ state
    let roomier := scanner.discover ⟨larger, volumes⟩ state
    pass.result = roomier.result ∧ pass.state = roomier.state
      ∧ Registry.Truncates capacity pass.registry roomier.registry := by
  intro pass roomier
  obtain ⟨hresult, hregistry, hstate, -⟩ :=
    scanner.discover_eq_visitAll ⟨capacity, volumes⟩ state
  obtain ⟨hresult', hregistry', hstate', -⟩ :=
    scanner.discover_eq_visitAll ⟨larger, volumes⟩ state
  dsimp only [pass, roomier]
  rw [hresult, hregistry, hstate, hresult', hregistry', hstate']
  exact scanner.visitAll_truncates (Registry.truncates_of_length_le hcapacity hvolumes)
    (fun _ => List.mem_range.mp) state

/-- **Capacity only truncates.** Take any volumes, and two capacities that leave room for them. A
pass over a registry of the smaller capacity says the same as a pass over one of the larger
capacity, asks the environment for the same reads, blocks and releases in the same order, and ends
with the first volumes of what the other one ends with. -/
theorem capacity_only_truncates (env : Environment σ) (options : Options) {capacity larger : Nat}
    (hcapacity : capacity ≤ larger) {volumes : List Volume} (hvolumes : volumes.length ≤ capacity)
    (state : σ) :
    let pass := discover ⟨env, options⟩ ⟨capacity, volumes⟩ state
    let roomier := discover ⟨env, options⟩ ⟨larger, volumes⟩ state
    pass.result = roomier.result ∧ pass.state = roomier.state
      ∧ Event.calls pass.events = Event.calls roomier.events
      ∧ pass.registry.volumes = roomier.registry.volumes.take capacity := by
  intro pass roomier
  obtain ⟨hresult, hstate, htruncates⟩ :=
    discover_truncates ⟨env, options⟩ hcapacity hvolumes state
  refine ⟨hresult, hstate, ?_, htruncates.volumes_eq⟩
  -- What the environment is asked for is a part of the state of the recorded environment.
  obtain ⟨-, hrecorded, -⟩ :=
    discover_truncates ⟨env.recorded, options⟩ hcapacity hvolumes (state, [])
  have hcalls := fun capacity =>
    (Request.discover options).callsOf_eq env ⟨capacity, volumes⟩ state
  exact (hcalls capacity).symm.trans ((congrArg Prod.snd hrecorded).trans (hcalls larger))

/-- Of the two partitions of `splitDisk`, a registry for two volumes keeps the first one. -/
theorem splitDisk_truncated :
    let env := Environment.ofDisks ⟨.resident, [splitDevice]⟩ [] (Heap.allocator ⟨16, 4096, 0⟩)
    let pass := discover ⟨env, {}⟩ ⟨2, [splitDisk]⟩ 0
    let roomier := discover ⟨env, {}⟩ ⟨3, [splitDisk]⟩ 0
    (2 ≤ 3 ∧ [splitDisk].length ≤ 2) ∧ roomier.registry.size = 3
      ∧ Event.calls pass.events = Event.calls roomier.events
      ∧ pass.registry.volumes = [{ splitDisk with kind := .mbrContainer },
          splitDisk.partitionAt 0 512 2 .fat] := by
  intro env pass roomier
  have hcapacity : 2 ≤ 3 := by decide
  have hvolumes : [splitDisk].length ≤ 2 := by decide
  obtain ⟨-, -, hcalls, htake⟩ := capacity_only_truncates env {} hcapacity hvolumes 0
  have hroomier : roomier.registry.volumes = [{ splitDisk with kind := .mbrContainer },
      splitDisk.partitionAt 0 512 2 .fat, splitDisk.partitionAt 1 1536 5 .unclassified] := by
    decide +kernel
  refine ⟨⟨hcapacity, hvolumes⟩, congrArg List.length hroomier, hcalls, ?_⟩
  rw [hroomier] at htake
  exact htake

end Scanner

end VolumeScan

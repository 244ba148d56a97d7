/-
VolumeScan.Proofs.Scan.Discovery — a pass over the volumes, visit by visit.

One equation for each way in which a visit can go. Reading the first sector leaves the registry
alone (`Scanner.registry_readBootSector`), so a visit changes it only by the detection in it.
-/
import VolumeScan.Proofs.Scan.Detection
import VolumeScan.Scan.Discovery

namespace VolumeScan

namespace Scanner

open VolumeScan.Action

variable {σ : Type} {scanner : Scanner σ} {registry : Registry} {index : Nat} {state : σ}
  {volume : Volume}

/-- Reading the first sector of a volume does not touch the registry. -/
theorem registry_readBootSector (scanner : Scanner σ) (volume : Volume) (registry : Registry)
    (state : σ) : ((scanner.readBootSector volume).run registry state).registry = registry := by
  have hreads : (scanner.readBootSector volume).Transacts registry
      fun _ after => after = registry := by
    unfold readBootSector
    refine .withBuffer fun _ => .bind (.fill fun _ => ⟨rfl, ?_⟩)
    exact .bind (.lift fun _ _ => ⟨rfl, .lift fun _ _ => rfl⟩)
  exact hreads.registry_eq state

theorem run_readBootSector {result : Except Error Mbr}
    (h : ((scanner.readBootSector volume).run registry state).result = result) :
    (scanner.readBootSector volume).run registry state =
      ⟨result, registry, ((scanner.readBootSector volume).run registry state).state,
        ((scanner.readBootSector volume).run registry state).events⟩ := by
  have hkept := registry_readBootSector scanner volume registry state
  rcases hrun : (scanner.readBootSector volume).run registry state with ⟨_, after, _, _⟩
  rw [hrun] at h hkept
  cases h
  cases hkept
  rfl

/-- A pass is the sequence of its visits, and a summary in the log. -/
theorem discover_eq_visitAll (scanner : Scanner σ) (registry : Registry) (state : σ) :
    let pass := scanner.discover registry state
    let visits := scanner.visitAll (List.range registry.size) registry state
    pass.result = visits.result ∧ pass.registry = visits.registry ∧ pass.state = visits.state
      ∧ ∀ event ∈ visits.events, event ∈ pass.events := by
  intro pass visits
  dsimp only [pass]
  unfold discover
  by_cases hempty : registry.size = 0
  · have hvisits : visits = ⟨false, registry, state, []⟩ := by
      dsimp only [visits]
      rw [hempty]
      rfl
    rw [if_pos hempty, hvisits]
    exact ⟨rfl, rfl, rfl, nofun⟩
  · rw [if_neg hempty]
    exact ⟨rfl, rfl, rfl, fun _ hmem => List.mem_append_left _ hmem⟩

/-- Behind the events of its visits, a pass only writes a summary to the log. This is at info level
exactly if something could be read, and then it says how many volumes there are in the end. -/
theorem exists_events_discover (scanner : Scanner σ) (registry : Registry) (state : σ) :
    ∃ summary, (scanner.discover registry state).events
        = (scanner.visitAll (List.range registry.size) registry state).events ++ [.log summary]
      ∧ [summary].filter (·.level = .info)
        = if (scanner.discover registry state).result then
            [.finished (scanner.discover registry state).registry.size] else [] := by
  unfold discover
  by_cases hempty : registry.size = 0
  · rw [if_pos hempty, hempty]
    exact ⟨.noVolumes, rfl, rfl⟩
  · rw [if_neg hempty]
    refine ⟨_, rfl, ?_⟩
    cases (scanner.visitAll (List.range registry.size) registry state).result <;> rfl

/-! ## The ways of a visit -/

theorem visit_of_none (h : registry.volumes[index]? = none) :
    scanner.visit registry index state = ⟨false, registry, state, []⟩ := by
  unfold visit Registry.get?
  rw [h]

theorem visit_of_unreadable (h : registry.volumes[index]? = some volume) {error : Error}
    (hboot : ((scanner.readBootSector volume).run registry state).result = .error error) :
    scanner.visit registry index state =
      let boot := (scanner.readBootSector volume).run registry state
      ⟨false, registry, boot.state, boot.events ++ [.log (.unreadable index error)]⟩ := by
  unfold visit Registry.get?
  rw [h]
  dsimp only
  rw [run_readBootSector hboot]

theorem visit_of_noTable (h : registry.volumes[index]? = some volume) {mbr : Mbr}
    (hboot : ((scanner.readBootSector volume).run registry state).result = .ok mbr) {error : Error}
    (hinvalid : mbr.validate volume = .error error) :
    scanner.visit registry index state =
      let boot := (scanner.readBootSector volume).run registry state
      ⟨true, registry, boot.state, boot.events ++ [.log (.noTable index error)]⟩ := by
  unfold visit Registry.get?
  rw [h]
  dsimp only
  rw [run_readBootSector hboot]
  dsimp only
  rw [hinvalid]

theorem visit_of_table (h : registry.volumes[index]? = some volume) {mbr : Mbr}
    (hboot : ((scanner.readBootSector volume).run registry state).result = .ok mbr)
    (hvalid : mbr.validate volume = .ok ()) :
    scanner.visit registry index state =
      let boot := (scanner.readBootSector volume).run registry state
      let pass := scanner.detectOrLog mbr index registry boot.state
      ⟨true, pass.registry, pass.state,
        boot.events ++ pass.events ++ (reports pass.registry pass.result).map .log⟩ := by
  unfold visit Registry.get?
  rw [h]
  dsimp only
  rw [run_readBootSector hboot]
  dsimp only
  rw [hvalid]

end Scanner

end VolumeScan

/-
VolumeScan.Proofs.Scan.Atomicity — detection is all or nothing.

A detection that fails leaves the registry as it was, although it works on the registry in place and
appends one volume after another. One that succeeds classifies the device and appends the volumes
it reports, and touches nothing else. Both hold for every registry, table and index, and for every
environment: whatever is read, whichever reads fail, and whatever becomes of the requests for
scratch memory.
-/
import VolumeScan.Proofs.Scan.Detection

namespace VolumeScan

namespace Scanner

variable {σ : Type}

/-- Once the partitions of an unscanned device are registered, the device can be classified. -/
theorem classify_of_enlist {scanner : Scanner σ} {mbr : Mbr} {index : Nat} {registry : Registry}
    {volume : Volume} {state : σ} (hat : registry.volumes[index]? = some volume)
    (hwhole : volume.partition = none) (hunknown : volume.kind = .unknown) {enlisted : Enlisted}
    (h : ((scanner.enlist mbr volume).run registry state).result = .ok enlisted) :
    ∃ classified, ((scanner.enlist mbr volume).run registry state).registry.classify index
      enlisted.scheme.container = .ok classified := by
  rcases enlist_transacts scanner mbr volume registry state with
    ⟨error, herror, -⟩ | ⟨_, hok, partitions, -, hafter, -⟩
  · rw [herror] at h
    cases h
  · rw [hafter]
    exact ⟨_, Registry.classify_extend hat hwhole hunknown _ _⟩

/-- **Detection is all or nothing.** A failed detection leaves the registry as it was. One that
succeeds classifies the device, which had not been classified, appends the volumes that it reports
behind those that were there, and changes nothing else. The step that classifies the device never
fails once its partitions are registered. The variant that only logs what went wrong makes the same
change, and its result is the old size. -/
theorem detect_all_or_nothing (scanner : Scanner σ) (mbr : Mbr) (index : Nat) (registry : Registry)
    (state : σ) :
    let pass := (scanner.detect mbr index).run registry state
    let logged := scanner.detectOrLog mbr index registry state
    (match pass.result with
      | .error _ => pass.registry = registry
      | .ok detection => ∃ volume added,
          registry.volumes[index]? = some volume
            ∧ volume.partition = none ∧ volume.kind = .unknown
            ∧ (detection.kind = .mbrContainer ∨ detection.kind = .gptContainer)
            ∧ detection.first = registry.size ∧ detection.added = added.length
            ∧ pass.registry = { registry with
                volumes := registry.volumes.set index { volume with kind := detection.kind }
                  ++ added })
      ∧ (∀ volume, registry.volumes[index]? = some volume →
          volume.partition = none → volume.kind = .unknown →
          ∀ enlisted, ((scanner.enlist mbr volume).run registry state).result = .ok enlisted →
          ∃ classified, ((scanner.enlist mbr volume).run registry state).registry.classify index
            enlisted.scheme.container = .ok classified)
      ∧ logged.result = registry.size ∧ logged.registry = pass.registry := by
  intro pass logged
  have hlogged : logged = ⟨registry.size, pass.registry, pass.state,
      pass.events ++ (unusedTable index pass.result).map .log⟩ :=
    detectOrLog_eq scanner mbr index registry state
  refine ⟨?_, fun volume hat hwhole hunknown enlisted h =>
    classify_of_enlist hat hwhole hunknown h, ?_, ?_⟩
  rotate_left
  · rw [hlogged]
  · rw [hlogged]
  rcases detect_transacts scanner mbr index registry state with
    ⟨error, herror, hkept⟩ | ⟨detection, hok, volume, scheme, partitions, hat, hwhole, hunknown, -,
      hafter, hfirst, hadded, hkind, -⟩
  · change match pass.result with | .error _ => _ | .ok _ => _
    rw [show pass.result = .error error from herror]
    exact hkept
  · change match pass.result with | .error _ => _ | .ok _ => _
    rw [show pass.result = .ok detection from hok]
    refine ⟨volume, _, hat, hwhole, hunknown, ?_, hfirst, hadded, ?_⟩
    · cases scheme
      · exact .inl hkind
      · exact .inr hkind
    · rw [hkind]
      exact hafter

end Scanner

end VolumeScan

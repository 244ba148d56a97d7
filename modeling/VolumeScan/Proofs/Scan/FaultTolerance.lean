/-
VolumeScan.Proofs.Scan.FaultTolerance — faults can hide a table, but not change it.

Two environments over the same volumes may differ in which reads fail, in how much memory they grant
and in whether they take it back. A detection that succeeds comes down to the GPT that the volume
has (`Scanner.yields_detect_hasGpt_iff`) or to the legacy table alone
(`Scanner.yields_detect_mbr_iff`), and neither of them is an affair of the environment. So all
detections that succeed agree (`Scanner.yields_detect_unique`), and where one succeeds in spite of
faults, every one succeeds that is not hindered (`Scanner.yields_detect_unhindered`).
-/
import VolumeScan.Proofs.Scan.MbrDetection
import VolumeScan.Proofs.Scan.Unhindered
import VolumeScan.Scratch.Heap

namespace VolumeScan

namespace Scanner

open VolumeScan.Action

variable {σ τ : Type} {env : Environment σ} {env' : Environment τ} {options : Options} {mbr : Mbr}
  {index : Nat} {registry after after' : Registry} {state : σ} {state' : τ}
  {detection detection' : Detection}

/-- A detection only succeeds on a device that was not scanned before. -/
theorem unscanned_of_yields
    (h : (Scanner.detect ⟨env, options⟩ mbr index).Yields registry state detection after) :
    ∃ volume, registry.volumes[index]? = some volume ∧ volume.partition = none
      ∧ volume.kind = .unknown := by
  rcases detect_transacts ⟨env, options⟩ mbr index registry state with
    ⟨error, herror, -⟩ | ⟨_, -, volume, _, _, hat, hwhole, hunknown, -⟩
  · rw [h.1] at herror
    cases herror
  · exact ⟨volume, hat, hwhole, hunknown⟩

section

variable {contents : Volume → Contents}
  (hshows : ∀ volume ∈ registry.volumes, env.Shows volume (contents volume))
  (hshows' : ∀ volume ∈ registry.volumes, env'.Shows volume (contents volume))
  (h : (Scanner.detect ⟨env, options⟩ mbr index).Yields registry state detection after)

include hshows hshows' h

/-- All detections that succeed on the same contents agree. -/
theorem yields_detect_unique
    (h' : (Scanner.detect ⟨env', options⟩ mbr index).Yields registry state' detection' after') :
    detection' = detection ∧ after' = after := by
  obtain ⟨volume, hat, hwhole, hunknown⟩ := unscanned_of_yields h
  have hmem := List.mem_of_getElem? hat
  -- The branch is taken before anything is read, so it is the same one in both environments.
  by_cases hannounced : options.gpt = .revisionOne ∧ mbr.protectiveIndex?.isSome
  · rw [yields_detect_hasGpt_iff (hshows volume hmem) hat hwhole hunknown hannounced] at h
    rw [yields_detect_hasGpt_iff (hshows' volume hmem) hat hwhole hunknown hannounced] at h'
    obtain ⟨-, slot, header, array, hgpt, rfl, rfl⟩ := h
    obtain ⟨-, slot', header', array', hgpt', rfl, rfl⟩ := h'
    obtain ⟨rfl, rfl, rfl⟩ := hgpt.unique hgpt'
    exact ⟨rfl, rfl⟩
  · rw [yields_detect_mbr_iff hat hwhole hunknown hannounced] at h h'
    obtain ⟨-, -, rfl, rfl⟩ := h
    obtain ⟨-, -, rfl, rfl⟩ := h'
    exact ⟨rfl, rfl⟩

/-- A detection that is not hindered succeeds, if one succeeds elsewhere on the same contents. -/
theorem yields_detect_unhindered
    (hunhindered : ∀ volume ∈ registry.volumes, Event.Unhindered volume (contents volume)
      ((Scanner.detect ⟨env', options⟩ mbr index).run registry state').events) :
    (Scanner.detect ⟨env', options⟩ mbr index).Yields registry state' detection after := by
  obtain ⟨volume, hat, hwhole, hunknown⟩ := unscanned_of_yields h
  have hmem := List.mem_of_getElem? hat
  by_cases hannounced : options.gpt = .revisionOne ∧ mbr.protectiveIndex?.isSome
  · rw [yields_detect_hasGpt_iff (hshows volume hmem) hat hwhole hunknown hannounced] at h
    rw [yields_detect_hasGpt_iff (hshows' volume hmem) hat hwhole hunknown hannounced]
    exact ⟨hunhindered volume hmem, h.2⟩
  · rw [yields_detect_mbr_iff hat hwhole hunknown hannounced] at h ⊢
    exact h

end

/-- **Faults hide a table or leave it as it is.** Take the same registry, table, index and options,
and any two environments that show the same volumes, whatever else they do. If the detection
succeeds in the first one, then it has the same result and the same registry in the second one, if
it succeeds there; and it does succeed there, if in its own run every read of bytes that the volumes
hold succeeds and every request for memory is granted in full. -/
theorem detect_faults_only_hide (env : Environment σ) (env' : Environment τ) (options : Options)
    (mbr : Mbr) (index : Nat) (registry : Registry) (state : σ) (state' : τ)
    (contents : Volume → Contents)
    (hshows : ∀ volume ∈ registry.volumes, env.Shows volume (contents volume))
    (hshows' : ∀ volume ∈ registry.volumes, env'.Shows volume (contents volume)) :
    let pass := (Scanner.detect ⟨env, options⟩ mbr index).run registry state
    let pass' := (Scanner.detect ⟨env', options⟩ mbr index).run registry state'
    ∀ detection, pass.result = .ok detection →
      (∀ detection', pass'.result = .ok detection' →
          detection' = detection ∧ pass'.registry = pass.registry)
        ∧ ((∀ volume ∈ registry.volumes,
              Event.Unhindered volume (contents volume) pass'.events) →
            pass'.result = .ok detection ∧ pass'.registry = pass.registry) := by
  intro pass pass' detection hok
  refine ⟨fun detection' hok' => ?_, fun hunhindered => ?_⟩
  · exact yields_detect_unique hshows hshows' ⟨hok, rfl⟩ ⟨hok', rfl⟩
  · exact yields_detect_unhindered hshows hshows' ⟨hok, rfl⟩ hunhindered

/-- The disk with a broken sector, which is the one of its partition, and a heap that lends larger
blocks than it is asked for. -/
def patchyEnvironment : Environment Nat :=
  .ofDisks (tinyDisks (tinyHeader.encode [] 128) tinyEntry.encode) [(0, 384)]
    (Heap.allocator { granule := 512, limit := 4096, shortfall := 0 })

theorem servesGpt_patchy :
    patchyEnvironment.ServesGpt tinyDisk 0 .primary tinyHeader tinyEntry.encode := by
  refine servesGpt_tinyDisks length_tinyHeader length_tinyEntry _ [(0, 384)] 0
    chooseHeader_tinyHeader rfl (by decide) (by decide) rfl rfl rfl crc32_tinyEntry.symm ?_
  rw [usedEntries_tinyHeader]
  decide

/-- What the detection makes of the broken disk, it makes of the sound one on an arena as well. -/
theorem detect_tinyDisk_patchy :
    let contents := (tinyDisks (tinyHeader.encode [] 128) tinyEntry.encode).contents
    let pass := (Scanner.detect ⟨patchyEnvironment, {}⟩ tinyTable 0).run ⟨2, [tinyDisk]⟩ 0
    let pass' := (Scanner.detect ⟨tinyEnvironment, {}⟩ tinyTable 0).run ⟨2, [tinyDisk]⟩ tinyPool
    (∀ volume, patchyEnvironment.Shows volume (contents volume)
        ∧ tinyEnvironment.Shows volume (contents volume))
      ∧ (∀ volume, Event.Unhindered volume (contents volume) pass'.events)
      ∧ pass.result = .ok ⟨1, 1, .gptContainer, some .primary, false⟩
      ∧ pass'.result = .ok ⟨1, 1, .gptContainer, some .primary, false⟩
      ∧ pass'.registry = pass.registry := by
  intro contents pass pass'
  have hshows : ∀ volume, patchyEnvironment.Shows volume (contents volume) :=
    fun volume => Environment.ofDisks_shows _ volume _ _
  have hshows' : ∀ volume, tinyEnvironment.Shows volume (contents volume) :=
    fun volume => Environment.ofDisks_shows _ volume _ _
  have hok : pass.result = .ok ⟨1, 1, .gptContainer, some .primary, false⟩ :=
    result_tinyDisks servesGpt_patchy usedEntries_tinyHeader
  have hunhindered : ∀ volume, Event.Unhindered volume (contents volume) pass'.events :=
    fun volume => unhindered_of_detect
      (result_tinyDisks servesGpt_tinyDisk usedEntries_tinyHeader) volume (contents volume)
  obtain ⟨-, hfaultless⟩ := detect_faults_only_hide patchyEnvironment tinyEnvironment {} tinyTable 0
    ⟨2, [tinyDisk]⟩ 0 tinyPool contents (fun volume _ => hshows volume)
    (fun volume _ => hshows' volume) _ hok
  obtain ⟨hok', hregistry⟩ := hfaultless fun volume _ => hunhindered volume
  exact ⟨fun volume => ⟨hshows volume, hshows' volume⟩, hunhindered, hok, hok', hregistry⟩

end Scanner

end VolumeScan

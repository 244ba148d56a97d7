/-
VolumeScan.Proofs.Scan.Survey — what a visit finds, and what it registers.

A visit reads and checks a table as a whole before it registers anything. The first part is an
action of its own (`Scanner.examine`), which looks at one volume and at no registry; what it finds
is the kind of a table and the volumes of its partitions (`Finding`). The second part is a function
of the registry and the finding (`Registry.enroll`), and asks the environment for nothing. So a
visit is an examination of its volume, with the finding enrolled (`Scanner.visit_eq_examine`).
-/
import VolumeScan.Proofs.Scan.Lineage
import VolumeScan.Proofs.Scan.Similarity

namespace VolumeScan

/-- What a table says: its kind, and the volumes of its partitions in order. -/
structure Finding where
  scheme : Scheme
  volumes : List Volume
deriving DecidableEq, Repr

/-- The volume with the kind of what was found on it. -/
def Volume.enrolled (finding : Option Finding) (volume : Volume) : Volume :=
  match finding with
  | none => volume
  | some finding => { volume with kind := finding.scheme.container }

/-- Only the kind changes. -/
theorem Volume.enrolled_eq (finding : Option Finding) (volume : Volume) :
    ∃ kind, volume.enrolled finding = { volume with kind := kind } := by
  cases finding with
  | none => exact ⟨volume.kind, rfl⟩
  | some finding => exact ⟨finding.scheme.container, rfl⟩

namespace Registry

/-- Record what was found on the volume at an index, if anything was: classify the volume, and
append as many of the volumes found as there is room for. -/
def enroll (registry : Registry) (index : Nat) : Option Finding → Registry
  | none => registry
  | some finding => { registry with
      volumes := registry.volumes.modify index ({ · with kind := finding.scheme.container })
        ++ finding.volumes.take registry.room }

/-- Enrolling is classifying a volume behind which others were appended. -/
theorem classify_extend_eq_enroll {registry : Registry} {index : Nat} {volume : Volume}
    (hat : registry.volumes[index]? = some volume) (hwhole : volume.partition = none)
    (hunknown : volume.kind = .unknown) (finding : Finding) :
    (registry.extend finding.volumes).classify index finding.scheme.container
      = .ok (registry.enroll index (some finding)) := by
  rw [classify_extend hat hwhole hunknown, enroll]
  obtain ⟨hindex, rfl⟩ := List.getElem?_eq_some_iff.mp hat
  rw [List.modify_eq_take_cons_drop hindex, List.set_eq_take_append_cons_drop, if_pos hindex]

/-- Enrolling takes no volume away. -/
theorem size_le_enroll (registry : Registry) (index : Nat) (finding : Option Finding) :
    registry.size ≤ (registry.enroll index finding).size := by
  cases finding with
  | none => exact Nat.le_refl _
  | some finding => simp [size, enroll]

/-- Of the volumes that were there before, only the one that was visited may change. -/
theorem getElem?_enroll {registry : Registry} {i : Nat} (hi : i < registry.size) (index : Nat)
    (finding : Option Finding) :
    (registry.enroll index finding).volumes[i]? = if index = i then
        registry.volumes[i]?.map (Volume.enrolled finding) else registry.volumes[i]? := by
  cases finding with
  | none => cases hat : registry.volumes[i]? <;> simp [enroll, Volume.enrolled, hat]
  | some finding =>
    have hmodified : i < (registry.volumes.modify index
        ({ · with kind := finding.scheme.container })).length := by
      rw [List.length_modify]
      exact hi
    dsimp only [enroll]
    rw [List.getElem?_append_left hmodified, List.getElem?_modify]
    cases registry.volumes[i]? with
    | none => simp
    | some volume => by_cases hindex : index = i <;> simp [hindex, Volume.enrolled]

/-- The other volumes are some of those that were found. -/
theorem mem_of_getElem?_enroll {registry : Registry} {i index : Nat} (hi : registry.size ≤ i)
    {finding : Option Finding} {volume : Volume}
    (hat : (registry.enroll index finding).volumes[i]? = some volume) :
    ∃ found, finding = some found ∧ volume ∈ found.volumes := by
  cases finding with
  | none =>
    have hnone : registry.volumes[i]? = none := List.getElem?_eq_none hi
    rw [enroll, hnone] at hat
    cases hat
  | some found =>
    refine ⟨found, rfl, ?_⟩
    dsimp only [enroll] at hat
    rw [List.getElem?_append_right (by rwa [List.length_modify])] at hat
    exact List.mem_of_mem_take (List.mem_of_getElem? hat)

end Registry

/-! ## Surveys -/

section

variable {σ α : Type}

/-- One pass registers what the other one found, and nothing if that failed. It asks the environment
for the same; and if there is no room for all that was found, it logs that. -/
structure Pass.Registers (registry : Registry) (found : Pass σ (Except Error Finding))
    (pass : Pass σ (Except Error Enlisted)) : Prop where
  state_eq : pass.state = found.state
  failed : ∀ error, found.result = .error error →
    pass.result = .error error ∧ pass.registry = registry
  registered : ∀ finding, found.result = .ok finding →
    ∃ enlisted, pass.result = .ok enlisted ∧ enlisted.scheme = finding.scheme
      ∧ pass.registry = registry.extend finding.volumes
  truncated : ∀ finding, found.result = .ok finding → registry.room < finding.volumes.length →
    .log (.registryFull registry.capacity finding.scheme) ∈ pass.events

/-- What happened before makes no difference. -/
theorem Pass.Registers.behind {registry : Registry} {found : Pass σ (Except Error Finding)}
    {pass : Pass σ (Except Error Enlisted)} (h : Pass.Registers registry found pass)
    (surveyed events : List Event) :
    Pass.Registers registry { found with events := surveyed }
      { pass with events := events ++ pass.events } :=
  ⟨h.state_eq, h.failed, h.registered, fun finding hfound hroom =>
    List.mem_append_right _ (h.truncated finding hfound hroom)⟩

namespace Action

/-- Do the same, but go on if it fails. -/
def attempt (action : Action σ α) : Action σ (Option α) where
  run registry state :=
    let pass := action.run registry state
    ⟨.ok pass.result.toOption, pass.registry, pass.state, pass.events⟩

/-- Going on is similar if what is done is. -/
theorem Similar.attempt {τ : Type} {R : List (Grant × Grant) → σ → τ → Prop} {action : Action σ α}
    {action' : Action τ α} (h : Similar R action action') :
    Similar R action.attempt action'.attempt := by
  intro out s t hR registry registry'
  obtain ⟨hresult, hR'⟩ := h out s t hR registry registry'
  refine ⟨?_, hR'⟩
  show Except.ok (action'.run registry' t).result.toOption = .ok _
  rw [hresult]

/-- The action registers what the survey finds, whatever is in the registry. -/
def Registers (survey : Action σ Finding) (action : Action σ Enlisted) : Prop :=
  ∀ blank registry state,
    Pass.Registers registry (survey.run blank state) (action.run registry state)

namespace Registers

theorem error (error : Error) :
    Registers (liftM (.error error : Except Error Finding) : Action σ Finding)
      (liftM (.error error : Except Error Enlisted)) :=
  fun _ _ _ => ⟨rfl, fun _ herror => ⟨by cases herror; rfl, rfl⟩, nofun, nofun⟩

/-- The loop registers the partitions, if none of its items can fail. -/
theorem enlistAll {scheme : Scheme} {describe : α → Except Error Partition} {items : List α}
    {partitions : List Partition} (h : items.map describe = partitions.map .ok)
    (slot : Option Gpt.HeaderCopy) :
    Registers (Pure.pure ⟨scheme, partitions.map (·.volume)⟩ : Action σ Finding)
      (Scanner.enlistAll scheme describe items >>= fun truncated =>
        Pure.pure ⟨scheme, slot, truncated⟩) := by
  intro blank registry state
  have hloop : (Scanner.enlistAll scheme describe items : Action σ Bool).run registry state = _ :=
    Scanner.enlistAll_apply h registry state
  rw [run_bind_of_ok (congrArg Pass.result hloop), hloop]
  refine ⟨rfl, nofun, fun finding hfound => ?_, fun finding hfound hroom => ?_⟩
  · cases hfound
    exact ⟨_, rfl, rfl, rfl⟩
  · cases hfound
    rw [List.length_map] at hroom
    simp [Scanner.enlistRecords, hroom]

/-- Both may make a first step that leaves the registry alone. -/
theorem bind {first : Action σ α} {survey : α → Action σ Finding} {action : α → Action σ Enlisted}
    (hblind : ∀ blank registry state,
      (first.run registry state).result = (first.run blank state).result
        ∧ (first.run registry state).state = (first.run blank state).state
        ∧ (first.run registry state).registry = registry)
    (h : ∀ a, (∃ registry state, (first.run registry state).result = .ok a) →
      Registers (survey a) (action a)) :
    Registers (first >>= survey) (first >>= action) := by
  intro blank registry state
  obtain ⟨hresult, hstate, hregistry⟩ := hblind blank registry state
  cases hfirst : (first.run blank state).result with
  | error error =>
    rw [run_bind_of_error hfirst, run_bind_of_error (hresult.trans hfirst)]
    exact ⟨hstate, fun _ herror => ⟨by cases herror; rfl, hregistry⟩, nofun, nofun⟩
  | ok a =>
    rw [run_bind_of_ok hfirst, run_bind_of_ok (hresult.trans hfirst), hstate, hregistry]
    exact (h a ⟨_, _, hfirst⟩ _ registry _).behind _ _

/-- Only the action may log. -/
theorem log {survey : Action σ Finding} {action : Unit → Action σ Enlisted} (records : List Record)
    (h : Registers survey (action ())) : Registers survey (Action.log records >>= action) := by
  intro blank registry state
  have hlogged : ((Action.log records : Action σ Unit).run registry state).result = .ok () := rfl
  rw [run_bind_of_ok hlogged]
  exact (h blank registry state).behind _ _

/-- Both may do this with a buffer. -/
theorem withBuffer {env : Environment σ} {size : Nat} {survey : Grant → Action σ Finding}
    {action : Grant → Action σ Enlisted} (h : ∀ grant, Registers (survey grant) (action grant)) :
    Registers (Action.withBuffer env size survey) (Action.withBuffer env size action) := by
  intro blank registry state
  rcases hacquire : env.scratch.acquire state size with ⟨acquisition, acquired⟩
  cases acquisition with
  | refused =>
    rw [run_withBuffer_of_refused hacquire, run_withBuffer_of_refused hacquire]
    exact ⟨rfl, fun _ herror => ⟨by cases herror; rfl, rfl⟩, nofun, nofun⟩
  | short grant =>
    rw [run_withBuffer_of_short hacquire, run_withBuffer_of_short hacquire]
    exact ⟨rfl, fun _ herror => ⟨by cases herror; rfl, rfl⟩, nofun, nofun⟩
  | whole grant =>
    have hbody := h grant blank registry acquired
    rw [run_withBuffer_of_whole hacquire, run_withBuffer_of_whole hacquire]
    refine ⟨?_, hbody.failed, hbody.registered, fun finding hfound hroom => ?_⟩
    · dsimp only
      rw [hbody.state_eq]
    · exact List.mem_append_left _ (List.mem_cons_of_mem _ (hbody.truncated finding hfound hroom))

/-- So the action registers what the survey finds behind whatever both of them read. -/
theorem reading (env : Environment σ) (volume : Volume) :
    ReadRules env env Eq volume fun _ (survey : Action σ Finding) action =>
      Registers survey action where
  lift_bind := fun x _ _ hnext =>
    bind (fun _ _ _ => ⟨rfl, rfl, rfl⟩) fun c ⟨_, _, hc⟩ => hnext c hc
  log_bind := fun records _ _ hnext => bind (fun _ _ _ => ⟨rfl, rfl, rfl⟩) fun _ _ => hnext
  fill_bind := fun hsame pos len _ _ hnext => by
    subst hsame
    refine bind (fun blank registry state => ?_) fun bytes _ => hnext bytes
    obtain ⟨hresult, hstate⟩ :=
      (Similar.fill (env.similar_self volume) rfl pos len).blind blank registry state
    exact ⟨hresult, hstate, Transacts.registry_eq (.fill fun _ => rfl) state⟩
  withBuffer := fun hbody => withBuffer fun grant => hbody grant grant rfl

end Registers

end Action

namespace Scanner

open VolumeScan.Action

variable (scanner : Scanner σ)

/-- Read and check the table on `parent` that `mbr` announces, and register nothing. -/
def survey (mbr : Mbr) (parent : Volume) : Action σ Finding :=
  if scanner.options.gpt = .revisionOne ∧ mbr.protectiveIndex?.isSome then
    scanner.withHeader parent fun _ header =>
      scanner.withTable parent header fun array =>
        return ⟨.gpt, (header.partitions array parent).map (·.volume)⟩
  else if scanner.options.mbr = .never then
    Action.ofExcept (.error .notFound)
  else do
    mbr.validate parent
    return ⟨.mbr, (mbr.partitions parent).map (·.volume)⟩

/-- **Registering the partitions of a table is surveying it**, and then registering what was
found. -/
theorem registers_enlist (mbr : Mbr) (parent : Volume) :
    Registers (scanner.survey mbr parent) (scanner.enlist mbr parent) := by
  unfold survey enlist
  by_cases hannounced : scanner.options.gpt = .revisionOne ∧ mbr.protectiveIndex?.isSome
  · rw [if_pos hannounced, if_pos hannounced]
    have hreading := Registers.reading scanner.env parent
    refine hreading.withHeader scanner.options 1 fun slot sector header hlast hheader => ?_
    refine hreading.withTable scanner.options 0 header fun array hlength hadmitted => ?_
    have hvalid := Gpt.Header.validate_valid hheader
    obtain ⟨-, hadmits⟩ :=
      (Gpt.Header.admitArray_eq_ok_iff hlength hvalid.entrySize_ge).mp hadmitted
    refine .log [.gptDisk slot header] ?_
    rw [Gpt.Header.entries_eq hlength hvalid.entrySize_ge, lift_ok_bind]
    exact .enlistAll (Gpt.Header.map_partition hvalid hlast hadmits) (some slot)
  · rw [if_neg hannounced, if_neg hannounced]
    unfold enlistMbr
    by_cases hpolicy : scanner.options.mbr = .never
    · rw [if_pos hpolicy, if_pos hpolicy]
      exact .error .notFound
    · rw [if_neg hpolicy, if_neg hpolicy]
      exact .bind (fun _ _ _ => ⟨rfl, rfl, rfl⟩) fun _ ⟨_, _, hvalid⟩ =>
        .enlistAll (Mbr.map_partition hvalid) none

/-- A survey finds partitions, of the volume that was surveyed. -/
theorem partOf_of_survey {mbr : Mbr} {parent : Volume} {blank : Registry} {state : σ}
    {finding : Finding}
    (h : ((scanner.survey mbr parent).run blank state).result = .ok finding) :
    ∀ volume ∈ finding.volumes, volume.PartOf parent := by
  -- A registry without volumes and with room for all of these takes them as they are.
  let registry : Registry := ⟨finding.volumes.length, []⟩
  obtain ⟨enlisted, hresult, -, hextend⟩ :=
    (scanner.registers_enlist mbr parent blank registry state).registered finding h
  rcases enlist_transacts scanner mbr parent registry state with
    ⟨_, herror, -⟩ | ⟨_, -, partitions, haccepts, henlisted, -⟩
  · rw [hresult] at herror
    cases herror
  · have hvolumes : finding.volumes
        = (partitions.map (·.volume)).take finding.volumes.length := by
      simpa [registry, Registry.extend, Registry.room, Registry.size]
        using congrArg Registry.volumes (hextend.symm.trans henlisted)
    intro volume hmem
    rw [hvolumes] at hmem
    obtain ⟨partition, hpartition, rfl⟩ := List.mem_map.mp (List.mem_of_mem_take hmem)
    exact haccepts.partOf partition hpartition

/-! ## Visits -/

variable {scanner} {registry : Registry} {index : Nat} {state : σ} {volume : Volume}

/-- A detection on a device that was not scanned before is a survey, with the finding enrolled. -/
theorem detect_of_unscanned (scanner : Scanner σ) (mbr : Mbr)
    (hat : registry.volumes[index]? = some volume) (hwhole : volume.partition = none)
    (hunknown : volume.kind = .unknown) (blank : Registry) (state : σ) :
    let found := (scanner.survey mbr volume).run blank state
    let pass := (scanner.detect mbr index).run registry state
    pass.state = found.state
      ∧ pass.registry = registry.enroll index found.result.toOption
      ∧ ∀ finding, found.result = .ok finding → registry.room < finding.volumes.length →
        .log (.registryFull registry.capacity finding.scheme) ∈ pass.events := by
  intro found pass
  have hvolume : registry.volume index = .ok volume := Registry.volume_eq_ok_iff.mpr hat
  have hunscanned : require (volume.partition = none ∧ volume.kind = .unknown) .alreadyScanned
      = .ok () := require_eq_ok_iff.mpr ⟨hwhole, hunknown⟩
  have henlist := scanner.registers_enlist mbr volume blank registry state
  dsimp only [pass]
  unfold detect
  rw [run_current_bind, hvolume, lift_ok_bind, hunscanned, lift_ok_bind]
  cases hfound : found.result with
  | error error =>
    obtain ⟨hresult, hregistry⟩ := henlist.failed error hfound
    rw [run_bind_of_error hresult]
    exact ⟨henlist.state_eq, hregistry, nofun⟩
  | ok finding =>
    obtain ⟨enlisted, hresult, hscheme, hextend⟩ := henlist.registered finding hfound
    have hclassify : (Action.classify index finding.scheme.container).run
        (registry.extend finding.volumes) found.state = _ :=
      run_classify_of_ok (Registry.classify_extend_eq_enroll hat hwhole hunknown finding)
    rw [run_bind_of_ok hresult, hextend, henlist.state_eq, hscheme,
      run_bind_of_ok (congrArg Pass.result hclassify), hclassify, run_current_bind]
    refine ⟨?_, ?_, fun _ hfinding hroom => ?_⟩
    · cases exactSub (registry.enroll index (some finding)).size registry.size <;> rfl
    · cases exactSub (registry.enroll index (some finding)).size registry.size <;> rfl
    · cases hfinding
      exact List.mem_append_left _ (henlist.truncated finding hfound hroom)

/-- A detection on any other volume does nothing. -/
theorem detect_of_scanned {mbr : Mbr} (hat : registry.volumes[index]? = some volume)
    (hscanned : ¬(volume.partition = none ∧ volume.kind = .unknown)) :
    (scanner.detect mbr index).run registry state
      = ⟨.error (.invalid .alreadyScanned), registry, state, []⟩ := by
  have hvolume : registry.volume index = .ok volume := Registry.volume_eq_ok_iff.mpr hat
  have hrefused : require (volume.partition = none ∧ volume.kind = .unknown) .alreadyScanned
      = .error (.invalid .alreadyScanned) := require_of_neg _ hscanned
  unfold detect
  rw [run_current_bind, hvolume, lift_ok_bind, hrefused, lift_error_bind]
  rfl

/-- Look at a volume as a visit does, and register nothing. The examination fails if the volume
cannot be read, and it finds nothing if there is no table that can be used. -/
def examine (scanner : Scanner σ) (volume : Volume) : Action σ (Option Finding) := do
  let mbr ← scanner.readBootSector volume
  Action.attempt do
    mbr.validate volume
    require (volume.partition = none ∧ volume.kind = .unknown) .alreadyScanned
    scanner.survey mbr volume

/-- A volume counts as read if its first sector was. -/
theorem isOk_examine (scanner : Scanner σ) (volume : Volume) (blank : Registry) (state : σ) :
    ((scanner.examine volume).run blank state).result.isOk
      = ((scanner.readBootSector volume).run blank state).result.isOk := by
  unfold examine
  cases hboot : ((scanner.readBootSector volume).run blank state).result with
  | error error => rw [run_bind_of_error hboot]; rfl
  | ok mbr => rw [run_bind_of_ok hboot]; rfl

/-- What is found was found on a device that was not scanned before, and consists of partitions. -/
theorem eq_of_examine {blank : Registry} {finding : Finding}
    (h : ((scanner.examine volume).run blank state).result = .ok (some finding)) :
    volume.partition = none ∧ volume.kind = .unknown
      ∧ ∀ partition ∈ finding.volumes, partition.isPartition = true := by
  unfold examine at h
  cases hboot : ((scanner.readBootSector volume).run blank state).result with
  | error error => simp [run_bind_of_error hboot] at h
  | ok mbr =>
    rw [run_bind_of_ok hboot] at h
    have hsurvey := toOption_eq_some_iff.mp (Except.ok.inj h)
    cases hvalid : mbr.validate volume with
    | error error => rw [hvalid, lift_error_bind] at hsurvey; cases hsurvey
    | ok _ =>
      rw [hvalid, lift_ok_bind] at hsurvey
      by_cases hunscanned : volume.partition = none ∧ volume.kind = .unknown
      · rw [require_of_pos _ hunscanned, lift_ok_bind] at hsurvey
        exact ⟨hunscanned.1, hunscanned.2, fun partition hmem =>
          (partOf_of_survey scanner hsurvey partition hmem).isPartition⟩
      · rw [require_of_neg _ hunscanned, lift_error_bind] at hsurvey
        cases hsurvey

/-- **A visit is an examination**, with the finding enrolled. -/
theorem visit_eq_examine (scanner : Scanner σ) (hat : registry.volumes[index]? = some volume)
    (blank : Registry) (state : σ) :
    let found := (scanner.examine volume).run blank state
    let pass := scanner.visit registry index state
    pass.result = found.result.isOk ∧ pass.state = found.state
      ∧ pass.registry = registry.enroll index found.result.toOption.join
      ∧ ∀ finding, found.result = .ok (some finding) → registry.room < finding.volumes.length →
        .log (.registryFull registry.capacity finding.scheme) ∈ pass.events := by
  intro found pass
  obtain ⟨hresult, hstate⟩ := (similar_readBootSector (scanner.env.similar_self volume) rfl
    scanner.options).blind registry blank state
  dsimp only [found, pass]
  unfold examine
  cases hboot : ((scanner.readBootSector volume).run registry state).result with
  | error error =>
    rw [visit_of_unreadable hat hboot, run_bind_of_error (hresult.trans hboot)]
    exact ⟨rfl, hstate.symm, rfl, nofun⟩
  | ok mbr =>
    rw [run_bind_of_ok (hresult.trans hboot), hstate]
    cases hvalid : mbr.validate volume with
    | error error =>
      rw [visit_of_noTable hat hboot hvalid, lift_error_bind]
      exact ⟨rfl, rfl, rfl, nofun⟩
    | ok _ =>
      rw [visit_of_table hat hboot hvalid, lift_ok_bind]
      dsimp only
      rw [detectOrLog_eq]
      by_cases hunscanned : volume.partition = none ∧ volume.kind = .unknown
      · rw [require_of_pos _ hunscanned, lift_ok_bind]
        obtain ⟨hstate', hregistry, hfull⟩ := detect_of_unscanned scanner mbr hat hunscanned.1
          hunscanned.2 ((scanner.readBootSector volume).run blank state).registry
          ((scanner.readBootSector volume).run registry state).state
        refine ⟨rfl, hstate', hregistry, fun finding hfound hroom => ?_⟩
        have hsurveyed := toOption_eq_some_iff.mp (Except.ok.inj hfound)
        exact List.mem_append_left _ (List.mem_append_right _
          (List.mem_append_left _ (hfull finding hsurveyed hroom)))
      · rw [require_of_neg _ hunscanned, lift_error_bind, detect_of_scanned hat hunscanned]
        exact ⟨rfl, rfl, rfl, nofun⟩

/-! ## Surveys in similar environments -/

section

variable {τ : Type} {same : Grant → Grant → Prop} {R : List (Grant × Grant) → σ → τ → Prop}
  {env : Environment σ} {env' : Environment τ}

/-- A survey finds the same in similar environments. -/
theorem similar_survey (h : Environment.Similar same R volume volume env env') (options : Options)
    (mbr : Mbr) :
    Similar R (survey ⟨env, options⟩ mbr volume) (survey ⟨env', options⟩ mbr volume) := by
  unfold survey
  by_cases hannounced : options.gpt = .revisionOne ∧ mbr.protectiveIndex?.isSome
  · rw [if_pos hannounced, if_pos hannounced]
    refine (Similar.reading h).withHeader options 1 fun _ _ header _ _ => ?_
    exact (Similar.reading h).withTable options 0 header fun _ _ _ => .lift (.ok _)
  · rw [if_neg hannounced, if_neg hannounced]
    by_cases hpolicy : options.mbr = .never
    · rw [if_pos hpolicy, if_pos hpolicy]
      exact .lift (.error .notFound)
    · rw [if_neg hpolicy, if_neg hpolicy]
      exact (Similar.lift _).bind fun _ _ => .lift (.ok _)

/-- **An examination finds the same in similar environments.** -/
theorem similar_examine (h : Environment.Similar same R volume volume env env')
    (options : Options) :
    Similar R (examine ⟨env, options⟩ volume) (examine ⟨env', options⟩ volume) := by
  refine (similar_readBootSector h rfl options).bind fun mbr _ => .attempt ?_
  refine (Similar.lift _).bind fun _ _ => (Similar.lift _).bind fun _ _ => ?_
  exact similar_survey h options mbr

end

end Scanner

end

/-! ## A disk with two partitions -/

namespace Scanner

/-- A disk of 8 sectors, which was not scanned yet. -/
def splitDisk : Volume where
  method := .memory
  deviceId := 0
  partition := none
  alignment := 1
  sectorSize := 512
  mediaId := 0
  sectorCount := 8
  firstByte := 0
  kind := .unknown

/-- A table that splits `splitDisk` behind its first sector in two. -/
def splitTable : Mbr :=
  let unused : Mbr.Entry := ⟨0x00, ⟨0, 0, 0⟩, 0x00, ⟨0, 0, 0⟩, 0, 0⟩
  ⟨#v[⟨0x80, ⟨0, 0, 0⟩, 0x0C, ⟨0, 0, 0⟩, 1, 2⟩, ⟨0x00, ⟨0, 0, 0⟩, 0x83, ⟨0, 0, 0⟩, 3, 5⟩, unused,
    unused], Mbr.bootSignature⟩

/-- The table, on a device that is empty otherwise. -/
def splitDevice : Device := .ofChunks 4096 [⟨446, splitTable.encode.toArray, 1⟩]

end Scanner

end VolumeScan

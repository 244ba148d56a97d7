/-
VolumeScan.Proofs.Scan.Reports — a pass reports each new volume once.

The records of a pass at info level are its reports. A visit that detects something reports it
behind everything that its detection logs (`Scanner.visitLog_visit`), with the volumes as they are
then. Later visits keep these volumes, so the reports show them as they are in the end, and the next
detection begins where this one ended (`Scanner.PassLog`, `Scanner.passLog_visitAll`). What holds of
the log of a whole pass follows by induction on its detections.
-/
import VolumeScan.Proofs.Scan.Independence
import VolumeScan.Proofs.Scan.Warnings

namespace VolumeScan

/-! ## Reports -/

/-- The records at info level among the events. -/
def Event.infos (events : List Event) : List Record :=
  (Event.records events).filter (·.level = .info)

/-- The records about volumes that stand in a registry from index `first` on. -/
def Record.foundFrom (first : Nat) (volumes : List Volume) : List Record :=
  (volumes.zipIdx first).map fun (volume, index) => .found index volume

theorem Record.foundFrom_append (first : Nat) (volumes later : List Volume) :
    foundFrom first (volumes ++ later)
      = foundFrom first volumes ++ foundFrom (first + volumes.length) later := by
  simp only [foundFrom, List.zipIdx_append, List.map_append]

@[simp] theorem Record.filter_foundFrom (first : Nat) (volumes : List Volume) :
    (foundFrom first volumes).filter (·.level = .info) = foundFrom first volumes := by
  refine List.filter_eq_self.mpr fun record hmem => ?_
  obtain ⟨_, -, rfl⟩ := List.mem_map.mp hmem
  rfl

/-- What is logged behind a detection are records about the volumes from its first one on. -/
theorem Scanner.reports_eq (registry : Registry) (first : Nat) :
    reports registry first = Record.foundFrom first (registry.volumes.drop first) := by
  unfold reports Record.foundFrom
  congr 1
  refine List.ext_getElem? fun i => ?_
  simp [List.getElem?_drop, List.getElem?_zipIdx]

/-- The records about what was detected, with the volumes as they are in the registry. -/
def Detection.reports (detection : Detection) (registry : Registry) : List Record :=
  Record.foundFrom detection.first ((registry.volumes.drop detection.first).take detection.added)

/-- Volumes behind the last one that was detected are not among those that were. -/
theorem Detection.reports_congr {detection : Detection} {registry later : Registry} {base : Nat}
    {more : List Volume} (hkept : later.volumes.drop base = registry.volumes.drop base ++ more)
    (hbase : base ≤ detection.first) (hlast : detection.first + detection.added = registry.size) :
    detection.reports later = detection.reports registry := by
  obtain ⟨gap, hgap⟩ := Nat.exists_eq_add_of_le hbase
  have hlength : gap ≤ (registry.volumes.drop base).length := by
    rw [List.length_drop]
    show gap ≤ registry.size - base
    omega
  have hadded : detection.added ≤ (registry.volumes.drop detection.first).length := by
    rw [List.length_drop]
    show detection.added ≤ registry.size - detection.first
    omega
  have hdrop : later.volumes.drop detection.first
      = registry.volumes.drop detection.first ++ more := by
    rw [hgap, ← List.drop_drop, hkept, List.drop_append_of_le_length hlength, List.drop_drop]
  rw [reports, reports, hdrop, List.take_append_of_le_length hadded]

/-! ## Visits -/

namespace Scanner

variable {σ : Type}

/-- What a visit to the volume at an index detects. -/
def detected (scanner : Scanner σ) (registry : Registry) (index : Nat) (state : σ) :
    Option Detection := do
  let volume ← registry.get? index
  let boot := (scanner.readBootSector volume).run registry state
  let mbr ← boot.result.toOption
  (mbr.validate volume).toOption
  ((scanner.detect mbr index).run registry boot.state).result.toOption

/-- What the visits to these indices detect, in order. -/
def detections (scanner : Scanner σ) : List Nat → Registry → σ → List Detection
  | [], _, _ => []
  | index :: rest, registry, state =>
    let here := scanner.visit registry index state
    (scanner.detected registry index state).toList
      ++ scanner.detections rest here.registry here.state

/-- What a visit leaves in the log. If it detects nothing, there is nothing at info level in it and
nothing is registered. Otherwise the visit ends with the reports of what it detected, which are all
volumes behind those that were there, and before them there is nothing at info level, but a warning
if the second copy of a header was used. -/
inductive VisitLog (before : Registry) : Option Detection → Registry → List Record → Prop where
  | nothing {records : List Record} (quiet : Record.Quiet records) :
    VisitLog before none before records
  | something {detection : Detection} {after : Registry} {records : List Record}
    (quiet : Record.Quiet records)
    (warned : detection.header = some .backup → Record.Degraded records)
    (first : detection.first = before.size)
    (last : detection.first + detection.added = after.size) :
    VisitLog before (some detection) after (records ++ detection.reports after)

/-- A detection is reported behind everything that it logs. -/
theorem visitLog_detection (scanner : Scanner σ) (mbr : Mbr) (registry : Registry) (index : Nat)
    (state : σ) {records : List Record} (hread : Record.Quiet records) :
    let found := (scanner.detect mbr index).run registry state
    let pass := scanner.detectOrLog mbr index registry state
    VisitLog registry found.result.toOption pass.registry
      (records ++ Event.records pass.events ++ reports pass.registry pass.result) := by
  intro found pass
  have hwarns := scanner.warns_detect mbr index
  have hquiet := hread.append (hwarns.quiet registry state)
  dsimp only [pass]
  rw [detectOrLog_eq]
  dsimp only
  rw [Event.records_append, Event.records_map_log, reports_eq]
  rcases detect_transacts scanner mbr index registry state with
    ⟨error, hresult, hkept⟩ | ⟨detection, hresult, hdetects⟩
  · -- The registry is as it was, so there is nothing to report.
    have hlogged : Record.Quiet (unusedTable index (.error error)) := by
      simp [unusedTable, Record.level]
    dsimp only [found]
    rw [hresult, hkept, ← List.append_assoc]
    have hnew : registry.volumes.drop registry.size = [] := List.drop_length
    rw [hnew, Record.foundFrom, List.zipIdx_nil, List.map_nil, List.append_nil]
    exact .nothing (hquiet.append hlogged)
  · obtain ⟨_, _, partitions, -, -, -, -, hafter, hfirst, hadded, -⟩ := hdetects
    -- Everything from the first new volume on was added by this detection.
    have hlast : detection.first + detection.added = found.registry.size := by
      rw [hfirst, hadded, hafter]
      simp [Registry.size]
    have hnew : (found.registry.volumes.drop detection.first).length ≤ detection.added := by
      rw [List.length_drop]
      show found.registry.size - detection.first ≤ detection.added
      omega
    dsimp only [found]
    rw [hresult, unusedTable, List.append_nil, ← hfirst, ← List.take_of_length_le hnew]
    refine .something hquiet (fun hbackup => ?_) hfirst hlast
    exact Record.degraded_append_iff.mpr
      (.inr (hwarns.warned registry state detection hresult hbackup))

/-- **What a visit reports.** -/
theorem visitLog_visit (scanner : Scanner σ) (registry : Registry) (index : Nat) (state : σ) :
    let pass := scanner.visit registry index state
    VisitLog registry (scanner.detected registry index state) pass.registry
      (Event.records pass.events) := by
  intro pass
  dsimp only [pass]
  cases hat : registry.volumes[index]? with
  | none =>
    have hnone : scanner.detected registry index state = none := by
      simp [detected, Registry.get?, hat]
    rw [hnone, visit_of_none hat]
    exact .nothing Record.quiet_nil
  | some volume =>
    have hread := (scanner.warns_readBootSector volume).quiet registry state
    cases hboot : ((scanner.readBootSector volume).run registry state).result with
    | error unreadable =>
      have hnone : scanner.detected registry index state = none := by
        simp [detected, Registry.get?, hat, hboot, Except.toOption]
      have hlogged : Record.Quiet [.unreadable index unreadable] := by simp [Record.level]
      rw [hnone, visit_of_unreadable hat hboot, Event.records_append]
      exact .nothing (hread.append hlogged)
    | ok mbr =>
      cases hvalid : mbr.validate volume with
      | error invalid =>
        have hnone : scanner.detected registry index state = none := by
          simp [detected, Registry.get?, hat, hboot, hvalid, Except.toOption]
        have hlogged : Record.Quiet [.noTable index invalid] := by simp [Record.level]
        rw [hnone, visit_of_noTable hat hboot hvalid, Event.records_append]
        exact .nothing (hread.append hlogged)
      | ok _ =>
        let boot := (scanner.readBootSector volume).run registry state
        have hdetected : scanner.detected registry index state
            = ((scanner.detect mbr index).run registry boot.state).result.toOption := by
          simp [detected, Registry.get?, hat, hboot, hvalid, Except.toOption, boot]
        rw [hdetected, visit_of_table hat hboot hvalid, Event.records_append,
          Event.records_append, Event.records_map_log]
        exact visitLog_detection scanner mbr registry index boot.state hread

end Scanner

/-! ## Passes -/

/-- The log warns that the second copy of a header is used, and then reports what was detected, with
nothing at info level in between. -/
def Detection.WarnedIn (detection : Detection) (registry : Registry) (log : List Record) : Prop :=
  ∃ before lba between after,
    log = before ++ .backupUsed lba :: (between ++ detection.reports registry ++ after)
      ∧ (Record.backupUsed lba).level = .warn ∧ Record.Quiet between

namespace Detection.WarnedIn

variable {detection : Detection} {registry : Registry} {log : List Record}

theorem behind (h : detection.WarnedIn registry log) (earlier : List Record) :
    detection.WarnedIn registry (earlier ++ log) := by
  obtain ⟨before, lba, between, after, rfl, hbetween⟩ := h
  exact ⟨earlier ++ before, lba, between, after, by simp, hbetween⟩

theorem ahead (h : detection.WarnedIn registry log) (later : List Record) :
    detection.WarnedIn registry (log ++ later) := by
  obtain ⟨before, lba, between, after, rfl, hbetween⟩ := h
  exact ⟨before, lba, between, after ++ later, by simp, hbetween⟩

/-- A warning anywhere in front of the reports is enough if nothing there is at info level. -/
theorem of_degraded {records : List Record} (hquiet : Record.Quiet records)
    (hdegraded : Record.Degraded records) (rest : List Record) :
    detection.WarnedIn registry (records ++ detection.reports registry ++ rest) := by
  obtain ⟨lba, hmem⟩ := hdegraded
  obtain ⟨before, between, rfl⟩ := List.append_of_mem hmem
  refine ⟨before, lba, between, rest, by simp, rfl, fun record hrecord => hquiet record ?_⟩
  exact List.mem_append_right _ (List.mem_cons_of_mem _ hrecord)

end Detection.WarnedIn

namespace Scanner

variable {σ : Type} {scanner : Scanner σ}

/-- The log of visits that detect these, one after the other, when the volumes are registered from
index `first` on. The reports show the volumes as they are in the last registry. -/
inductive PassLog (last : Registry) : Nat → List Detection → List Record → Prop where
  | nothing {records : List Record} (quiet : Record.Quiet records) :
    PassLog last last.size [] records
  | something {detection : Detection} {detections : List Detection} {records rest : List Record}
    (quiet : Record.Quiet records)
    (warned : detection.header = some .backup → Record.Degraded records)
    (further : PassLog last (detection.first + detection.added) detections rest) :
    PassLog last detection.first (detection :: detections)
      (records ++ detection.reports last ++ rest)

namespace PassLog

variable {last : Registry} {first : Nat} {detections : List Detection} {records : List Record}

theorem behind (h : PassLog last first detections records) {earlier : List Record}
    (hearlier : Record.Quiet earlier) : PassLog last first detections (earlier ++ records) := by
  cases h with
  | nothing quiet => exact .nothing (hearlier.append quiet)
  | something quiet warned further =>
    rw [← List.append_assoc, ← List.append_assoc]
    refine .something (hearlier.append quiet) (fun hbackup => ?_) further
    exact Record.degraded_append_iff.mpr (.inr (warned hbackup))

/-- A visit may come before, if the volumes that it registers stay as they are. -/
theorem visit {before middle : Registry} {detected : Option Detection} {visited : List Record}
    (hvisit : VisitLog before detected middle visited) {more : List Volume}
    (hkept : last.volumes.drop before.size = middle.volumes.drop before.size ++ more)
    (h : PassLog last middle.size detections records) :
    PassLog last before.size (detected.toList ++ detections) (visited ++ records) := by
  cases hvisit with
  | nothing quiet => exact h.behind quiet
  | something quiet warned hfirst hlast =>
    rw [← Detection.reports_congr hkept (Nat.le_of_eq hfirst.symm) hlast, ← hfirst]
    rw [← hlast] at h
    exact .something quiet warned h

theorem first_le (h : PassLog last first detections records) : first ≤ last.size := by
  induction h with
  | nothing => exact Nat.le_refl _
  | something _ _ _ ih => omega

/-- The indices of the volumes that were detected go on without a gap up to the last one. -/
theorem indices_eq (h : PassLog last first detections records) :
    (detections.flatMap fun detection => List.range' detection.first detection.added)
      = List.range' first (last.size - first) := by
  induction h with
  | nothing => simp
  | something quiet warned further ih =>
    rename_i detection _ _ _
    have hfirst := further.first_le
    have hsize : last.size - detection.first
        = detection.added + (last.size - (detection.first + detection.added)) := by omega
    rw [List.flatMap_cons, ih, hsize, List.range'_append_1]

/-- Nothing is at info level but one report for each of these volumes. -/
theorem infos_eq (h : PassLog last first detections records) :
    records.filter (·.level = .info) = Record.foundFrom first (last.volumes.drop first) := by
  induction h with
  | nothing quiet =>
    have hnone : last.volumes.drop last.size = [] := List.drop_length
    rw [quiet.filter_eq_nil, hnone]
    rfl
  | something quiet warned further ih =>
    rename_i detection _ _ _
    have hlength : ((last.volumes.drop detection.first).take detection.added).length
        = detection.added := by
      have hfirst := further.first_le
      rw [List.length_take, List.length_drop]
      show min detection.added (last.size - detection.first) = detection.added
      omega
    calc
      _ = detection.reports last ++ Record.foundFrom (detection.first + detection.added)
            (last.volumes.drop (detection.first + detection.added)) := by
        rw [List.filter_append, List.filter_append, quiet.filter_eq_nil, List.nil_append, ih,
          Detection.reports, Record.filter_foundFrom]
      _ = Record.foundFrom detection.first ((last.volumes.drop detection.first).take detection.added
            ++ (last.volumes.drop detection.first).drop detection.added) := by
        rw [Record.foundFrom_append, hlength, List.drop_drop, Detection.reports]
      _ = _ := by rw [List.take_append_drop]

theorem warnedIn (h : PassLog last first detections records) {detection : Detection}
    (hmem : detection ∈ detections) (hbackup : detection.header = some .backup) :
    detection.WarnedIn last records := by
  induction h with
  | nothing => cases hmem
  | something quiet warned _ ih =>
    rcases List.mem_cons.mp hmem with rfl | hmem
    · exact .of_degraded quiet (warned hbackup) _
    · exact (ih hmem).behind _

end PassLog

/-- **What the visits of a pass report**: one detection after the other, with the volumes as they
are in the end. -/
theorem passLog_visitAll (scanner : Scanner σ) {indices : List Nat} {registry : Registry}
    (hindices : ∀ index ∈ indices, index < registry.size) (state : σ) :
    let pass := scanner.visitAll indices registry state
    PassLog pass.registry registry.size (scanner.detections indices registry state)
      (Event.records pass.events) := by
  induction indices generalizing registry state with
  | nil => exact .nothing Record.quiet_nil
  | cons index rest ih =>
    obtain ⟨-, hrest⟩ := List.forall_mem_cons.mp hindices
    let here := scanner.visit registry index state
    have hsize : registry.size ≤ here.registry.size := by
      obtain ⟨found, hregistry⟩ := scanner.exists_registry_visit registry index state
      show registry.size ≤ (scanner.visit registry index state).registry.size
      rw [hregistry]
      exact registry.size_le_enroll index found
    have hfurther := ih (fun i hmem => Nat.lt_of_lt_of_le (hrest i hmem) hsize) here.state
    -- The other visits go to volumes in front of those that this one added.
    have hkept := scanner.drop_visitAll hrest hsize here.state
    show PassLog _ _ _ (Event.records (here.events ++ _))
    rw [Event.records_append]
    exact hfurther.visit (scanner.visitLog_visit registry index state) hkept

/-- **Each new volume is reported once.** Whatever the registry, the environment and the options
are, the records of a pass at info level are these: one for each volume that the pass appended, in
the order of their indices, with the index and the volume as it is in the end; and behind them, if
and only if the pass succeeds, one with the number of all volumes. The indices of the new volumes
are those of the detections of the pass, one after the other. And if a detection used the second
copy of a header, the log warns of that before it reports what this detection added, with nothing at
info level in between. -/
theorem discover_reports_each_volume_once (scanner : Scanner σ) (registry : Registry) (state : σ) :
    let pass := scanner.discover registry state
    let detections := scanner.detections (List.range registry.size) registry state
    registry.size ≤ pass.registry.size
      ∧ Event.infos pass.events
        = Record.foundFrom registry.size (pass.registry.volumes.drop registry.size)
          ++ (if pass.result then [.finished pass.registry.size] else [])
      ∧ (detections.flatMap fun detection => List.range' detection.first detection.added)
        = List.range' registry.size (pass.registry.size - registry.size)
      ∧ ∀ detection ∈ detections, detection.header = some .backup →
        detection.WarnedIn pass.registry (Event.records pass.events) := by
  intro pass detections
  obtain ⟨-, hregistry, -⟩ := scanner.discover_eq_visitAll registry state
  have hlog : PassLog pass.registry registry.size detections (Event.records
      (scanner.visitAll (List.range registry.size) registry state).events) := by
    dsimp only [pass]
    rw [hregistry]
    exact scanner.passLog_visitAll (fun _ => List.mem_range.mp) state
  obtain ⟨summary, hevents, hsummary⟩ := scanner.exists_events_discover registry state
  have hrecords : Event.records pass.events = Event.records
      (scanner.visitAll (List.range registry.size) registry state).events ++ [summary] := by
    dsimp only [pass]
    rw [hevents, Event.records_append]
    rfl
  refine ⟨hlog.first_le, ?_, hlog.indices_eq, fun detection hmem hbackup => ?_⟩
  · rw [Event.infos, hrecords, List.filter_append, hlog.infos_eq, hsummary]
  · rw [hrecords]
    exact (hlog.warnedIn hmem hbackup).ahead _

/-- What a pass over `splitDisk` says at info level. -/
example :
    let scanner : Scanner Nat :=
      ⟨.ofDisks ⟨.resident, [splitDevice]⟩ [] (Heap.allocator ⟨16, 4096, 0⟩), {}⟩
    let pass := scanner.discover ⟨6, [splitDisk]⟩ 0
    (Event.infos pass.events).map Record.message = [
      "volume 1: memory device 0 partition 0 fat: 2 sectors of 512 bytes, 1024 bytes at 512",
      "volume 2: memory device 0 partition 1 unclassified: "
        ++ "5 sectors of 512 bytes, 2560 bytes at 1536",
      "ok: 3 volumes after discovery"] := by decide +kernel

end Scanner

end VolumeScan

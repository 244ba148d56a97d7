/-
VolumeScan.Proofs.Scan.ReadTrace — which reads a pass asks for, one after the other.

`Event.answers` picks the reads out of the events, each with the bytes that it gave. What an action
reads depends on what it has read before, so `Action.Asks` has a rule for a read that goes on with
the bytes, and the condition on the reads that follow is the one on the reads behind them. With
these rules, the reads of a GPT are one of four lists (`Volume.GptReads`), and a visit is the read
of the first sector with such a list behind it, under all the conditions on the way to a GPT
(`Options.Visits`). A visit leaves the volumes still to come as they are, so a pass is one visit to
each volume of the registry that it started with (`Scanner.discover_reads_in_blocks`).
-/
import VolumeScan.Proofs.Faults
import VolumeScan.Proofs.Scan.Independence
import VolumeScan.Proofs.Scan.MbrDetection

namespace VolumeScan

/-! ## Reads among events -/

namespace Event

/-- The reads among the events, each with what it gave. -/
def answers (events : List Event) : List Event :=
  events.filter fun
    | .read _ _ _ _ => true
    | _ => false

/-- Whether the first read among the events gave its bytes. -/
def firstAnswered (events : List Event) : Bool :=
  match answers events with
  | .read _ _ _ (some _) :: _ => true
  | _ => false

@[simp] theorem answers_append (events later : List Event) :
    answers (events ++ later) = answers events ++ answers later := List.filter_append ..

@[simp] theorem answers_log (records : List Record) : answers (records.map .log) = [] := by
  induction records with
  | nil => rfl
  | cons record records ih => exact ih

/-- Events that only the log sees are no reads. -/
theorem answers_of_logs {events : List Event}
    (h : ∀ event ∈ events, ∃ record, event = .log record) :
    answers events = [] := by
  refine List.filter_eq_nil_iff.mpr fun event hmem => ?_
  obtain ⟨record, rfl⟩ := h event hmem
  nofun

@[simp] theorem answers_allocate (size : Nat) (answer : Option Grant) (rest : List Event) :
    answers (.allocate size answer :: rest) = answers rest := rfl

/-- Giving a block back adds no reads. -/
@[simp] theorem answers_release (events : List Event) (grant : Grant) (accepted : Bool) :
    answers (events ++ (.release grant :: Action.complaint grant accepted)) = answers events := by
  have hnothing : answers (.release grant :: Action.complaint grant accepted) = [] := by
    cases accepted <;> rfl
  rw [answers_append, hnothing, List.append_nil]

/-- What the reads gave makes no difference to what was asked for. -/
theorem reads_answers (events : List Event) : reads (answers events) = reads events := by
  induction events with
  | nil => rfl
  | cons event rest ih =>
    cases event with
    | read volume pos len data => exact congrArg ((volume, pos, len) :: ·) ih
    | allocate | release | log => exact ih

theorem reads_append (events later : List Event) :
    reads (events ++ later) = reads events ++ reads later := List.filterMap_append ..

theorem reads_flatten (blocks : List (List Event)) :
    reads blocks.flatten = blocks.flatMap reads := by
  induction blocks with
  | nil => rfl
  | cons block rest ih => rw [List.flatten_cons, reads_append, ih, List.flatMap_cons]

end Event

open Event

/-! ## What an action asks for -/

namespace Action

variable {σ α β γ : Type}

/-- Whatever the environment does, the reads of the action are as `Q` says. -/
def Asks (action : Action σ α) (Q : List Event → Prop) : Prop :=
  ∀ registry state, Q (answers (action.run registry state).events)

/-- An action that does not ask the environment reads nothing. -/
theorem Detached.asks {action : Action σ α} {Q : List Event → Prop} (h : action.Detached)
    (hnothing : Q []) : action.Asks Q := by
  intro registry state
  rw [answers_of_logs (h registry state).2]
  exact hnothing

namespace Asks

variable {env : Environment σ} {Q : List Event → Prop}

/-- A check that fails ends the reads. -/
theorem lift_bind {x : Except Error γ} {next : γ → Action σ α} (hnothing : Q [])
    (h : ∀ c, x = .ok c → (next c).Asks Q) : (liftM x >>= next).Asks Q := by
  cases x with
  | ok c => exact h c rfl
  | error error => exact fun _ _ => hnothing

theorem log_bind {records : List Record} {next : Unit → Action σ α} (h : (next ()).Asks Q) :
    (Action.log records >>= next).Asks Q := by
  intro registry state
  have hlogged : ((Action.log records : Action σ Unit).run registry state).result = .ok () := rfl
  rw [run_bind_of_ok hlogged, run_log]
  simpa using h registry state

/-- A block that is not granted in full ends the reads. -/
theorem withBuffer {size : Nat} {body : Grant → Action σ α} (hnothing : Q [])
    (h : ∀ grant, size ≤ grant.size → (body grant).Asks Q) :
    (Action.withBuffer env size body).Asks Q := by
  intro registry state
  rcases hacquire : env.scratch.acquire state size with ⟨acquisition, acquired⟩
  cases acquisition with
  | refused =>
    rw [run_withBuffer_of_refused hacquire]
    exact hnothing
  | short grant =>
    rw [run_withBuffer_of_short hacquire]
    exact hnothing
  | whole grant =>
    have hsize := (Environment.grants_iff.mpr hacquire).size_le
    rw [run_withBuffer_of_whole hacquire]
    dsimp only
    rw [List.cons_append, answers_allocate, answers_release]
    exact h grant hsize registry acquired

/-- A read that fails is the last one. Otherwise the next ones may depend on what it gave. -/
theorem fill_bind {buffer : Grant} {volume : Volume} {pos len : Nat} {next : Bytes → Action σ α}
    (hlen : len ≤ buffer.size) (hfailed : Q [.read volume pos len none])
    (h : ∀ block : Block len,
      (next (block.val ++ List.replicate (buffer.size - len) 0)).Asks
        fun reads => Q (.read volume pos len (some block.val) :: reads)) :
    (Action.fill env buffer volume pos len >>= next).Asks Q := by
  intro registry state
  rcases hread : env.read state volume pos len with ⟨result, answered⟩
  cases result with
  | error error =>
    have hfill : (Action.fill env buffer volume pos len).run registry state = _ :=
      run_fill_of_error hlen hread
    rw [run_bind_of_error (congrArg Pass.result hfill), hfill]
    exact hfailed
  | ok block =>
    have hfill : (Action.fill env buffer volume pos len).run registry state = _ :=
      run_fill_of_ok hlen hread
    rw [run_bind_of_ok (congrArg Pass.result hfill), hfill]
    exact h block registry _

/-- Nothing is read behind the reads if what follows does not ask the environment. -/
theorem bind_detached {action : Action σ β} {next : β → Action σ α} (h : action.Asks Q)
    (hnext : ∀ b, (next b).Detached) : (action >>= next).Asks Q := by
  intro registry state
  have hreads := h registry state
  cases hresult : (action.run registry state).result with
  | error error =>
    rw [run_bind_of_error hresult]
    exact hreads
  | ok b =>
    rw [run_bind_of_ok hresult]
    dsimp only
    rw [answers_append, answers_of_logs (hnext b _ _).2, List.append_nil]
    exact hreads

end Asks

end Action

/-! ## The reads of a GPT -/

/-- What may be read of the GPT on a volume: nothing, or the sector of the first header; the last
sector of the volume too, if that could be read; and if both could, the whole sectors of the entry
array that the chosen header announces, if there is one to choose. Any of these may be all. -/
inductive Volume.GptReads (volume : Volume) : List Event → Prop where
  | nothing : volume.GptReads []
  | primary (data : Option Bytes) : volume.GptReads
      [.read volume volume.sectorSize.toNat volume.sectorSize.toNat data]
  | backup (first : Bytes) (data : Option Bytes) : volume.GptReads
      [.read volume volume.sectorSize.toNat volume.sectorSize.toNat (some first),
        .read volume ((volume.sectorCount.toNat - 1) * volume.sectorSize.toNat)
          volume.sectorSize.toNat data]
  | array {first second : Bytes} {slot : Gpt.HeaderCopy} {header : Gpt.Header} {len : Nat}
      (chosen : (Gpt.chooseHeader first second volume.sectorSize.toNat
        volume.sectorCount.toNat).1 = .ok (slot, header))
      (whole : volume.sectorSize.toNat ∣ len) (enough : header.arrayLen ≤ len)
      (least : len < header.arrayLen + volume.sectorSize.toNat) (data : Option Bytes) :
      volume.GptReads
        [.read volume volume.sectorSize.toNat volume.sectorSize.toNat (some first),
          .read volume ((volume.sectorCount.toNat - 1) * volume.sectorSize.toNat)
            volume.sectorSize.toNat (some second),
          .read volume (header.entriesLba.toNat * volume.sectorSize.toNat) len data]

namespace Volume.GptReads

variable {volume : Volume} {events : List Event}

/-- All of them go through the volume. -/
theorem through (h : volume.GptReads events) : ∀ read ∈ Event.reads events, read.1 = volume := by
  cases h <;> simp [Event.reads]

theorem length_le (h : volume.GptReads events) : (Event.reads events).length ≤ 3 := by
  cases h <;> simp [Event.reads]

end Volume.GptReads

namespace Scanner

open VolumeScan.Action

variable {σ α : Type} {scanner : Scanner σ} {parent : Volume} {Q : List Event → Prop}

/-- Behind a valid header, only the whole sectors of its array are read. -/
theorem asks_withTable {slot : Gpt.HeaderCopy} {header : Gpt.Header}
    (hvalid : header.Valid slot parent.sectorSize.toNat parent.sectorCount.toNat)
    (hnothing : Q [])
    (hread : ∀ len data, parent.sectorSize.toNat ∣ len → header.arrayLen ≤ len →
      len < header.arrayLen + parent.sectorSize.toNat →
      Q [.read parent (header.entriesLba.toNat * parent.sectorSize.toNat) len data])
    {body : Bytes → Action σ α} (hbody : ∀ array, (body array).Detached) :
    (scanner.withTable parent header body).Asks Q := by
  have hslack : header.arrayLen + (parent.sectorSize.toNat - 1) < wordLimit :=
    header.arrayLen_add_lt (Nat.lt_of_le_of_lt (Nat.sub_le _ _) parent.sectorSize.toNat_lt)
  unfold withTable
  refine .lift_bind hnothing fun len hlen => .withBuffer hnothing fun _ hgrant => ?_
  obtain ⟨hwhole, henough, hleast⟩ :=
    (Gpt.wholeSectors_eq_ok_iff hvalid.sectorSize_pos hslack).mp hlen
  have hdone : ∀ data, Q [.read parent _ len data] :=
    fun data => hread len data hwhole henough hleast
  refine .lift_bind hnothing fun pos hpos => ?_
  obtain ⟨-, rfl⟩ := Gpt.byteOf_eq_ok_iff.mp hpos
  refine .fill_bind hgrant (hdone none) fun block => ?_
  refine .lift_bind (hdone _) fun array _ => .lift_bind (hdone _) fun _ _ => ?_
  exact (hbody array).asks (hdone _)

/-- Both headers are read, the second one only if the first one could be. What is read behind them
may depend on the header that was chosen. -/
theorem asks_withHeader (hnothing : Q [])
    (hprimary : ∀ data, Q [.read parent parent.sectorSize.toNat parent.sectorSize.toNat data])
    (hbackup : ∀ first data,
      Q [.read parent parent.sectorSize.toNat parent.sectorSize.toNat (some first),
        .read parent ((parent.sectorCount.toNat - 1) * parent.sectorSize.toNat)
          parent.sectorSize.toNat data])
    {body : Gpt.HeaderCopy → Gpt.Header → Action σ α}
    (hbody : ∀ first second slot header,
      (Gpt.chooseHeader first second parent.sectorSize.toNat parent.sectorCount.toNat).1
        = .ok (slot, header) →
      (body slot header).Asks fun reads =>
        Q (.read parent parent.sectorSize.toNat parent.sectorSize.toNat (some first)
          :: .read parent ((parent.sectorCount.toNat - 1) * parent.sectorSize.toNat)
            parent.sectorSize.toNat (some second) :: reads)) :
    (scanner.withHeader parent body).Asks Q := by
  unfold withHeader
  refine .lift_bind hnothing fun _ _ => .withBuffer hnothing fun _ hfirst => ?_
  refine .withBuffer hnothing fun _ hsecond => .fill_bind hfirst (hprimary none) fun first => ?_
  refine .lift_bind (hprimary _) fun pos hpos => ?_
  obtain ⟨-, rfl⟩ := Gpt.byteOf_eq_ok_iff.mp hpos
  refine .fill_bind hsecond (hbackup _ none) fun second => ?_
  rw [Gpt.chooseHeader_append first.property second.property]
  refine .log_bind (.lift_bind (hbackup _ _) fun ⟨slot, header⟩ hchosen => ?_)
  exact hbody _ _ slot header hchosen

/-- **What is read to register the partitions of a GPT.** -/
theorem asks_enlistGpt : (scanner.enlistGpt parent).Asks parent.GptReads := by
  refine asks_withHeader .nothing .primary .backup fun first second slot header hchosen => ?_
  have hvalid := Gpt.valid_of_chooseHeader hchosen
  refine asks_withTable hvalid (.backup _ _) ?_ fun array => ?_
  · intro len data hwhole henough hleast
    exact .array hchosen hwhole henough hleast data
  · refine .bind (.log _) fun _ => .bind (.lift _) fun _ => ?_
    exact .bind (enlistAll_detached _ _ _) fun _ => .lift (.ok _)

end Scanner

/-- Everything that has to be so before a GPT is looked for: the device was not scanned before, and
its table announces one that may be read. -/
structure Options.Announces (options : Options) (mbr : Mbr) (volume : Volume) : Prop where
  whole : volume.partition = none
  unknown : volume.kind = .unknown
  policy : options.gpt = .revisionOne
  protective : ∃ entry ∈ mbr.entries.toList, entry.typeCode = 0xEE

namespace Scanner

open VolumeScan.Action

variable {σ : Type} {scanner : Scanner σ} {registry : Registry} {state : σ} {index : Nat}
  {volume : Volume} {mbr : Mbr}

/-- A detection reads a GPT or nothing, and nothing unless a GPT was announced. -/
theorem answers_detect (scanner : Scanner σ) (mbr : Mbr)
    (hat : registry.volumes[index]? = some volume) (state : σ) :
    let reads := answers ((scanner.detect mbr index).run registry state).events
    volume.GptReads reads ∧ (reads ≠ [] → scanner.options.Announces mbr volume) := by
  intro reads
  by_cases hunscanned : volume.partition = none ∧ volume.kind = .unknown
  · by_cases hannounced : scanner.options.gpt = .revisionOne ∧ mbr.protectiveIndex?.isSome
    · have hasks : (scanner.enlist mbr volume).Asks volume.GptReads := by
        rw [enlist, if_pos hannounced]
        exact asks_enlistGpt
      have hvolume : registry.volume index = .ok volume := Registry.volume_eq_ok_iff.mpr hat
      have hreads : volume.GptReads reads := by
        dsimp only [reads]
        unfold detect
        rw [run_current_bind, hvolume, lift_ok_bind, require_of_pos _ hunscanned, lift_ok_bind]
        refine Asks.bind_detached hasks (fun _ => ?_) registry state
        refine .bind (.classify _ _) fun _ => .bind .current fun _ => ?_
        exact .bind (.lift _) fun _ => .lift (.ok _)
      exact ⟨hreads, fun _ => ⟨hunscanned.1, hunscanned.2, hannounced.1,
        Mbr.isSome_protectiveIndex?_iff.mp hannounced.2⟩⟩
    · have hnothing : reads = [] :=
        answers_of_logs (detect_detached index hannounced registry state).2
      rw [hnothing]
      exact ⟨.nothing, fun h => absurd rfl h⟩
  · have hnothing : reads = [] := by
      dsimp only [reads]
      rw [detect_of_scanned hat hunscanned]
      rfl
    rw [hnothing]
    exact ⟨.nothing, fun h => absurd rfl h⟩

end Scanner

/-! ## A visit -/

/-- How much is read of the start of a volume: a sector, and at least what a table takes. -/
def Volume.bootLen (volume : Volume) : Nat := max volume.sectorSize.toNat 512

/-- What happens when the first sector of a volume is read: a block for it is asked for, and if that
is granted in full, there is one read. -/
inductive Volume.BootRead (volume : Volume) : List Event → Except Error Mbr → Prop where
  | ungranted {answer : Option Grant} {rest : List Event} {error : Error}
      (short : ∀ grant, answer = some grant → grant.size < volume.bootLen)
      (answers_eq : answers rest = []) :
      volume.BootRead (.allocate volume.bootLen answer :: rest) (.error error)
  | failed {grant : Grant} {rest : List Event} {error : Error}
      (whole : volume.bootLen ≤ grant.size)
      (answers_eq : answers rest = [.read volume 0 volume.bootLen none]) :
      volume.BootRead (.allocate volume.bootLen (some grant) :: rest) (.error error)
  | read {grant : Grant} {rest : List Event} {bytes : Bytes} {mbr : Mbr}
      (whole : volume.bootLen ≤ grant.size) (sector : Mbr.ofSector (bytes.take 512) = .ok mbr)
      (answers_eq : answers rest = [.read volume 0 volume.bootLen (some bytes)]) :
      volume.BootRead (.allocate volume.bootLen (some grant) :: rest) (.ok mbr)

/-- What happens in a visit to a volume: its first sector is read, and behind that a GPT only if the
sector could be read and holds a legacy table that is valid for the volume and announces the GPT. -/
inductive Options.Visits (options : Options) (volume : Volume) : List Event → Prop where
  | intro {boot rest : List Event} {result : Except Error Mbr} (start : volume.BootRead boot result)
      (gpt : volume.GptReads (answers rest))
      (announced : answers rest ≠ [] → ∃ mbr, result = .ok mbr ∧ mbr.validate volume = .ok ()
        ∧ options.Announces mbr volume) :
      options.Visits volume (boot ++ rest)

namespace Volume.BootRead

variable {volume : Volume} {events rest : List Event} {result : Except Error Mbr}

/-- There is at most one read, and it goes through the volume. -/
theorem reads_le (h : volume.BootRead events result) :
    (∀ read ∈ Event.reads events, read.1 = volume) ∧ (Event.reads events).length ≤ 1 := by
  rw [← reads_answers]
  cases h with
  | ungranted _ hanswers => simp [hanswers, Event.reads]
  | failed _ hanswers => simp [hanswers, Event.reads]
  | read _ _ hanswers => simp [hanswers, Event.reads]

/-- The result is there exactly if the read gave its bytes, whatever is read behind it. -/
theorem isOk_eq (h : volume.BootRead events result) (hrest : answers rest ≠ [] → result.isOk) :
    result.isOk = firstAnswered (events ++ rest) := by
  unfold firstAnswered
  rw [answers_append]
  cases h with
  | ungranted _ hanswers =>
    have hnothing : answers rest = [] := by_contra fun hne => nomatch hrest hne
    simp [hanswers, hnothing, Except.isOk, Except.toBool]
  | failed _ hanswers => simp [hanswers, Except.isOk, Except.toBool]
  | read _ _ hanswers => simp [hanswers, Except.isOk, Except.toBool]

end Volume.BootRead

namespace Options.Visits

variable {options : Options} {volume : Volume} {events : List Event}

/-- All reads of a visit go through its volume, and there are at most four of them. -/
theorem reads_le (h : options.Visits volume events) :
    (∀ read ∈ Event.reads events, read.1 = volume) ∧ (Event.reads events).length ≤ 4 := by
  obtain ⟨hstart, hgpt, -⟩ := h
  obtain ⟨hboot, hone⟩ := hstart.reads_le
  have hthrough := hgpt.through
  have hthree := hgpt.length_le
  rw [reads_answers] at hthrough hthree
  rw [reads_append, List.length_append]
  refine ⟨fun read hmem => ?_, by omega⟩
  rcases List.mem_append.mp hmem with hfirst | hbehind
  · exact hboot read hfirst
  · exact hthrough read hbehind

end Options.Visits

namespace Scanner

open VolumeScan.Action

variable {σ : Type} {scanner : Scanner σ} {registry : Registry} {state : σ} {index : Nat}
  {volume : Volume}

/-- **What is read of a first sector**, and what comes of it. -/
theorem bootRead_readBootSector (scanner : Scanner σ) (volume : Volume) (registry : Registry)
    (state : σ) :
    let pass := (scanner.readBootSector volume).run registry state
    volume.BootRead pass.events pass.result := by
  intro pass
  have hlen : max volume.sectorSize.toNat Mbr.sectorSize = volume.bootLen := rfl
  dsimp only [pass, readBootSector]
  rw [hlen]
  rcases hacquire : scanner.env.scratch.acquire state volume.bootLen with ⟨acquisition, acquired⟩
  cases acquisition with
  | refused =>
    rw [run_withBuffer_of_refused hacquire]
    exact .ungranted nofun rfl
  | short grant =>
    rw [run_withBuffer_of_short hacquire]
    refine .ungranted (fun block hblock => ?_) rfl
    cases hblock
    exact Allocator.size_lt_of_short hacquire
  | whole grant =>
    have hsize := (Environment.grants_iff.mpr hacquire).size_le
    rw [run_withBuffer_of_whole hacquire]
    rcases hread : scanner.env.read acquired volume 0 volume.bootLen with ⟨result, answered⟩
    cases result with
    | error error =>
      have hfill : (fill scanner.env grant volume 0 volume.bootLen).run registry acquired = _ :=
        run_fill_of_error hsize hread
      rw [run_bind_of_error (congrArg Pass.result hfill), hfill]
      exact .failed hsize (answers_release _ _ _)
    | ok block =>
      have hfill : (fill scanner.env grant volume 0 volume.bootLen).run registry acquired = _ :=
        run_fill_of_ok hsize hread
      have hlong : Mbr.sectorSize ≤ block.val.length :=
        Nat.le_trans (Nat.le_max_right _ _) (Nat.le_of_eq block.property.symm)
      obtain ⟨mbr, hmbr⟩ := Mbr.exists_ofSector (List.length_take_of_le hlong)
      rw [run_bind_of_ok (congrArg Pass.result hfill), hfill]
      dsimp only
      rw [Bytes.slice_append_of_le hlong, lift_ok_bind, hmbr]
      exact .read hsize hmbr (answers_release _ _ _)

/-- **A visit is as `Visits` says**, and its result is whether the first sector could be read. -/
theorem visits_visit (scanner : Scanner σ) (hat : registry.volumes[index]? = some volume)
    (state : σ) :
    let pass := scanner.visit registry index state
    scanner.options.Visits volume pass.events ∧ pass.result = firstAnswered pass.events := by
  have hstart := scanner.bootRead_readBootSector volume registry state
  dsimp only at hstart ⊢
  cases hboot : ((scanner.readBootSector volume).run registry state).result with
  | error error =>
    rw [hboot] at hstart
    rw [visit_of_unreadable hat hboot]
    exact ⟨.intro hstart .nothing nofun, hstart.isOk_eq nofun⟩
  | ok mbr =>
    rw [hboot] at hstart
    cases hvalid : mbr.validate volume with
    | error error =>
      rw [visit_of_noTable hat hboot hvalid]
      exact ⟨.intro hstart .nothing nofun, hstart.isOk_eq nofun⟩
    | ok _ =>
      rw [visit_of_table hat hboot hvalid]
      dsimp only
      rw [detectOrLog_eq, List.append_assoc]
      obtain ⟨hgpt, hannounced⟩ := scanner.answers_detect mbr hat
        ((scanner.readBootSector volume).run registry state).state
      refine ⟨.intro hstart ?_ fun hne => ⟨mbr, rfl, hvalid, hannounced ?_⟩,
        hstart.isOk_eq fun _ => rfl⟩
      · simpa using hgpt
      · simpa using hne

/-- A visit leaves the other volumes as they are. -/
theorem getElem?_visit_of_ne {i : Nat} (hi : i < registry.size) (hne : index ≠ i) :
    (scanner.visit registry index state).registry.volumes[i]? = registry.volumes[i]? := by
  obtain ⟨found, hregistry⟩ := scanner.exists_registry_visit registry index state
  rw [hregistry, Registry.getElem?_enroll hi, if_neg hne]

/-- So visits to different volumes go to these volumes as they were before all of them. -/
theorem visits_visitAll (scanner : Scanner σ) {indices : List Nat} (hnodup : indices.Nodup)
    {volumes : List Volume} {registry : Registry}
    (hat : (indices.map fun index => registry.volumes[index]?) = volumes.map some) (state : σ) :
    let pass := scanner.visitAll indices registry state
    ∃ blocks, pass.events = blocks.flatten
      ∧ List.Forall₂ scanner.options.Visits volumes blocks
      ∧ pass.result = blocks.any firstAnswered := by
  induction indices generalizing volumes registry state with
  | nil =>
    have hnil : volumes = [] := List.map_eq_nil_iff.mp hat.symm
    subst hnil
    exact ⟨[], rfl, .nil, rfl⟩
  | cons index rest ih =>
    cases volumes with
    | nil => cases hat
    | cons volume volumes =>
      obtain ⟨hindex, hrest⟩ := List.nodup_cons.mp hnodup
      obtain ⟨hfirst, hothers⟩ := List.cons.inj hat
      obtain ⟨hvisits, hresult⟩ := scanner.visits_visit hfirst state
      have hkept : (rest.map fun i => (scanner.visit registry index state).registry.volumes[i]?)
          = volumes.map some := by
        rw [← hothers]
        refine List.map_congr_left fun i hmem => getElem?_visit_of_ne ?_ ?_
        · obtain ⟨_, -, hother⟩ := List.mem_map.mp (hothers ▸ List.mem_map_of_mem hmem)
          exact (List.getElem?_eq_some_iff.mp hother.symm).1
        · rintro rfl
          exact hindex hmem
      obtain ⟨blocks, hevents, hblocks, hany⟩ :=
        ih hrest hkept (scanner.visit registry index state).state
      refine ⟨(scanner.visit registry index state).events :: blocks, ?_, .cons hvisits hblocks, ?_⟩
      · rw [List.flatten_cons, ← hevents]
        rfl
      · rw [List.any_cons, ← hresult, ← hany]
        rfl

/-- **Which reads a pass asks for.** Whatever the registry, the environment and the options are, the
events of a pass are one block of events for each volume that is registered when it starts, in
order, and a summary in the log. A block begins with the request for memory for the first sector of
its volume. Unless that is granted in full, nothing is read. Otherwise there is one read of the
first sector. Only if it gives a legacy table that is valid for the volume, the volume is a device
that was not scanned before, and the table announces a GPT that may be read, reads of a GPT may
follow: those of both headers and of the array of the chosen one, in this order, and each of them
only if the one before it succeeded. After how many of them a block ends is left open. So all reads
of a block go through its volume as it was when the pass started, and there are at most four. The
pass succeeds exactly if the first read of some block gives its bytes. -/
theorem discover_reads_in_blocks (scanner : Scanner σ) (registry : Registry) (state : σ) :
    let pass := scanner.discover registry state
    ∃ (blocks : List (List Event)) (summary : Record),
      pass.events = blocks.flatten ++ [.log summary]
        ∧ Event.reads pass.events = blocks.flatMap Event.reads
        ∧ List.Forall₂ (fun volume block => scanner.options.Visits volume block
            ∧ (∀ read ∈ Event.reads block, read.1 = volume) ∧ (Event.reads block).length ≤ 4)
          registry.volumes blocks
        ∧ (pass.result = true ↔ ∃ block ∈ blocks, firstAnswered block = true) := by
  intro pass
  have hat : ((List.range registry.size).map fun index => registry.volumes[index]?)
      = registry.volumes.map some := by
    apply List.ext_getElem <;> simp [Registry.size]
  obtain ⟨blocks, hblocks, hvisits, hany⟩ := scanner.visits_visitAll List.nodup_range hat state
  obtain ⟨summary, hevents, -⟩ := scanner.exists_events_discover registry state
  obtain ⟨hresult, -⟩ := scanner.discover_eq_visitAll registry state
  have hreads : Event.reads pass.events = blocks.flatMap Event.reads := by
    rw [hevents, hblocks, reads_append, reads_flatten]
    exact List.append_nil _
  refine ⟨blocks, summary, by rw [hevents, hblocks], hreads, ?_, ?_⟩
  · exact hvisits.imp fun volume block hvisit => ⟨hvisit, hvisit.reads_le⟩
  · rw [hresult, hany, List.any_eq_true]

end Scanner

end VolumeScan

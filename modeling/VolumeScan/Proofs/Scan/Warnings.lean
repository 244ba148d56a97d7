/-
VolumeScan.Proofs.Scan.Warnings — detections log little, but warn of a second header.

What a scan logs at info level are its reports, and they are not written inside the actions that it
is made of. `Action.Warns` is the contract of such an action: whatever the environment does, it logs
nothing at info level; and if its result is a degraded one, it has logged a warning. There is one
rule for each kind of step. In a sequence, a step that has warned speaks for those behind it
(`Warns.bind`), so the choice of a header, which logs the warning, is the only place where anything
has to be said (`Scanner.warns_withHeader`, `Scanner.warns_detect`).
-/
import VolumeScan.Proofs.Scan.Table
import VolumeScan.Proofs.Scan.Action
import VolumeScan.Scan.Discovery

namespace VolumeScan

/-! ## Records -/

namespace Record

/-- None of the records is at info level. -/
def Quiet (records : List Record) : Prop := ∀ record ∈ records, record.level ≠ .info

/-- The records say that the second copy of a header is used. -/
def Degraded (records : List Record) : Prop := ∃ lba, .backupUsed lba ∈ records

variable {records more : List Record}

@[simp] theorem quiet_nil : Quiet [] := List.forall_mem_nil _

@[simp] theorem quiet_singleton_iff {record : Record} : Quiet [record] ↔ record.level ≠ .info :=
  List.forall_mem_singleton

theorem Quiet.append (h : Quiet records) (hmore : Quiet more) : Quiet (records ++ more) :=
  fun record hmem => (List.mem_append.mp hmem).elim (h record) (hmore record)

theorem Quiet.filter_eq_nil (h : Quiet records) : records.filter (·.level = .info) = [] :=
  List.filter_eq_nil_iff.mpr fun record hmem => by simpa using h record hmem

@[simp] theorem degraded_append_iff :
    Degraded (records ++ more) ↔ Degraded records ∨ Degraded more := by
  simp [Degraded, exists_or]

end Record

/-- Around a block nothing is logged at info level. -/
theorem Event.quiet_records_block {events : List Event} (h : Record.Quiet (records events))
    (size : Nat) (grant : Grant) (accepted : Bool) :
    Record.Quiet (records (.allocate size (some grant) :: events
      ++ (.release grant :: Action.complaint grant accepted))) := by
  rw [records_append]
  refine Record.Quiet.append h ?_
  cases accepted with
  | true => exact Record.quiet_nil
  | false => simp [Record.Quiet, records, Action.complaint, Record.level]

/-! ## Actions that warn -/

namespace Action

variable {σ α β : Type}

/-- Whatever the environment does, the action logs nothing at info level; and if it has a degraded
result, it has logged that the second copy of a header is used. -/
structure Warns (action : Action σ α) (degraded : α → Prop) : Prop where
  quiet : ∀ registry state, Record.Quiet (Event.records (action.run registry state).events)
  warned : ∀ registry state a, (action.run registry state).result = .ok a → degraded a →
    Record.Degraded (Event.records (action.run registry state).events)

namespace Warns

variable {degraded : α → Prop}

/-- An action that logs nothing must not have a degraded result. -/
theorem silent {action : Action σ α}
    (hevents : ∀ registry state, Event.records (action.run registry state).events = [])
    (h : ∀ registry state a, (action.run registry state).result = .ok a → ¬degraded a) :
    action.Warns degraded where
  quiet := fun registry state => by
    rw [hevents]
    exact Record.quiet_nil
  warned := fun registry state a hresult hdegraded =>
    absurd hdegraded (h registry state a hresult)

theorem lift {x : Except Error α} (h : ∀ a, x = .ok a → ¬degraded a) :
    (liftM x : Action σ α).Warns degraded := .silent (fun _ _ => rfl) fun _ _ => h

theorem pure {a : α} (h : ¬degraded a) : (Pure.pure a : Action σ α).Warns degraded :=
  .silent (fun _ _ => rfl) fun _ _ _ heq => Except.ok.inj heq ▸ h

theorem current : (Action.current : Action σ Registry).Warns fun _ => False :=
  .silent (fun _ _ => rfl) fun _ _ _ _ => id

theorem append (volume : Volume) : (Action.append volume : Action σ Bool).Warns fun _ => False := by
  refine .silent (fun registry state => ?_) fun _ _ _ _ => id
  cases happend : registry.append volume with
  | none => rw [run_append_of_none happend]; rfl
  | some grown => rw [run_append_of_some happend]; rfl

theorem classify (index : Nat) (kind : VolumeKind) :
    (Action.classify index kind : Action σ Unit).Warns fun _ => False := by
  refine .silent (fun registry state => ?_) fun _ _ _ _ => id
  cases hclassify : registry.classify index kind with
  | error error => rw [run_classify_of_error hclassify]; rfl
  | ok classified => rw [run_classify_of_ok hclassify]; rfl

theorem fill (env : Environment σ) (buffer : Grant) (volume : Volume) (pos len : Nat) :
    (Action.fill env buffer volume pos len).Warns fun _ => False := by
  refine .silent (fun registry state => ?_) fun _ _ _ _ => id
  rcases Nat.lt_or_ge buffer.size len with hshort | hlen
  · rw [run_fill_of_short hshort]
    rfl
  · rcases hread : env.read state volume pos len with ⟨answer, answered⟩
    cases answer with
    | error error => rw [run_fill_of_error hlen hread]; rfl
    | ok block => rw [run_fill_of_ok hlen hread]; rfl

theorem log {records : List Record} (h : Record.Quiet records) :
    (Action.log records : Action σ Unit).Warns fun _ => Record.Degraded records where
  quiet := fun registry state => by
    rw [run_log, Event.records_map_log]
    exact h
  warned := fun registry state _ _ hdegraded => by
    rw [run_log, Event.records_map_log]
    exact hdegraded

theorem mono {action : Action σ α} {weaker : α → Prop} (h : action.Warns degraded)
    (hweaker : ∀ a, weaker a → degraded a) : action.Warns weaker where
  quiet := h.quiet
  warned := fun registry state a hresult hdegraded =>
    h.warned registry state a hresult (hweaker a hdegraded)

/-- What the first step of a sequence has said need not be said again. -/
theorem bind {action : Action σ β} {next : β → Action σ α} {told : β → Prop}
    (h : action.Warns told) (hnext : ∀ b, (next b).Warns fun a => degraded a ∧ ¬told b) :
    (action >>= next).Warns degraded where
  quiet := fun registry state => by
    cases hresult : (action.run registry state).result with
    | error error =>
      rw [run_bind_of_error hresult]
      exact h.quiet registry state
    | ok b =>
      rw [run_bind_of_ok hresult, Event.records_append]
      exact (h.quiet registry state).append ((hnext b).quiet _ _)
  warned := fun registry state a hend hdegraded => by
    cases hresult : (action.run registry state).result with
    | error error =>
      rw [run_bind_of_error hresult] at hend
      cases hend
    | ok b =>
      rw [run_bind_of_ok hresult] at hend ⊢
      rw [Event.records_append]
      refine Record.degraded_append_iff.mpr ?_
      by_cases htold : told b
      · exact .inl (h.warned registry state b hresult htold)
      · exact .inr ((hnext b).warned _ _ a hend ⟨hdegraded, htold⟩)

/-- A step with nothing to say may come before. -/
theorem after {action : Action σ β} {next : β → Action σ α} (h : action.Warns fun _ => False)
    (hnext : ∀ b, (next b).Warns degraded) : (action >>= next).Warns degraded :=
  h.bind fun b => (hnext b).mono fun _ => And.left

/-- A check may come before what is done with its result. -/
theorem lift_bind {x : Except Error β} {next : β → Action σ α}
    (h : ∀ b, x = .ok b → (next b).Warns degraded) :
    ((liftM x : Action σ β) >>= next).Warns degraded := by
  cases x with
  | error error =>
    rw [lift_error_bind]
    exact .lift nofun
  | ok b =>
    rw [lift_ok_bind]
    exact h b rfl

theorem withBuffer {env : Environment σ} {size : Nat} {body : Grant → Action σ α}
    (h : ∀ grant, (body grant).Warns degraded) :
    (Action.withBuffer env size body).Warns degraded where
  quiet := fun registry state => by
    rcases hacquire : env.scratch.acquire state size with ⟨acquisition, acquired⟩
    cases acquisition with
    | refused =>
      rw [run_withBuffer_of_refused hacquire]
      exact Record.quiet_nil
    | short grant =>
      rw [run_withBuffer_of_short hacquire]
      exact Record.quiet_nil
    | whole grant =>
      rw [run_withBuffer_of_whole hacquire]
      exact Event.quiet_records_block ((h grant).quiet registry acquired) size grant _
  warned := fun registry state a hend hdegraded => by
    rcases hacquire : env.scratch.acquire state size with ⟨acquisition, acquired⟩
    cases acquisition with
    | refused =>
      rw [run_withBuffer_of_refused hacquire] at hend
      cases hend
    | short grant =>
      rw [run_withBuffer_of_short hacquire] at hend
      cases hend
    | whole grant =>
      rw [run_withBuffer_of_whole hacquire] at hend ⊢
      have hwarned := (h grant).warned registry acquired a hend hdegraded
      rw [Event.records_append]
      exact Record.degraded_append_iff.mpr (.inl hwarned)

/-- The loop that registers partitions says nothing if their records do not. -/
theorem enlistAll {scheme : Scheme} {describe : β → Except Error Partition} {items : List β}
    (h : ∀ item ∈ items, ∀ partition, describe item = .ok partition →
      partition.record.level ≠ .info) :
    (Scanner.enlistAll scheme describe items : Action σ Bool).Warns fun _ => False := by
  induction items with
  | nil => exact .pure id
  | cons item rest ih =>
    obtain ⟨hitem, hrest⟩ := List.forall_mem_cons.mp h
    unfold Scanner.enlistAll
    refine .lift_bind fun partition hpartition => .after (.append _) fun appended => ?_
    cases appended with
    | true =>
      have hrecord : Record.Quiet [partition.record] := by
        simpa using hitem partition hpartition
      exact ((log hrecord).bind fun _ => (ih hrest).mono fun _ => And.left)
    | false =>
      have hfull : ∀ capacity, Record.Quiet [.registryFull capacity scheme] := by
        simp [Record.level]
      exact .after .current fun _ => (log (hfull _)).bind fun _ => .pure And.left

end Warns

end Action

/-! ## What a detection says -/

namespace Gpt

variable {primary backup : Bytes} {sectorSize totalSectors : Nat}

theorem quiet_chooseHeader :
    Record.Quiet (chooseHeader primary backup sectorSize totalSectors).2 := by
  unfold chooseHeader
  cases Header.validate primary .primary sectorSize totalSectors with
  | ok header => exact Record.quiet_nil
  | error rejected =>
    cases Header.validate backup .backup sectorSize totalSectors <;>
      simp [Record.Quiet, Record.level]

/-- Choosing the second copy of a header is logged. -/
theorem degraded_chooseHeader {header : Header}
    (h : (chooseHeader primary backup sectorSize totalSectors).1 = .ok (.backup, header)) :
    Record.Degraded (chooseHeader primary backup sectorSize totalSectors).2 := by
  obtain ⟨hslot, -⟩ | ⟨-, ⟨rejected, hrejected⟩, hvalid⟩ := chooseHeader_eq_ok_iff.mp h
  · cases hslot
  · refine ⟨header.myLba, ?_⟩
    simp [chooseHeader, hrejected, hvalid]

end Gpt

/-- What is logged about a partition is which entry it comes from. -/
theorem Gpt.Entry.record_of_partition {entry : Gpt.Entry} {parent : Volume} {index : Nat}
    {partition : Partition} (h : entry.partition parent index = .ok partition) :
    partition.record = .gptEntry index entry := by
  obtain ⟨_, -, h⟩ := bind_eq_ok_iff.mp h
  obtain ⟨_, -, h⟩ := bind_eq_ok_iff.mp h
  cases h
  rfl

theorem Mbr.Entry.record_of_partition {entry : Mbr.Entry} {parent : Volume} {index : Nat}
    {partition : Partition} (h : entry.partition parent index = .ok partition) :
    partition.record = .mbrEntry index entry := by
  obtain ⟨_, -, h⟩ := bind_eq_ok_iff.mp h
  obtain ⟨_, -, h⟩ := bind_eq_ok_iff.mp h
  obtain ⟨_, -, h⟩ := bind_eq_ok_iff.mp h
  obtain ⟨_, -, h⟩ := bind_eq_ok_iff.mp h
  cases h
  rfl

namespace Scanner

open VolumeScan.Action

variable {σ α : Type} {scanner : Scanner σ} {parent : Volume}

/-- Choosing the second copy of a header is said at once, so what is done with it need not say
it. -/
theorem warns_withHeader {body : Gpt.HeaderCopy → Gpt.Header → Action σ α} {degraded : α → Prop}
    (h : ∀ slot header, (body slot header).Warns fun a => degraded a ∧ slot ≠ .backup) :
    (scanner.withHeader parent body).Warns degraded := by
  unfold withHeader
  refine .lift_bind fun _ _ => .withBuffer fun _ => .withBuffer fun _ => ?_
  refine .after (.fill ..) fun primary => .lift_bind fun _ _ => ?_
  refine .after (.fill ..) fun backup => ?_
  -- From here on it has been said if the second copy is used.
  refine (Warns.log Gpt.quiet_chooseHeader).bind fun _ => ?_
  refine .lift_bind fun (slot, header) hchosen => (h slot header).mono fun a hleft => ?_
  obtain ⟨hdegraded, huntold⟩ := hleft
  refine ⟨hdegraded, ?_⟩
  rintro rfl
  exact huntold (Gpt.degraded_chooseHeader hchosen)

theorem warns_withTable {header : Gpt.Header} {body : Bytes → Action σ α} {degraded : α → Prop}
    (h : ∀ array, (body array).Warns degraded) :
    (scanner.withTable parent header body).Warns degraded := by
  unfold withTable
  refine .lift_bind fun _ _ => .withBuffer fun _ => .lift_bind fun _ _ => ?_
  exact .after (.fill ..) fun _ => .lift_bind fun array _ => .lift_bind fun _ _ => h array

theorem warns_enlistGpt (scanner : Scanner σ) (parent : Volume) :
    (scanner.enlistGpt parent).Warns fun enlisted => enlisted.header = some .backup := by
  unfold enlistGpt
  refine warns_withHeader fun slot header => warns_withTable fun array => ?_
  have hdisk : Record.Quiet [.gptDisk slot header] := by simp [Record.level]
  refine (Warns.log hdisk).bind fun _ => .lift_bind fun used _ => ?_
  refine .after (.enlistAll fun _ _ partition hpartition => ?_) fun _ => .pure ?_
  · simp [Gpt.Entry.record_of_partition hpartition, Record.level]
  · rintro ⟨⟨hbackup, hprimary⟩, -⟩
    exact hprimary (Option.some.inj hbackup)

theorem warns_enlistMbr (scanner : Scanner σ) (mbr : Mbr) (parent : Volume) :
    (scanner.enlistMbr mbr parent).Warns fun enlisted => enlisted.header = some .backup := by
  unfold enlistMbr
  by_cases hpolicy : scanner.options.mbr = .never
  · rw [if_pos hpolicy]
    exact .lift nofun
  · rw [if_neg hpolicy]
    refine .lift_bind fun _ _ => ?_
    refine .after (.enlistAll fun _ _ partition hpartition => ?_) fun _ => .pure nofun
    simp [Mbr.Entry.record_of_partition hpartition, Record.level]

/-- **A detection warns** if it used the second copy of a header. -/
theorem warns_detect (scanner : Scanner σ) (mbr : Mbr) (index : Nat) :
    (scanner.detect mbr index).Warns fun detection => detection.header = some .backup := by
  unfold detect
  refine .after .current fun before => .lift_bind fun volume _ => .lift_bind fun _ _ => ?_
  have henlist : (scanner.enlist mbr volume).Warns
      fun enlisted => enlisted.header = some .backup := by
    unfold enlist
    split
    · exact warns_enlistGpt scanner volume
    · exact warns_enlistMbr scanner mbr volume
  refine henlist.bind fun enlisted => .after (.classify ..) fun _ => .after .current fun after => ?_
  exact .lift_bind fun added _ => .pure fun hleft => hleft.2 hleft.1

theorem warns_readBootSector (scanner : Scanner σ) (volume : Volume) :
    (scanner.readBootSector volume).Warns fun _ => False := by
  unfold readBootSector
  refine .withBuffer fun _ => .after (.fill ..) fun _ => .lift_bind fun _ _ => ?_
  exact .lift fun _ _ => id

end Scanner

end VolumeScan

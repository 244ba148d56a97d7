/-
VolumeScan.Proofs.Scan.FaultFreedom — no operation on a registry is a fault.

`Environment.Accounts` is about one error: it can be reported, or the block reader itself answered
with it. `Action.FaultFree` is the contract of an action all of whose errors are of this kind, those
that it only logs included, together with what is known of its result and its registry. There is one
rule for each kind of step; the one for a buffer hands on that the block is at least as large as the
request, which is what a read into it relies on.

So no request is a fault, on whatever registry (`Request.accounts_errors`).
-/
import VolumeScan.Proofs.Faults
import VolumeScan.Proofs.Scan.Discovery
import VolumeScan.Proofs.Scan.Returns
import VolumeScan.Scan.Request

namespace VolumeScan

/-! ## The errors of a pass -/

/-- The error that a record speaks of. -/
def Record.error? : Record → Option Error
  | .unreadable _ error | .noTable _ error | .tableUnused _ error | .primaryRejected error =>
    some error
  | _ => none

/-- The error that a request is answered with. -/
def Response.error? : Response → Option Error
  | .failed error => some error
  | _ => none

/-- The errors that events speak of. -/
def Event.errors (events : List Event) : List Error :=
  (Event.records events).filterMap Record.error?

/-- All errors of a pass: those that were logged and dropped, and the one in the answer. -/
def Pass.errors {σ : Type} (pass : Pass σ Response) : List Error :=
  Event.errors pass.events ++ pass.result.error?.toList

namespace Event

theorem errors_append (events more : List Event) :
    errors (events ++ more) = errors events ++ errors more := by
  simp [errors, records]

theorem errors_map_log (entries : List Record) :
    errors (entries.map .log) = entries.filterMap Record.error? := by
  simp [errors, records_map_log]

/-- Around a block there are no errors besides those in it. -/
theorem errors_block (size : Nat) (grant : Grant) (events : List Event) (accepted : Bool) :
    errors (.allocate size (some grant) :: events
        ++ (.release grant :: Action.complaint grant accepted)) = errors events := by
  cases accepted <;> simp [errors, records, Action.complaint, Record.error?]

end Event

namespace Environment

variable {σ : Type} {env : Environment σ} {events more : List Event}

/-- The error can be reported, or it is an answer of the block reader. -/
def Accounts (env : Environment σ) (error : Error) : Prop :=
  error.Reportable ∨ ∃ state volume pos len, (env.read state volume pos len).1 = .error error

/-- All errors among the events are accounted for. -/
def AccountsFor (env : Environment σ) (events : List Event) : Prop :=
  ∀ error ∈ Event.errors events, env.Accounts error

theorem AccountsFor.append (h : env.AccountsFor events) (hmore : env.AccountsFor more) :
    env.AccountsFor (events ++ more) := by
  intro error hmem
  rw [Event.errors_append, List.mem_append] at hmem
  exact hmem.elim (h error) (hmore error)

theorem AccountsFor.logs {records : List Record}
    (h : ∀ error ∈ records.filterMap Record.error?, env.Accounts error) :
    env.AccountsFor (records.map .log) := by
  intro error hmem
  rw [Event.errors_map_log] at hmem
  exact h error hmem

/-- A record without an error can be logged everywhere. -/
theorem AccountsFor.log {record : Record} (h : ∀ error, record.error? = some error →
    env.Accounts error) : env.AccountsFor [.log record] := by
  have hrecords : ∀ error ∈ [record].filterMap Record.error?, env.Accounts error :=
    fun error hmem => h error (by simpa using hmem)
  exact AccountsFor.logs hrecords

end Environment

namespace Action

variable {σ α β : Type} {env : Environment σ} {registry : Registry}

/-- From `registry`, whatever the environment does, the errors of the action are accounted for,
whether it logs them or ends with one; and if it has a result, then this and the registry are as
`post` says. -/
def FaultFree (env : Environment σ) (action : Action σ α) (registry : Registry)
    (post : α → Registry → Prop) : Prop :=
  ∀ state,
    env.AccountsFor (action.run registry state).events
      ∧ match (action.run registry state).result with
        | .ok a => post a (action.run registry state).registry
        | .error error => env.Accounts error

namespace FaultFree

variable {post : α → Registry → Prop}

theorem lift {x : Except Error α} (hx : Faultless x) (h : ∀ a, x = .ok a → post a registry) :
    FaultFree env (liftM x : Action σ α) registry post := by
  intro state
  refine ⟨nofun, ?_⟩
  cases x with
  | ok a => exact h a rfl
  | error error => exact .inl (hx error rfl)

theorem pure {a : α} (h : post a registry) :
    FaultFree env (Pure.pure a : Action σ α) registry post := fun _ => ⟨nofun, h⟩

theorem current {post : Registry → Registry → Prop} (h : post registry registry) :
    FaultFree env (Action.current : Action σ Registry) registry post := fun _ => ⟨nofun, h⟩

theorem log {records : List Record} {post : Unit → Registry → Prop}
    (hrecords : ∀ error ∈ records.filterMap Record.error?, env.Accounts error)
    (h : post () registry) : FaultFree env (Action.log records) registry post :=
  fun _ => ⟨.logs hrecords, h⟩

theorem classify {index : Nat} {kind : VolumeKind} {post : Unit → Registry → Prop}
    (h : ∀ classified, registry.classify index kind = .ok classified → post () classified) :
    FaultFree env (Action.classify index kind) registry post := by
  intro state
  cases hclassify : registry.classify index kind with
  | ok classified =>
    rw [run_classify_of_ok hclassify]
    exact ⟨nofun, h classified hclassify⟩
  | error error =>
    rw [run_classify_of_error hclassify]
    exact ⟨nofun, .inl (registry.faultless_classify index kind error hclassify)⟩

/-- A read into a buffer that is large enough. -/
theorem fill {buffer : Grant} {volume : Volume} {pos len : Nat} {post : Bytes → Registry → Prop}
    (hlen : len ≤ buffer.size)
    (h : ∀ block : Block len, post (block.val ++ List.replicate (buffer.size - len) 0) registry) :
    FaultFree env (Action.fill env buffer volume pos len) registry post := by
  intro state
  rcases hread : env.read state volume pos len with ⟨answer, answered⟩
  cases answer with
  | ok block =>
    rw [run_fill_of_ok hlen hread]
    exact ⟨nofun, h block⟩
  | error error =>
    rw [run_fill_of_error hlen hread]
    exact ⟨nofun, .inr ⟨state, volume, pos, len, congrArg Prod.fst hread⟩⟩

theorem bind {action : Action σ β} {next : β → Action σ α}
    (h : FaultFree env action registry fun b after => FaultFree env (next b) after post) :
    FaultFree env (action >>= next) registry post := by
  intro state
  obtain ⟨hlogged, hended⟩ := h state
  cases hresult : (action.run registry state).result with
  | error error =>
    rw [hresult] at hended
    rw [run_bind_of_error hresult]
    exact ⟨hlogged, hended⟩
  | ok b =>
    rw [hresult] at hended
    obtain ⟨hlogged', hended'⟩ := hended (action.run registry state).state
    rw [run_bind_of_ok hresult]
    exact ⟨hlogged.append hlogged', hended'⟩

theorem mono {action : Action σ α} {weaker : α → Registry → Prop}
    (h : FaultFree env action registry post) (hweaker : ∀ a after, post a after → weaker a after) :
    FaultFree env action registry weaker := by
  intro state
  obtain ⟨hlogged, hended⟩ := h state
  refine ⟨hlogged, ?_⟩
  cases hresult : (action.run registry state).result with
  | error error => rwa [hresult] at hended
  | ok a =>
    rw [hresult] at hended
    exact hweaker a _ hended

/-- The body of a buffer has a block that is at least as large as the request. -/
theorem withBuffer {size : Nat} {body : Grant → Action σ α}
    (h : ∀ grant, size ≤ grant.size → FaultFree env (body grant) registry post) :
    FaultFree env (Action.withBuffer env size body) registry post := by
  intro state
  rcases hacquire : env.scratch.acquire state size with ⟨acquisition, acquired⟩
  cases acquisition with
  | refused =>
    rw [run_withBuffer_of_refused hacquire]
    exact ⟨nofun, .inl ⟨nofun, nofun⟩⟩
  | short grant =>
    rw [run_withBuffer_of_short hacquire]
    exact ⟨nofun, .inl ⟨nofun, nofun⟩⟩
  | whole grant =>
    have hsize := (Environment.grants_iff.mpr hacquire).size_le
    obtain ⟨hlogged, hended⟩ := h grant hsize acquired
    rw [run_withBuffer_of_whole hacquire]
    refine ⟨?_, hended⟩
    rwa [Environment.AccountsFor, Event.errors_block]

/-- The loop that registers partitions is no fault if none of its items is one. -/
theorem enlistAll {ι : Type} {scheme : Scheme} {describe : ι → Except Error Partition}
    {items : List ι} {partitions : List Partition} (h : items.map describe = partitions.map .ok)
    (hrecords : ∀ partition ∈ partitions, partition.record.error? = none)
    {post : Bool → Registry → Prop}
    (hpost : ∀ truncated, post truncated (registry.extend (partitions.map (·.volume)))) :
    FaultFree env (Scanner.enlistAll scheme describe items) registry post := by
  intro state
  rw [Scanner.enlistAll_apply h]
  refine ⟨.logs fun error hmem => ?_, hpost _⟩
  rw [Scanner.enlistRecords, List.filterMap_append, List.mem_append] at hmem
  rcases hmem with hmem | hmem
  · obtain ⟨record, hrecord, herror⟩ := List.mem_filterMap.mp hmem
    obtain ⟨partition, hpartition, rfl⟩ := List.mem_map.mp hrecord
    rw [hrecords partition (List.mem_of_mem_take hpartition)] at herror
    cases herror
  · split at hmem <;> cases hmem

end FaultFree

end Action

/-! ## The operations of a scanner -/

namespace Scanner

open VolumeScan.Action

variable {σ α : Type} {scanner : Scanner σ} {registry : Registry} {parent : Volume}

/-- The log of a choice of headers says why the first one was rejected. -/
theorem reportable_of_chooseHeader {primary backup : Bytes} {sectorSize totalSectors : Nat}
    {error : Error}
    (h : error ∈ (Gpt.chooseHeader primary backup sectorSize totalSectors).2.filterMap
      Record.error?) : error.Reportable := by
  unfold Gpt.chooseHeader at h
  cases hprimary : Gpt.Header.validate primary .primary sectorSize totalSectors with
  | ok header => simp [hprimary] at h
  | error rejected =>
    have heq : error = rejected := by
      cases hbackup : Gpt.Header.validate backup .backup sectorSize totalSectors <;>
        simpa [hprimary, hbackup, Record.error?] using h
    rw [heq]
    exact Gpt.Header.faultless_validate _ _ _ _ rejected hprimary

/-- Both headers are read and checked without a fault, and the chosen one is valid. -/
theorem faultFree_withHeader {body : Gpt.HeaderCopy → Gpt.Header → Action σ α}
    {post : α → Registry → Prop}
    (h : ∀ slot header,
      (parent.sectorCount.toNat - 1) * parent.sectorSize.toNat < wordLimit →
      header.Valid slot parent.sectorSize.toNat parent.sectorCount.toNat →
      FaultFree scanner.env (body slot header) registry post) :
    FaultFree scanner.env (scanner.withHeader parent body) registry post := by
  unfold withHeader
  refine .bind (.lift (.require _ _) fun _ _ => .withBuffer fun first hfirst => ?_)
  refine .withBuffer fun second hsecond => .bind (.fill hfirst fun primary => ?_)
  refine .bind (.lift (Gpt.faultless_byteOf _ _) fun backupByte hbyte => ?_)
  obtain ⟨hlast, -⟩ := Gpt.byteOf_eq_ok_iff.mp hbyte
  refine .bind (.fill hsecond fun backup => ?_)
  refine .bind (.log (fun error hmem => .inl (reportable_of_chooseHeader hmem)) ?_)
  refine .bind (.lift (Gpt.faultless_chooseHeader _ _ _ _) fun ⟨slot, header⟩ hchosen => ?_)
  rcases Gpt.chooseHeader_eq_ok_iff.mp hchosen with ⟨rfl, hvalid⟩ | ⟨rfl, -, hvalid⟩
  · exact h _ _ hlast (Gpt.Header.validate_valid hvalid)
  · exact h _ _ hlast (Gpt.Header.validate_valid hvalid)

/-- The array of a valid header is read and checked without a fault. -/
theorem faultFree_withTable {slot : Gpt.HeaderCopy} {header : Gpt.Header}
    (hvalid : header.Valid slot parent.sectorSize.toNat parent.sectorCount.toNat)
    {body : Bytes → Action σ α} {post : α → Registry → Prop}
    (h : ∀ array, array.length = header.arrayLen → header.admitArray array = .ok () →
      FaultFree scanner.env (body array) registry post) :
    FaultFree scanner.env (scanner.withTable parent header body) registry post := by
  have hsize := hvalid.sectorSize_pos
  have hword : parent.sectorSize.toNat < 2 ^ 32 := parent.sectorSize.toNat_lt
  have hslack := header.arrayLen_add_lt (Nat.lt_of_le_of_lt (Nat.sub_le _ 1) hword)
  unfold withTable
  refine .bind (.lift (Gpt.faultless_wholeSectors header hsize hword) fun len hwhole => ?_)
  obtain ⟨-, henough, -⟩ := (Gpt.wholeSectors_eq_ok_iff hsize hslack).mp hwhole
  refine .withBuffer fun buffer hbuffer => ?_
  refine .bind (.lift (Gpt.faultless_byteOf _ _) fun _ _ => .bind (.fill hbuffer fun block => ?_))
  have hlong : 0 + header.arrayLen
      ≤ (block.val ++ List.replicate (buffer.size - len) 0).length := by
    rw [List.length_append, block.property]
    omega
  refine .bind (.lift (.slice hlong) fun array harray => ?_)
  have hlength := Bytes.length_of_slice harray
  refine .bind (.lift (Gpt.Header.faultless_admitArray hlength hvalid.entrySize_ge) ?_)
  exact fun _ hadmitted => h array hlength hadmitted

variable {mbr : Mbr}

/-- No volume is lost when partitions are registered. -/
theorem size_le_extend (registry : Registry) (volumes : List Volume) :
    registry.size ≤ (registry.extend volumes).size := by simp [Registry.size]

theorem faultFree_enlistGpt :
    FaultFree scanner.env (scanner.enlistGpt parent) registry
      fun _ after => registry.size ≤ after.size := by
  unfold enlistGpt
  refine faultFree_withHeader fun slot header hlast hvalid => ?_
  refine faultFree_withTable hvalid fun array hlength hadmitted => ?_
  obtain ⟨-, hadmits⟩ :=
    (Gpt.Header.admitArray_eq_ok_iff hlength hvalid.entrySize_ge).mp hadmitted
  have hentries := Gpt.Header.entries_eq hlength hvalid.entrySize_ge
  refine .bind (.log nofun (.bind (.lift (.of_eq_ok hentries) fun used hused => ?_)))
  rw [hentries] at hused
  cases hused
  refine .bind (.enlistAll (Gpt.Header.map_partition hvalid hlast hadmits) ?_ fun _ => ?_)
  · intro partition hmem
    obtain ⟨_, -, rfl⟩ := List.mem_map.mp hmem
    rfl
  · exact .pure (size_le_extend _ _)

theorem faultFree_enlistMbr :
    FaultFree scanner.env (scanner.enlistMbr mbr parent) registry
      fun _ after => registry.size ≤ after.size := by
  unfold enlistMbr
  split
  · exact .lift (.error ⟨nofun, nofun⟩) nofun
  · refine .bind (.lift (mbr.faultless_validate parent) fun _ hvalid => ?_)
    refine .bind (.enlistAll (Mbr.map_partition hvalid) ?_ fun _ => ?_)
    · intro partition hmem
      obtain ⟨_, -, rfl⟩ := List.mem_map.mp hmem
      rfl
    · exact .pure (size_le_extend _ _)

theorem faultFree_enlist :
    FaultFree scanner.env (scanner.enlist mbr parent) registry
      fun _ after => registry.size ≤ after.size := by
  unfold enlist
  split
  · exact faultFree_enlistGpt
  · exact faultFree_enlistMbr

/-- **A detection is no fault**, on whatever registry, table and disk. -/
theorem faultFree_detect (scanner : Scanner σ) (mbr : Mbr) (index : Nat) (registry : Registry) :
    FaultFree scanner.env (scanner.detect mbr index) registry fun _ _ => True := by
  unfold detect
  refine .bind (.current (.bind (.lift (registry.faultless_volume index) fun volume _ => ?_)))
  refine .bind (.lift (.require _ _) fun _ _ => ?_)
  refine .bind (faultFree_enlist.mono fun enlisted middle hgrown => ?_)
  refine .bind (.classify fun classified hclassify => .bind (.current ?_))
  have hsize : registry.size ≤ classified.size := by
    obtain ⟨_, -, -, -, rfl⟩ := Registry.classify_eq_ok_iff.mp hclassify
    simpa [Registry.size] using hgrown
  exact .bind (.lift (.of_eq_ok (exactSub_of_le hsize)) fun _ _ => .pure trivial)

/-- Reading a first sector is no fault, whatever is in it. -/
theorem faultFree_readBootSector (scanner : Scanner σ) (volume : Volume) (registry : Registry) :
    FaultFree scanner.env (scanner.readBootSector volume) registry fun _ _ => True := by
  unfold readBootSector
  refine .withBuffer fun buffer hbuffer => .bind (.fill hbuffer fun block => ?_)
  have hlong : 0 + Mbr.sectorSize ≤ (block.val ++ List.replicate (buffer.size
      - max volume.sectorSize.toNat Mbr.sectorSize) 0).length := by
    rw [List.length_append, block.property]
    omega
  refine .bind (.lift (.slice hlong) fun sector hsector => ?_)
  exact .lift (Mbr.faultless_ofSector (Bytes.length_of_slice hsector)) fun _ _ => trivial

/-! ## Passes -/

theorem accountsFor_detectOrLog (scanner : Scanner σ) (mbr : Mbr) (index : Nat)
    (registry : Registry) (state : σ) :
    scanner.env.AccountsFor (scanner.detectOrLog mbr index registry state).events := by
  obtain ⟨hlogged, hended⟩ := faultFree_detect scanner mbr index registry state
  rw [detectOrLog_eq]
  refine hlogged.append (.logs fun error hmem => ?_)
  cases hresult : ((scanner.detect mbr index).run registry state).result with
  | ok detection => simp [hresult, unusedTable] at hmem
  | error rejected =>
    rw [hresult] at hmem hended
    obtain rfl : error = rejected := by simpa [unusedTable, Record.error?] using hmem
    exact hended

/-- The volumes that were found are reported without an error. -/
theorem errors_reports (registry : Registry) (first : Nat) :
    (reports registry first).filterMap Record.error? = [] := by
  rw [List.filterMap_eq_nil_iff]
  intro record hmem
  obtain ⟨_, -, rfl⟩ := List.mem_map.mp hmem
  rfl

theorem accountsFor_visit (scanner : Scanner σ) (registry : Registry) (index : Nat) (state : σ) :
    scanner.env.AccountsFor (scanner.visit registry index state).events := by
  cases hat : registry.volumes[index]? with
  | none =>
    rw [visit_of_none hat]
    exact nofun
  | some volume =>
    obtain ⟨hread, hended⟩ := faultFree_readBootSector scanner volume registry state
    cases hboot : ((scanner.readBootSector volume).run registry state).result with
    | error unreadable =>
      rw [hboot] at hended
      rw [visit_of_unreadable hat hboot]
      exact hread.append (.log fun _ heq => Option.some.inj heq ▸ hended)
    | ok mbr =>
      cases hvalid : mbr.validate volume with
      | error invalid =>
        have hreportable := mbr.faultless_validate volume invalid hvalid
        rw [visit_of_noTable hat hboot hvalid]
        exact hread.append (.log fun _ heq => Option.some.inj heq ▸ .inl hreportable)
      | ok _ =>
        rw [visit_of_table hat hboot hvalid]
        refine (hread.append (accountsFor_detectOrLog scanner mbr index _ _)).append (.logs ?_)
        simp [errors_reports]

theorem accountsFor_visitAll (scanner : Scanner σ) (indices : List Nat) (registry : Registry)
    (state : σ) : scanner.env.AccountsFor (scanner.visitAll indices registry state).events := by
  induction indices generalizing registry state with
  | nil => exact nofun
  | cons index rest ih => exact (accountsFor_visit scanner registry index state).append (ih _ _)

theorem accountsFor_discover (scanner : Scanner σ) (registry : Registry) (state : σ) :
    scanner.env.AccountsFor (scanner.discover registry state).events := by
  unfold discover
  split
  · exact .log nofun
  · refine (accountsFor_visitAll scanner _ registry state).append (.log ?_)
    split <;> nofun

end Scanner

/-- **No request is a fault**: all its errors are accounted for. -/
theorem Request.accounts_errors {σ : Type} (env : Environment σ) (registry : Registry) (state : σ)
    (request : Request) : ∀ error ∈ (request.serve env registry state).errors,
      env.Accounts error := by
  intro error hmem
  rw [Pass.errors, List.mem_append] at hmem
  cases request with
  | seed volume =>
    dsimp only [serve] at hmem
    cases hseed : registry.seed volume with
    | ok result => simp [hseed, Event.errors, Event.records, Response.error?] at hmem
    | error refused =>
      obtain rfl : error = refused := by
        simpa [hseed, Event.errors, Event.records, Response.error?] using hmem
      exact .inl (registry.faultless_seed volume error hseed)
  | discover options =>
    rcases hmem with hmem | hmem
    · exact Scanner.accountsFor_discover ⟨env, options⟩ registry state error hmem
    · cases hmem
  | detect options mbr parent =>
    obtain ⟨hlogged, hended⟩ :=
      Scanner.faultFree_detect ⟨env, options⟩ mbr parent registry state
    dsimp only [serve] at hmem
    cases hresult : ((Scanner.detect ⟨env, options⟩ mbr parent).run registry state).result with
    | ok detection =>
      rw [hresult] at hmem
      exact hmem.elim (hlogged error) nofun
    | error failed =>
      rw [hresult] at hmem hended
      rcases hmem with hmem | hmem
      · exact hlogged error hmem
      · obtain rfl : error = failed := by simpa [Response.error?] using hmem
        exact hended
  | detectOrLog options mbr parent =>
    rcases hmem with hmem | hmem
    · exact Scanner.accountsFor_detectOrLog ⟨env, options⟩ mbr parent registry state error hmem
    · cases hmem
  | find index =>
    dsimp only [serve] at hmem
    cases hvolume : registry.volume index with
    | ok volume => simp [hvolume, Event.errors, Event.records, Response.error?] at hmem
    | error missing =>
      obtain rfl : error = missing := by
        simpa [hvolume, Event.errors, Event.records, Response.error?] using hmem
      exact .inl (registry.faultless_volume index error hvolume)
  | peek index => simp [serve, Event.errors, Event.records, Response.error?] at hmem

end VolumeScan

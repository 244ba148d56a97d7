/-
VolumeScan.Proofs.Scan.Detection — a detection is a transaction.

The way to the first registered partition is a chain of buffers, reads and checks, none of which
touches the registry, so each may fail (`Scanner.withHeader_transacts`,
`Scanner.withTable_transacts`). What they hand on is an accepted table, of which no entry is a
fault; so the loop succeeds (`Scanner.enlist_transacts`). It appends to the volumes that were there
and leaves the device as it was, unclassified; so classifying it succeeds too, and nothing behind
the first change fails (`Scanner.detect_transacts`). What a success leaves in the registry comes
from the accepted table (`Options.Detects.exists_accepts`).
-/
import VolumeScan.Proofs.Scan.Table
import VolumeScan.Proofs.Scan.Transaction

namespace VolumeScan

namespace Options

/-- What registering the partitions of a table says and does: the table is accepted, and as many of
its partitions as there is room for are appended. -/
def Enlists (options : Options) (mbr : Mbr) (parent : Volume) (before : Registry)
    (enlisted : Enlisted) (after : Registry) : Prop :=
  ∃ partitions, options.Accepts mbr parent enlisted.scheme enlisted.header partitions
    ∧ after = before.extend (partitions.map (·.volume))
    ∧ enlisted.truncated = decide (before.room < partitions.length)

/-- What a detection that succeeds says and does: the volume at `index` is a whole device that was
not scanned before, its table is accepted, as many partitions as there is room for are appended, and
the device is classified. -/
def Detects (options : Options) (mbr : Mbr) (index : Nat) (before : Registry)
    (detection : Detection) (after : Registry) : Prop :=
  ∃ volume scheme partitions, before.volumes[index]? = some volume
    ∧ volume.partition = none ∧ volume.kind = .unknown
    ∧ options.Accepts mbr volume scheme detection.header partitions
    ∧ after = { before with
        volumes := before.volumes.set index { volume with kind := scheme.container }
          ++ (partitions.map (·.volume)).take before.room }
    ∧ detection.first = before.size
    ∧ detection.added = ((partitions.map (·.volume)).take before.room).length
    ∧ detection.kind = scheme.container
    ∧ detection.truncated = decide (before.room < partitions.length)

namespace Detects

variable {options : Options} {mbr : Mbr} {index : Nat} {before after : Registry}
  {detection : Detection}

/-- A detection takes no volume away, and changes nothing but kinds. -/
theorem keeps (h : options.Detects mbr index before detection after) : before.Keeps after := by
  obtain ⟨_, scheme, _, hat, -, -, -, rfl, -⟩ := h
  exact Registry.keeps_set_append hat scheme.container _

/-- Behind the volumes that were there, a detection leaves partitions of the accepted table of its
device, which is classified by that table. -/
theorem exists_accepts (h : options.Detects mbr index before detection after) :
    ∃ device scheme partitions, before.volumes[index]? = some device
      ∧ device.partition = none ∧ device.kind = .unknown
      ∧ options.Accepts mbr device scheme detection.header partitions
      ∧ after.volumes[index]? = some { device with kind := scheme.container }
      ∧ ∀ i volume, before.size ≤ i → after.volumes[i]? = some volume →
        volume ∈ partitions.map (·.volume) := by
  obtain ⟨device, scheme, partitions, hat, hwhole, hunknown, haccepts, rfl, -⟩ := h
  have hindex : index < before.volumes.length := (List.getElem?_eq_some_iff.mp hat).1
  refine ⟨device, scheme, partitions, hat, hwhole, hunknown, haccepts, ?_, ?_⟩
  · dsimp only
    rw [List.getElem?_append_left (by rwa [List.length_set])]
    exact List.getElem?_set_self hindex
  · intro i volume hnew hi
    dsimp only at hi
    rw [List.getElem?_append_right (by rwa [List.length_set])] at hi
    exact List.mem_of_mem_take (List.mem_of_getElem? hi)

end Detects

end Options

namespace Scanner

open VolumeScan.Action

variable {σ α : Type} {scanner : Scanner σ} {registry : Registry} {parent : Volume}

/-! ## Reading -/

/-- A header that is handed on was validated in its sector. -/
theorem withHeader_transacts {body : Gpt.HeaderCopy → Gpt.Header → Action σ α}
    {post : α → Registry → Prop}
    (h : ∀ slot sector header,
      (parent.sectorCount.toNat - 1) * parent.sectorSize.toNat < wordLimit →
      Gpt.Header.validate sector slot parent.sectorSize.toNat parent.sectorCount.toNat
        = .ok header →
      (body slot header).Transacts registry post) :
    (scanner.withHeader parent body).Transacts registry post := by
  unfold withHeader
  refine .bind (.lift fun _ _ => ⟨rfl, .withBuffer fun _ => .withBuffer fun _ => ?_⟩)
  refine .bind (.fill fun primary => ⟨rfl, .bind (.lift fun backupByte hbyte => ⟨rfl, ?_⟩)⟩)
  obtain ⟨hlast, -⟩ := Gpt.byteOf_eq_ok_iff.mp hbyte
  refine .bind (.fill fun backup => ⟨rfl, ?_⟩)
  rw [Gpt.chooseHeader_append primary.property backup.property]
  rcases hchoice : Gpt.chooseHeader primary.val backup.val parent.sectorSize.toNat
    parent.sectorCount.toNat with ⟨chosen, records⟩
  refine .bind (Succeeds.log ⟨rfl, ?_⟩).transacts
  refine .bind (.lift fun ⟨slot, header⟩ hchosen => ⟨rfl, ?_⟩)
  have hheader : (Gpt.chooseHeader primary.val backup.val parent.sectorSize.toNat
      parent.sectorCount.toNat).1 = .ok (slot, header) := by rw [hchoice]; exact hchosen
  rcases Gpt.chooseHeader_eq_ok_iff.mp hheader with ⟨rfl, hvalid⟩ | ⟨rfl, -, hvalid⟩
  · exact h _ _ _ hlast hvalid
  · exact h _ _ _ hlast hvalid

/-- An array that is handed on was admitted by its header. -/
theorem withTable_transacts {header : Gpt.Header} {body : Bytes → Action σ α}
    {post : α → Registry → Prop}
    (h : ∀ array, array.length = header.arrayLen → header.admitArray array = .ok () →
      (body array).Transacts registry post) :
    (scanner.withTable parent header body).Transacts registry post := by
  unfold withTable
  refine .bind (.lift fun _ _ => ⟨rfl, .withBuffer fun _ => ?_⟩)
  refine .bind (.lift fun _ _ => ⟨rfl, .bind (.fill fun _ => ⟨rfl, ?_⟩)⟩)
  refine .bind (.lift fun array harray => ⟨rfl, ?_⟩)
  refine .bind (.lift fun _ hadmitted => ⟨rfl, ?_⟩)
  exact h array (Bytes.length_of_slice harray) hadmitted

/-! ## Registering -/

variable {mbr : Mbr}

/-- Behind the check of the array nothing fails. -/
theorem enlistArray_succeeds {options : Options}
    (hannounced : options.gpt = .revisionOne ∧ mbr.protectiveIndex?.isSome)
    {slot : Gpt.HeaderCopy} {sector array : Bytes} {header : Gpt.Header}
    (hlast : (parent.sectorCount.toNat - 1) * parent.sectorSize.toNat < wordLimit)
    (hheader : Gpt.Header.validate sector slot parent.sectorSize.toNat parent.sectorCount.toNat
      = .ok header)
    (hlength : array.length = header.arrayLen) (hadmitted : header.admitArray array = .ok ()) :
    (do
      Action.log [.gptDisk slot header]
      let used ← header.entries array
      let truncated ← enlistAll .gpt (fun (index, entry) => entry.partition parent index) used
      return ⟨.gpt, some slot, truncated⟩ : Action σ Enlisted).Succeeds registry
        (options.Enlists mbr parent registry) := by
  have hvalid := Gpt.Header.validate_valid hheader
  obtain ⟨-, hadmits⟩ :=
    (Gpt.Header.admitArray_eq_ok_iff hlength hvalid.entrySize_ge).mp hadmitted
  have haccepts : options.Accepts mbr parent .gpt (some slot) (header.partitions array parent) :=
    .gpt hannounced.1 hannounced.2 hlast hheader hlength hadmitted
  refine .bind (.log (.bind (.lift (Gpt.Header.entries_eq hlength hvalid.entrySize_ge) ?_)))
  refine .bind (enlistAll_succeeds (Gpt.Header.map_partition hvalid hlast hadmits) ?_)
  exact .pure ⟨_, haccepts, rfl, rfl⟩

theorem enlistGpt_transacts
    (hannounced : scanner.options.gpt = .revisionOne ∧ mbr.protectiveIndex?.isSome) :
    (scanner.enlistGpt parent).Transacts registry
      (scanner.options.Enlists mbr parent registry) := by
  refine withHeader_transacts fun slot sector header hlast hheader => ?_
  refine withTable_transacts fun array hlength hadmitted => Succeeds.transacts ?_
  exact enlistArray_succeeds hannounced hlast hheader hlength hadmitted

/-- Behind the check of the legacy table nothing fails. -/
theorem enlistMbr_transacts
    (hunannounced : ¬(scanner.options.gpt = .revisionOne ∧ mbr.protectiveIndex?.isSome)) :
    (scanner.enlistMbr mbr parent).Transacts registry
      (scanner.options.Enlists mbr parent registry) := by
  unfold enlistMbr
  by_cases hpolicy : scanner.options.mbr = .never
  · rw [if_pos hpolicy]
    exact .lift fun _ h => nomatch h
  · rw [if_neg hpolicy]
    refine .bind (.lift fun _ hvalid => ⟨rfl, Succeeds.transacts ?_⟩)
    refine .bind (enlistAll_succeeds (Mbr.map_partition hvalid) ?_)
    exact .pure ⟨_, .mbr hunannounced hpolicy hvalid, rfl, rfl⟩

/-- **Registering the partitions of a table is a transaction.** -/
theorem enlist_transacts (scanner : Scanner σ) (mbr : Mbr) (parent : Volume)
    (registry : Registry) :
    (scanner.enlist mbr parent).Transacts registry
      (scanner.options.Enlists mbr parent registry) := by
  unfold enlist
  by_cases hannounced : scanner.options.gpt = .revisionOne ∧ mbr.protectiveIndex?.isSome
  · rw [if_pos hannounced]
    exact enlistGpt_transacts hannounced
  · rw [if_neg hannounced]
    exact enlistMbr_transacts hannounced

/-! ## Classifying -/

/-- The difference of the sizes counts the volumes that were appended. -/
theorem exactSub_grown (registry : Registry) (index : Nat) (volume : Volume)
    (added : List Volume) :
    exactSub
        ({ registry with volumes := registry.volumes.set index volume ++ added } : Registry).size
        registry.size
      = .ok added.length := by
  rw [exactSub_of_le (by simp [Registry.size])]
  simp [Registry.size]

/-- Behind the registering of partitions nothing fails. -/
theorem classified_succeeds {options : Options} {index : Nat} {volume : Volume}
    (hat : registry.volumes[index]? = some volume) (hwhole : volume.partition = none)
    (hunknown : volume.kind = .unknown) {enlisted : Enlisted} {middle : Registry}
    (h : options.Enlists mbr volume registry enlisted middle) :
    (do
      Action.classify index enlisted.scheme.container
      let after ← Action.current
      let added ← exactSub after.size registry.size
      return {
        first := registry.size
        added := added
        kind := enlisted.scheme.container
        header := enlisted.header
        truncated := enlisted.truncated } : Action σ Detection).Succeeds middle
          (options.Detects mbr index registry) := by
  obtain ⟨partitions, haccepts, rfl, htruncated⟩ := h
  have hclassify := Registry.classify_extend hat hwhole hunknown enlisted.scheme.container
    (partitions.map (·.volume))
  refine .bind (.classify hclassify (.bind (.current ?_)))
  refine .bind (.lift (exactSub_grown registry index _ _) (.pure ?_))
  exact ⟨volume, enlisted.scheme, partitions, hat, hwhole, hunknown, haccepts, rfl, rfl, rfl, rfl,
    htruncated⟩

/-- **A detection is a transaction**: whatever the environment does, it succeeds as `Detects` says,
or it fails and leaves the registry as it was. -/
theorem detect_transacts (scanner : Scanner σ) (mbr : Mbr) (index : Nat) (registry : Registry) :
    (scanner.detect mbr index).Transacts registry (scanner.options.Detects mbr index registry) := by
  unfold detect
  refine .bind (Succeeds.current ⟨rfl, ?_⟩).transacts
  refine .bind (.lift fun volume hvolume => ⟨rfl, ?_⟩)
  refine .bind (.lift fun _ hunscanned => ⟨rfl, ?_⟩)
  obtain ⟨hwhole, hunknown⟩ := require_eq_ok_iff.mp hunscanned
  have hat := Registry.volume_eq_ok_iff.mp hvolume
  exact (enlist_transacts _ _ _ _).bind_succeeds fun _ _ henlists =>
    classified_succeeds hat hwhole hunknown henlists

/-! ## Logging -/

/-- What is logged about a detection. -/
def unusedTable (index : Nat) : Except Error Detection → List Record
  | .ok _ => []
  | .error error => [.tableUnused index error]

/-- Logging what went wrong is all that `detectOrLog` adds. -/
theorem detectOrLog_eq (scanner : Scanner σ) (mbr : Mbr) (index : Nat) (registry : Registry)
    (state : σ) :
    scanner.detectOrLog mbr index registry state =
      let pass := (scanner.detect mbr index).run registry state
      ⟨registry.size, pass.registry, pass.state,
        pass.events ++ (unusedTable index pass.result).map .log⟩ := by
  dsimp only [detectOrLog]
  cases ((scanner.detect mbr index).run registry state).result with
  | ok _ => simp only [unusedTable, List.map_nil, List.append_nil]
  | error _ => rfl

end Scanner

end VolumeScan

/-
VolumeScan.Proofs.Scan.MbrDetection — what the detection of a legacy table comes to.

A table that announces no GPT, or is not asked for one, is used itself. Everything it says is in the
table already, so neither the reader nor the allocator takes part (`Scanner.detect_detached`): the
detection succeeds exactly if legacy tables are wanted and this one is valid, and its result and the
registry behind it are the same in every environment (`Scanner.yields_detect_mbr_iff`).

`Mbr.Entry.Spans` and `Mbr.Entry.Describes` say in exact numbers which sectors an entry stands for,
and which partition it becomes. `Scanner.detect_mbr_iff` puts the two together: what is checked of
an entry and what is registered for it are about the same sectors.
-/
import VolumeScan.Proofs.Scan.GptDetection

namespace VolumeScan

/-! ## Steps that ask for nothing -/

namespace Action

variable {σ α β : Type}

/-- The action asks the environment for nothing: the state stays as it was, and of what happens only
the log sees anything. -/
def Detached (action : Action σ α) : Prop :=
  ∀ registry state, (action.run registry state).state = state
    ∧ ∀ event ∈ (action.run registry state).events, ∃ record, event = .log record

namespace Detached

theorem lift (x : Except Error α) : (liftM x : Action σ α).Detached :=
  fun _ _ => ⟨rfl, fun _ hmem => absurd hmem List.not_mem_nil⟩

theorem current : (Action.current : Action σ Registry).Detached :=
  fun _ _ => ⟨rfl, fun _ hmem => absurd hmem List.not_mem_nil⟩

theorem log (records : List Record) : (Action.log records : Action σ Unit).Detached := by
  intro registry state
  refine ⟨rfl, fun event hmem => ?_⟩
  obtain ⟨record, -, rfl⟩ := List.mem_map.mp hmem
  exact ⟨record, rfl⟩

theorem append (volume : Volume) : (Action.append volume : Action σ Bool).Detached := by
  intro registry state
  cases happend : registry.append volume with
  | some grown =>
    rw [run_append_of_some happend]
    exact ⟨rfl, fun _ hmem => absurd hmem List.not_mem_nil⟩
  | none =>
    rw [run_append_of_none happend]
    exact ⟨rfl, fun _ hmem => absurd hmem List.not_mem_nil⟩

theorem classify (index : Nat) (kind : VolumeKind) :
    (Action.classify index kind : Action σ Unit).Detached := by
  intro registry state
  cases hclassify : registry.classify index kind with
  | ok classified =>
    rw [run_classify_of_ok hclassify]
    exact ⟨rfl, fun _ hmem => absurd hmem List.not_mem_nil⟩
  | error error =>
    rw [run_classify_of_error hclassify]
    exact ⟨rfl, fun _ hmem => absurd hmem List.not_mem_nil⟩

theorem bind {action : Action σ α} {next : α → Action σ β} (h : action.Detached)
    (hnext : ∀ a, (next a).Detached) : (action >>= next).Detached := by
  intro registry state
  obtain ⟨hstate, hevents⟩ := h registry state
  cases hresult : (action.run registry state).result with
  | error error =>
    rw [run_bind_of_error hresult]
    exact ⟨hstate, hevents⟩
  | ok a =>
    obtain ⟨hstate', hevents'⟩ :=
      hnext a (action.run registry state).registry (action.run registry state).state
    rw [run_bind_of_ok hresult]
    refine ⟨hstate'.trans hstate, fun event hmem => ?_⟩
    rcases List.mem_append.mp hmem with hfirst | hthen
    · exact hevents event hfirst
    · exact hevents' event hthen

end Detached

end Action

namespace Scanner

open VolumeScan.Action

variable {σ α : Type} {scanner : Scanner σ} {mbr : Mbr} {registry after : Registry} {state : σ}

/-- Registering partitions is between the registry and the log. -/
theorem enlistAll_detached (scheme : Scheme) (describe : α → Except Error Partition)
    (items : List α) : (enlistAll scheme describe items : Action σ Bool).Detached := by
  induction items with
  | nil => exact .lift (.ok false)
  | cons item items ih =>
    unfold enlistAll
    refine .bind (.lift _) fun partition => .bind (.append _) fun appended => ?_
    cases appended with
    | true => exact .bind (.log _) fun _ => ih
    | false => exact .bind .current fun _ => .bind (.log _) fun _ => .lift (.ok true)

/-- The partitions of a legacy table are registered without asking the environment. -/
theorem enlistMbr_detached (scanner : Scanner σ) (mbr : Mbr) (parent : Volume) :
    (scanner.enlistMbr mbr parent).Detached := by
  unfold enlistMbr
  by_cases hpolicy : scanner.options.mbr = .never
  · rw [if_pos hpolicy]
    exact .lift _
  · rw [if_neg hpolicy]
    exact .bind (.lift _) fun _ => .bind (enlistAll_detached _ _ _) fun _ => .lift (.ok _)

/-- **A table that is used itself is detected without asking the environment for anything.** -/
theorem detect_detached (index : Nat)
    (hunannounced : ¬(scanner.options.gpt = .revisionOne ∧ mbr.protectiveIndex?.isSome)) :
    (scanner.detect mbr index).Detached := by
  unfold detect
  refine .bind .current fun _ => .bind (.lift _) fun volume => .bind (.lift _) fun _ => ?_
  rw [enlist, if_neg hunannounced]
  refine .bind (enlistMbr_detached scanner mbr volume) fun _ => .bind (.classify _ _) fun _ => ?_
  exact .bind .current fun _ => .bind (.lift _) fun _ => .lift (.ok _)

/-! ## What a detection comes to -/

/-- Registering the partitions of a legacy table comes down to its check. -/
theorem yields_enlistMbr_iff {parent : Volume} {enlisted : Enlisted} :
    (scanner.enlistMbr mbr parent).Yields registry state enlisted after ↔
      scanner.options.mbr ≠ .never ∧ mbr.validate parent = .ok ()
        ∧ enlisted = ⟨.mbr, none, decide (registry.room < (mbr.partitions parent).length)⟩
        ∧ after = registry.extend ((mbr.partitions parent).map (·.volume)) := by
  unfold enlistMbr
  by_cases hpolicy : scanner.options.mbr = .never
  · simp [hpolicy, Yields, Action.ofExcept]
  · rw [if_neg hpolicy, yields_lift_bind_iff]
    constructor
    · intro h
      obtain ⟨_, hvalid, h⟩ := h
      rw [yields_enlistAll_bind_iff (Mbr.map_partition hvalid), yields_pure_iff] at h
      exact ⟨hpolicy, hvalid, h.1.symm, h.2.symm⟩
    · intro h
      obtain ⟨-, hvalid, henlisted, hafter⟩ := h
      refine ⟨(), hvalid, ?_⟩
      rw [yields_enlistAll_bind_iff (Mbr.map_partition hvalid), yields_pure_iff]
      exact ⟨henlisted.symm, hafter.symm⟩

/-- A detection on a device whose table is used itself yields what follows from the table. -/
theorem yields_detect_mbr_iff {index : Nat} {volume : Volume}
    (hat : registry.volumes[index]? = some volume) (hwhole : volume.partition = none)
    (hunknown : volume.kind = .unknown)
    (hunannounced : ¬(scanner.options.gpt = .revisionOne ∧ mbr.protectiveIndex?.isSome))
    {detection : Detection} :
    (scanner.detect mbr index).Yields registry state detection after ↔
      scanner.options.mbr ≠ .never ∧ mbr.validate volume = .ok ()
        ∧ detection = {
            first := registry.size
            added := (((mbr.partitions volume).map (·.volume)).take registry.room).length
            kind := .mbrContainer
            header := none
            truncated := decide (registry.room < (mbr.partitions volume).length) }
        ∧ after = { registry with
            volumes := registry.volumes.set index { volume with kind := .mbrContainer }
              ++ ((mbr.partitions volume).map (·.volume)).take registry.room } := by
  rw [yields_detect_iff hat hwhole hunknown, enlist, if_neg hunannounced]
  simp only [yields_enlistMbr_iff]
  constructor
  · intro h
    obtain ⟨_, _, ⟨hpolicy, hvalid, rfl, rfl⟩, h⟩ := h
    exact ⟨hpolicy, hvalid, (classified_extend_iff hat hwhole hunknown).mp h⟩
  · intro h
    obtain ⟨hpolicy, hvalid, h⟩ := h
    exact ⟨_, _, ⟨hpolicy, hvalid, rfl, rfl⟩,
      (classified_extend_iff hat hwhole hunknown).mpr h⟩

/-- Such a detection succeeds exactly if legacy tables are wanted and this one is valid. -/
theorem exists_detect_mbr_ok_iff {index : Nat} {volume : Volume}
    (hat : registry.volumes[index]? = some volume) (hwhole : volume.partition = none)
    (hunknown : volume.kind = .unknown)
    (hunannounced : ¬(scanner.options.gpt = .revisionOne ∧ mbr.protectiveIndex?.isSome)) :
    (∃ detection, ((scanner.detect mbr index).run registry state).result = .ok detection) ↔
      scanner.options.mbr = .modern ∧ mbr.validate volume = .ok () := by
  have hyields : ∀ {detection after},
      (scanner.detect mbr index).Yields registry state detection after ↔ _ :=
    yields_detect_mbr_iff hat hwhole hunknown hunannounced
  have hpolicy : scanner.options.mbr ≠ .never ↔ scanner.options.mbr = .modern := by
    cases scanner.options.mbr <;> simp
  rw [← hpolicy]
  constructor
  · intro h
    obtain ⟨detection, hok⟩ := h
    obtain ⟨hwanted, hvalid, -⟩ := hyields.mp ⟨hok, rfl⟩
    exact ⟨hwanted, hvalid⟩
  · intro h
    exact ⟨_, (hyields.mpr ⟨h.1, h.2, rfl, rfl⟩).1⟩

end Scanner

/-! ## The partitions, in exact numbers -/

namespace Mbr

/-- The entry stands for the sectors from `first` on and before `stop`: as many as it counts from
its linear address on; or, if it counts none, those between its addresses by cylinder, head and
sector, both of them included. -/
inductive Entry.Spans (entry : Entry) : (first stop : Nat) → Prop where
  | linear (counted : entry.sectors ≠ 0) :
      entry.Spans entry.firstLba.toNat (entry.firstLba.toNat + entry.sectors.toNat)
  | chs (uncounted : entry.sectors = 0) : entry.Spans entry.firstChs.lba (entry.lastChs.lba + 1)

/-- The volume is the partition that this entry at this place of the table describes: it has the
sectors that the entry stands for, and what belongs to the device is the parent's. -/
structure Entry.Describes (entry : Entry) (index : Nat) (parent partition : Volume) : Prop where
  number_eq : partition.partition.map UInt32.toNat = some index
  sectors_eq : ∃ first stop, entry.Spans first stop
    ∧ partition.firstByte.toNat = parent.firstByte.toNat + first * parent.sectorSize.toNat
    ∧ partition.sectorCount.toNat = stop - first
  kind_eq : partition.kind = VolumeKind.ofTypeCode entry.typeCode
  device_eq : partition = { parent with
    partition := partition.partition
    firstByte := partition.firstByte
    sectorCount := partition.sectorCount
    kind := partition.kind }

/-- An entry stands for one range of sectors. -/
theorem Entry.spans_iff {entry : Entry} {first stop : Nat} :
    entry.Spans first stop ↔ entry.sectorExtent = ⟨first, stop⟩ := by
  unfold sectorExtent
  constructor
  · intro h
    cases h with
    | linear hcounted => rw [if_neg hcounted]
    | chs huncounted => rw [if_pos huncounted]
  · intro h
    split at h
    case isTrue huncounted =>
      cases h
      exact .chs huncounted
    case isFalse hcounted =>
      cases h
      exact .linear hcounted

theorem Entry.isEmpty_eq_false_iff {entry : Entry} :
    entry.isEmpty = false ↔ entry.typeCode ≠ 0x00 := decide_eq_false_iff_not

theorem Entry.isProtective_eq_false_iff {entry : Entry} :
    entry.isProtective = false ↔ entry.typeCode ≠ 0xEE := decide_eq_false_iff_not

theorem mem_usedEntries_iff {mbr : Mbr} {entry : Entry} :
    entry ∈ mbr.usedEntries ↔ entry ∈ mbr.entries.toList ∧ entry.typeCode ≠ 0x00 := by
  rw [usedEntries, List.mem_filter, Bool.not_eq_true', Entry.isEmpty_eq_false_iff]

theorem usedEntries_ne_nil_iff {mbr : Mbr} :
    mbr.usedEntries ≠ [] ↔ ∃ entry ∈ mbr.entries.toList, entry.typeCode ≠ 0x00 := by
  constructor
  · intro h
    obtain ⟨entry, hmem⟩ := List.exists_mem_of_ne_nil _ h
    exact ⟨entry, mem_usedEntries_iff.mp hmem⟩
  · intro h
    obtain ⟨entry, hmem⟩ := h
    exact List.ne_nil_of_mem (mem_usedEntries_iff.mpr hmem)

/-- An entry fits if the sectors it stands for do. -/
theorem Entry.fits_iff {entry : Entry} {volume : Volume} :
    entry.Fits volume ↔
      (entry.status = 0x00 ∨ entry.status = 0x80)
        ∧ ∃ first stop, entry.Spans first stop
          ∧ first * volume.sectorSize.toNat < 2 ^ 64 ∧ stop * volume.sectorSize.toNat < 2 ^ 64
          ∧ 0 < first * volume.sectorSize.toNat ∧ first < stop
          ∧ (stop * volume.sectorSize.toNat ≤ volume.byteLen ∨ entry.typeCode = 0xEE) := by
  constructor
  · intro h
    exact ⟨h.status, _, _, spans_iff.mpr rfl, h.start_addressable, h.stop_addressable, h.start_pos,
      h.start_lt_stop, h.stop_le.imp_right of_decide_eq_true⟩
  · intro h
    obtain ⟨hstatus, first, stop, hspans, hfirst, hstop, hpos, hlt, hle⟩ := h
    have hextent := spans_iff.mp hspans
    constructor
    case status => exact hstatus
    all_goals rw [hextent]
    case start_addressable => exact hfirst
    case stop_addressable => exact hstop
    case start_pos => exact hpos
    case stop_le => exact hle.imp_right decide_eq_true
    case start_lt_stop => exact hlt

/-- A table on a whole device is valid exactly if it has the signature and entries in use, and the
sectors of all of these are where they may be. -/
theorem validate_eq_ok_iff_spans {mbr : Mbr} {volume : Volume} (hwhole : volume.partition = none) :
    mbr.validate volume = .ok () ↔
      mbr.signature = 0xAA55 ∧ (∃ entry ∈ mbr.entries.toList, entry.typeCode ≠ 0x00)
        ∧ ∀ entry ∈ mbr.entries.toList, entry.typeCode ≠ 0x00 →
          (entry.status = 0x00 ∨ entry.status = 0x80)
            ∧ ∃ first stop, entry.Spans first stop
              ∧ first * volume.sectorSize.toNat < 2 ^ 64 ∧ stop * volume.sectorSize.toNat < 2 ^ 64
              ∧ 0 < first * volume.sectorSize.toNat ∧ first < stop
              ∧ (stop * volume.sectorSize.toNat ≤ volume.byteLen ∨ entry.typeCode = 0xEE) := by
  rw [validate_eq_ok_iff, usedEntries_ne_nil_iff]
  simp only [mem_usedEntries_iff, Entry.fits_iff, and_imp, hwhole, true_and]
  exact and_congr_right fun _ => and_comm

/-- The entries that become partitions, taken from the numbered table. -/
theorem partitionEntries_eq (mbr : Mbr) :
    mbr.partitionEntries
      = (mbr.entries.toList.zipIdx.filter fun item =>
          item.1.typeCode ≠ 0x00 ∧ item.1.typeCode ≠ 0xEE).map Prod.swap := by
  rw [partitionEntries, List.filter_map]
  congr 1
  apply List.filter_congr
  intro item _
  rw [Bool.eq_iff_iff]
  simp [Entry.isEmpty_eq_false_iff, Entry.isProtective_eq_false_iff]

/-- The partitions of a valid table are those that its plain entries describe, in order. -/
theorem forall₂_partitions {mbr : Mbr} {parent : Volume} (hvalid : mbr.validate parent = .ok ())
    (hend : parent.firstByte.toNat + parent.byteLen < wordLimit) :
    List.Forall₂ (fun item partition => Entry.Describes item.1 item.2 parent partition)
      (mbr.entries.toList.zipIdx.filter fun item =>
        item.1.typeCode ≠ 0x00 ∧ item.1.typeCode ≠ 0xEE)
      ((mbr.partitions parent).map (·.volume)) := by
  have hplain := mbr.partitionEntries_eq
  rw [partitions, hplain, List.map_map, List.map_map, List.forall₂_map_right_iff, List.forall₂_same]
  intro item hmem
  obtain ⟨entry, index⟩ := item
  have hlisted : (index, entry) ∈ mbr.partitionEntries := by
    rw [hplain]
    exact List.mem_map_of_mem hmem
  have hfits := fits_of_mem_partitionEntries hvalid hlisted
  obtain ⟨-, -, hunprotective⟩ := mem_partitionEntries_iff.mp hlisted
  have hinside := Entry.part_end_le hfits hunprotective
  exact {
    number_eq := Volume.map_toNat_partition_part index _
      (Nat.lt_trans (index_lt_of_mem_partitionEntries hlisted) (by decide))
    sectors_eq := ⟨_, _, Entry.spans_iff.mpr rfl,
      Volume.toNat_firstByte_part index _ hend hinside,
      Volume.toNat_sectorCount_part index _ hfits.sectorSize_pos hinside⟩
    kind_eq := rfl
    device_eq := rfl }

end Mbr

namespace Scanner

variable {σ : Type}

/-- **What the detection of a legacy table comes to.** Take a device that was not scanned before and
ends at a 64-bit address, and a legacy table that announces no GPT or is not asked for one. Nothing
is read and no memory is asked for. The detection succeeds exactly if legacy tables are wanted, the
table has the boot signature and an entry in use, and every entry in use has a status byte that is
allowed and stands for sectors that have 64-bit addresses, lie behind the table, and end inside the
device unless the entry protects a GPT. Then as many of the partitions that the other entries in use
describe as there is room for are appended in the order of the table, and the device is
classified. -/
theorem detect_mbr_iff (scanner : Scanner σ) (mbr : Mbr) (index : Nat) (registry : Registry)
    (state : σ) {volume : Volume} (hat : registry.volumes[index]? = some volume)
    (hwhole : volume.partition = none) (hunknown : volume.kind = .unknown)
    (hend : volume.firstByte.toNat + volume.byteLen ≤ 2 ^ 64 - 1)
    (hitself : scanner.options.gpt = .never
      ∨ ∀ entry ∈ mbr.entries.toList, entry.typeCode ≠ 0xEE) :
    let pass := (scanner.detect mbr index).run registry state
    let room := registry.capacity - registry.size
    let size := volume.sectorSize.toNat
    (pass.state = state ∧ ∀ event ∈ pass.events, ∃ record, event = .log record)
      ∧ ((∃ detection, pass.result = .ok detection) ↔
        scanner.options.mbr = .modern ∧ mbr.signature = 0xAA55
          ∧ (∃ entry ∈ mbr.entries.toList, entry.typeCode ≠ 0x00)
          ∧ ∀ entry ∈ mbr.entries.toList, entry.typeCode ≠ 0x00 →
            (entry.status = 0x00 ∨ entry.status = 0x80)
              ∧ ∃ first stop, entry.Spans first stop
                ∧ first * size < 2 ^ 64 ∧ stop * size < 2 ^ 64 ∧ 0 < first * size ∧ first < stop
                ∧ (stop * size ≤ volume.byteLen ∨ entry.typeCode = 0xEE))
      ∧ ∀ detection, pass.result = .ok detection →
        ∃ partitions, List.Forall₂
            (fun item partition => Mbr.Entry.Describes item.1 item.2 volume partition)
            (mbr.entries.toList.zipIdx.filter fun item =>
              item.1.typeCode ≠ 0x00 ∧ item.1.typeCode ≠ 0xEE) partitions
          ∧ pass.registry = { registry with
              volumes := registry.volumes.set index { volume with kind := .mbrContainer }
                ++ partitions.take room }
          ∧ detection = {
              first := registry.size
              added := min room partitions.length
              kind := .mbrContainer
              header := none
              truncated := decide (room < partitions.length) } := by
  intro pass room size
  have hunannounced : ¬(scanner.options.gpt = .revisionOne ∧ mbr.protectiveIndex?.isSome) := by
    rintro ⟨hpolicy, hannounced⟩
    rcases hitself with hnever | hplain
    · rw [hpolicy] at hnever
      cases hnever
    · obtain ⟨entry, hmem, hcode⟩ := Mbr.isSome_protectiveIndex?_iff.mp hannounced
      exact hplain entry hmem hcode
  refine ⟨detect_detached index hunannounced registry state, ?_, fun detection hok => ?_⟩
  · rw [exists_detect_mbr_ok_iff hat hwhole hunknown hunannounced,
      Mbr.validate_eq_ok_iff_spans hwhole]
  · obtain ⟨-, hvalid, hdetection, hafter⟩ :=
      (yields_detect_mbr_iff hat hwhole hunknown hunannounced).mp ⟨hok, rfl⟩
    rw [List.length_take, List.length_map] at hdetection
    refine ⟨(mbr.partitions volume).map Partition.volume, ?_, hafter, ?_⟩
    · exact Mbr.forall₂_partitions hvalid (by unfold wordLimit; omega)
    · rw [List.length_map]
      exact hdetection

/-! ## A table with every kind of entry -/

/-- A disk of a thousand sectors of 512 bytes. -/
def oldDisk : Volume where
  method := .memory
  deviceId := 0
  partition := none
  alignment := 1
  sectorSize := 512
  mediaId := 0
  sectorCount := 1000
  firstByte := 0
  kind := .unknown

/-- An entry with linear fields, one that protects a GPT and reaches far behind the disk, one that
has addresses by cylinder, head and sector only, and one that is not in use. -/
def oldTable : Mbr where
  entries := #v[⟨0x80, ⟨0, 0, 0⟩, 0x83, ⟨0, 0, 0⟩, 63, 100⟩,
    ⟨0x00, ⟨0, 0, 0⟩, 0xEE, ⟨0, 0, 0⟩, 1, 0xFFFFFFFF⟩,
    ⟨0x00, ⟨0, 4, 1⟩, 0x06, ⟨0, 7, 63⟩, 0, 0⟩,
    ⟨0x00, ⟨0, 0, 0⟩, 0x00, ⟨0, 0, 0⟩, 0, 0⟩]
  signature := 0xAA55

/-- Without GPTs the table is read as it stands. There is room for the first of its two
partitions. -/
theorem detect_oldDisk :
    let registry : Registry := ⟨2, [oldDisk]⟩
    let scanner : Scanner Pool := ⟨tinyEnvironment, { gpt := .never }⟩
    let pass := (scanner.detect oldTable 0).run registry tinyPool
    oldDisk.firstByte.toNat + oldDisk.byteLen ≤ 2 ^ 64 - 1
      ∧ pass.result = .ok ⟨1, 1, .mbrContainer, none, true⟩
      ∧ ∃ partition, oldTable.entries[0].Describes 0 oldDisk partition
        ∧ pass.registry.volumes = [{ oldDisk with kind := .mbrContainer }, partition] := by
  intro registry scanner pass
  have hend : oldDisk.firstByte.toNat + oldDisk.byteLen ≤ 2 ^ 64 - 1 := by decide
  have hat : registry.volumes[0]? = some oldDisk := rfl
  obtain ⟨-, hsucceeds, hresult⟩ := detect_mbr_iff scanner oldTable 0 registry tinyPool hat rfl rfl
    hend (.inl rfl)
  have hfits : ∀ entry ∈ oldTable.entries.toList, entry.typeCode ≠ 0x00 →
      (entry.status = 0x00 ∨ entry.status = 0x80)
        ∧ ∃ first stop, entry.Spans first stop
          ∧ first * 512 < 2 ^ 64 ∧ stop * 512 < 2 ^ 64 ∧ 0 < first * 512 ∧ first < stop
          ∧ (stop * 512 ≤ oldDisk.byteLen ∨ entry.typeCode = 0xEE) := by
    intro entry hmem hused
    rw [show oldTable.entries.toList = [_, _, _, _] from rfl] at hmem
    simp only [List.mem_cons, List.not_mem_nil, or_false] at hmem
    rcases hmem with rfl | rfl | rfl | rfl
    · exact ⟨.inr rfl, _, _, .linear (by decide), by decide⟩
    · exact ⟨.inl rfl, _, _, .linear (by decide), by decide⟩
    · exact ⟨.inl rfl, _, _, .chs rfl, by decide⟩
    · exact absurd rfl hused
  obtain ⟨detection, hok⟩ := hsucceeds.mpr ⟨rfl, rfl, by decide, hfits⟩
  obtain ⟨partitions, hpartitions, hafter, rfl⟩ := hresult detection hok
  -- Two partitions, of the entries at the first and at the third place.
  cases hpartitions with
  | cons hfirst hrest =>
    cases hrest with
    | cons _ hnone =>
      cases hnone
      exact ⟨hend, hok, _, hfirst, congrArg Registry.volumes hafter⟩

end Scanner

end VolumeScan

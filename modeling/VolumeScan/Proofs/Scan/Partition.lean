/-
VolumeScan.Proofs.Scan.Partition — the volumes of partitions, in exact numbers.

`Volume.part` is the partition with so many sectors from a sector of its parent on. A checked entry
gives such a part and nothing faults on the way (`Gpt.Entry.partition_eq`,
`Mbr.Entry.partition_eq`). A part that ends inside its parent lies `Within` it
(`Volume.part_within`): its numbers are the exact ones, although they are computed in 64-bit words.
-/
import VolumeScan.Proofs.Gpt.Header
import VolumeScan.Proofs.Mbr

namespace VolumeScan

namespace Volume

/-- The partition of `parent` with `count` sectors from its sector `first` on. -/
def part (parent : Volume) (index first count : Nat) (kind : VolumeKind) : Volume :=
  parent.partitionAt (UInt32.ofNat index) (UInt64.ofNat (first * parent.sectorSize.toNat))
    (UInt64.ofNat count) kind

/-- A volume with addressable bytes has its exact length. -/
theorem byteLen_eq_exactLen {volume : Volume} (h : volume.exactLen < wordLimit) :
    volume.byteLen = volume.exactLen := Nat.min_eq_left (Nat.le_pred_of_lt h)

/-- All sectors but the last lie inside the 64-bit length, if the last one starts at a 64-bit
address; the length itself may be cut off. -/
theorem pred_sectors_le_byteLen {volume : Volume}
    (h : (volume.sectorCount.toNat - 1) * volume.sectorSize.toNat < wordLimit) :
    (volume.sectorCount.toNat - 1) * volume.sectorSize.toNat ≤ volume.byteLen := by
  have hexact : (volume.sectorCount.toNat - 1) * volume.sectorSize.toNat ≤ volume.exactLen :=
    Nat.mul_le_mul_right _ (Nat.sub_le _ _)
  exact Nat.le_min.mpr ⟨hexact, Nat.le_pred_of_lt h⟩

/-- `partition` is a partition inside `container`, in exact arithmetic: it has sectors, it starts a
whole number of sectors into the container, and it ends at or before its end. -/
structure Within (partition container : Volume) : Prop where
  isPartition : partition.isPartition = true
  sectorSize_eq : partition.sectorSize = container.sectorSize
  sectorCount_pos : 1 ≤ partition.sectorCount.toNat
  firstByte_le : container.firstByte.toNat ≤ partition.firstByte.toNat
  offset_dvd : container.sectorSize.toNat ∣
    partition.firstByte.toNat - container.firstByte.toNat
  end_le : partition.firstByte.toNat - container.firstByte.toNat
    + partition.sectorCount.toNat * partition.sectorSize.toNat ≤ container.byteLen

/-- What is known about the contents of the two makes no difference. -/
theorem Within.with_kind {partition container : Volume} (h : partition.Within container)
    (kind kind' : VolumeKind) :
    ({ partition with kind := kind } : Volume).Within { container with kind := kind' } :=
  ⟨h.isPartition, h.sectorSize_eq, h.sectorCount_pos, h.firstByte_le, h.offset_dvd, h.end_le⟩

/-- The length of a partition inside a container is never cut off. -/
theorem Within.byteLen_eq {partition container : Volume} (h : partition.Within container) :
    partition.byteLen = partition.exactLen := by
  have hend := h.end_le
  have hlen := container.byteLen_lt
  apply byteLen_eq_exactLen
  unfold exactLen
  omega

section

variable {parent : Volume} (index : Nat) {first count : Nat} (kind : VolumeKind)

/-- A part has the number that it was given, if that is a 32-bit number. -/
theorem map_toNat_partition_part (hindex : index < 2 ^ 32) :
    (parent.part index first count kind).partition.map UInt32.toNat = some index :=
  congrArg some (UInt32.toNat_ofNat'.trans (Nat.mod_eq_of_lt hindex))

/-- A part that ends inside its parent starts at the exact byte. -/
theorem toNat_firstByte_part
    (hparent : parent.firstByte.toNat + parent.byteLen < wordLimit)
    (hend : (first + count) * parent.sectorSize.toNat ≤ parent.byteLen) :
    (parent.part index first count kind).firstByte.toNat
      = parent.firstByte.toNat + first * parent.sectorSize.toNat := by
  have hfirst : first * parent.sectorSize.toNat ≤ (first + count) * parent.sectorSize.toNat :=
    Nat.mul_le_mul_right _ (Nat.le_add_right _ _)
  unfold wordLimit at hparent
  change (parent.firstByte + UInt64.ofNat (first * parent.sectorSize.toNat)).toNat = _
  rw [UInt64.toNat_add, UInt64.toNat_ofNat', Nat.mod_eq_of_lt (a := first * _) (by omega)]
  exact Nat.mod_eq_of_lt (by omega)

/-- A part that ends inside its parent has the exact number of sectors. -/
theorem toNat_sectorCount_part (hsize : 0 < parent.sectorSize.toNat)
    (hend : (first + count) * parent.sectorSize.toNat ≤ parent.byteLen) :
    (parent.part index first count kind).sectorCount.toNat = count := by
  have hcount : first + count ≤ (first + count) * parent.sectorSize.toNat :=
    Nat.le_mul_of_pos_right _ hsize
  have hlen := parent.byteLen_lt
  unfold wordLimit at hlen
  change (UInt64.ofNat count).toNat = _
  rw [UInt64.toNat_ofNat']
  exact Nat.mod_eq_of_lt (by omega)

/-- **A part that ends inside its parent lies within it**, in spite of the 64-bit words. -/
theorem part_within (hparent : parent.firstByte.toNat + parent.byteLen < wordLimit)
    (hsize : 0 < parent.sectorSize.toNat) (hcount : 1 ≤ count)
    (hend : (first + count) * parent.sectorSize.toNat ≤ parent.byteLen) :
    (parent.part index first count kind).Within parent := by
  have hfirst := toNat_firstByte_part index kind hparent hend
  have hsectors := toNat_sectorCount_part index kind hsize hend
  refine ⟨rfl, rfl, ?_, ?_, ?_, ?_⟩
  · rw [hsectors]
    exact hcount
  · rw [hfirst]
    exact Nat.le_add_right _ _
  · rw [hfirst, Nat.add_sub_cancel_left]
    exact Nat.dvd_mul_left _ _
  · rw [hfirst, Nat.add_sub_cancel_left, hsectors]
    change first * parent.sectorSize.toNat + count * parent.sectorSize.toNat ≤ parent.byteLen
    rwa [← Nat.add_mul]

end

end Volume

/-! ## Entries that were checked -/

theorem exact32_of_lt {n : Nat} (h : n < 2 ^ 32) : exact32 n = .ok (UInt32.ofNat n) := if_pos h

theorem exact64_of_lt {n : Nat} (h : n < wordLimit) : exact64 n = .ok (UInt64.ofNat n) := if_pos h

theorem exactSub_of_le {a b : Nat} (h : b ≤ a) : exactSub a b = .ok (a - b) := if_pos h

namespace Gpt

/-- The number of sectors of an entry is exact, unless it ends before it starts. -/
theorem Entry.sectors_eq {entry : Entry} (h : entry.lastLba.toNat + 1 < wordLimit) :
    entry.sectors = UInt64.ofNat (entry.lastLba.toNat - entry.firstLba.toNat + 1) := by
  unfold Entry.sectors
  rw [Nat.min_eq_left (by omega)]

/-- An entry that a valid header admits gives a part, and nothing faults. -/
theorem Entry.partition_eq {header : Header} {slot : HeaderCopy} {parent : Volume} {entry : Entry}
    (hvalid : header.Valid slot parent.sectorSize.toNat parent.sectorCount.toNat)
    (hlast : (parent.sectorCount.toNat - 1) * parent.sectorSize.toNat < wordLimit)
    (hadmits : header.Admits entry) {index : Nat} (hindex : index < header.entryCount.toNat) :
    entry.partition parent index = .ok {
      volume := parent.part index entry.firstLba.toNat
        (entry.lastLba.toNat - entry.firstLba.toNat + 1) entry.kind
      record := .gptEntry index entry } := by
  have hordered : entry.firstLba.toNat ≤ entry.lastLba.toNat := hadmits.2.1
  have husable : entry.lastLba.toNat ≤ header.lastUsableLba.toNat := hadmits.2.2
  have hbefore := hvalid.lastUsable_lt
  have htotal : parent.sectorCount.toNat < wordLimit := parent.sectorCount.toNat_lt
  have hindex32 : index < 2 ^ 32 := Nat.lt_trans hindex header.entryCount.toNat_lt
  have hoffset : entry.firstLba.toNat * parent.sectorSize.toNat < wordLimit :=
    Header.mul_lt_wordLimit hlast (by omega)
  unfold Entry.partition
  rw [exact32_of_lt hindex32, exact64_of_lt hoffset, Entry.sectors_eq (by omega)]
  rfl

/-- The part of an entry that a valid header admits ends before the last sector of its parent. -/
theorem Entry.part_end_le {header : Header} {slot : HeaderCopy} {parent : Volume} {entry : Entry}
    (hvalid : header.Valid slot parent.sectorSize.toNat parent.sectorCount.toNat)
    (hlast : (parent.sectorCount.toNat - 1) * parent.sectorSize.toNat < wordLimit)
    (hadmits : header.Admits entry) :
    (entry.firstLba.toNat + (entry.lastLba.toNat - entry.firstLba.toNat + 1))
      * parent.sectorSize.toNat ≤ parent.byteLen := by
  have hordered : entry.firstLba.toNat ≤ entry.lastLba.toNat := hadmits.2.1
  have husable : entry.lastLba.toNat ≤ header.lastUsableLba.toNat := hadmits.2.2
  have hbefore := hvalid.lastUsable_lt
  calc (entry.firstLba.toNat + (entry.lastLba.toNat - entry.firstLba.toNat + 1))
        * parent.sectorSize.toNat
      ≤ (parent.sectorCount.toNat - 1) * parent.sectorSize.toNat :=
        Nat.mul_le_mul_right _ (by omega)
    _ ≤ parent.byteLen := Volume.pred_sectors_le_byteLen hlast

end Gpt

namespace Mbr

/-- An entry that fits gives a part, and nothing faults. -/
theorem Entry.partition_eq {parent : Volume} {entry : Entry} (hfits : entry.Fits parent)
    {index : Nat} (hindex : index < 2 ^ 32) :
    entry.partition parent index = .ok {
      volume := parent.part index entry.sectorExtent.start
        (entry.sectorExtent.stop - entry.sectorExtent.start) (VolumeKind.ofTypeCode entry.typeCode)
      record := .mbrEntry index entry } := by
  have hcount := exactSub_of_le (Nat.le_of_lt hfits.start_lt_stop)
  unfold Entry.partition
  simp only [exact32_of_lt hindex, exact64_of_lt hfits.start_addressable, hcount,
    bind_eq_ok_iff, Except.ok.injEq, exists_eq_left', exact64_of_lt hfits.sectors_lt]
  rfl

/-- The part of an entry that fits and does not protect a GPT ends inside its parent. -/
theorem Entry.part_end_le {parent : Volume} {entry : Entry} (hfits : entry.Fits parent)
    (hplain : entry.isProtective = false) :
    (entry.sectorExtent.start + (entry.sectorExtent.stop - entry.sectorExtent.start))
      * parent.sectorSize.toNat ≤ parent.byteLen := by
  rw [Nat.add_sub_cancel' (Nat.le_of_lt hfits.start_lt_stop)]
  rcases hfits.stop_le with hle | hprotective
  · exact hle
  · exact absurd hprotective (by simp [hplain])

end Mbr

end VolumeScan

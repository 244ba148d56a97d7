/-
VolumeScan.Proofs.Scan.Table — which tables a scan accepts, and the partitions they have.

`Options.Accepts` says this without any reading, memory or registry: a GPT that is announced, has a
valid header in a sector and an admitted array behind it, or a legacy table that is valid on its
device. The partitions of a table (`Gpt.Header.partitions`, `Mbr.partitions`) are given by a total
function, since no checked entry is a fault (`Gpt.Header.map_partition`, `Mbr.map_partition`), and
all of them lie inside their device (`Options.Accepts.within`).

The last part is about the three calculations in front of a read: which copy of a header is used,
where a sector starts, and how many bytes its whole sectors have.
-/
import VolumeScan.Proofs.Gpt.Table
import VolumeScan.Proofs.Scan.Partition
import VolumeScan.Scan.Detection

namespace VolumeScan

/-! ## The partitions of a table -/

namespace Gpt

/-- The partition of a used entry. -/
def Entry.part (entry : Entry) (parent : Volume) (index : Nat) : Partition where
  volume := parent.part index entry.firstLba.toNat
    (entry.lastLba.toNat - entry.firstLba.toNat + 1) entry.kind
  record := .gptEntry index entry

/-- The partitions of the GPT with this header and this array. -/
def Header.partitions (header : Header) (array : Bytes) (parent : Volume) : List Partition :=
  (header.usedEntries array).map fun (index, entry) => entry.part parent index

/-- No entry of an admitted array is a fault. -/
theorem Header.map_partition {header : Header} {slot : HeaderCopy} {parent : Volume}
    (hvalid : header.Valid slot parent.sectorSize.toNat parent.sectorCount.toNat)
    (hlast : (parent.sectorCount.toNat - 1) * parent.sectorSize.toNat < wordLimit)
    {array : Bytes} (hadmits : ∀ item ∈ header.usedEntries array, header.Admits item.2) :
    (header.usedEntries array).map (fun (index, entry) => entry.partition parent index)
      = (header.partitions array parent).map .ok := by
  rw [Header.partitions, List.map_map]
  apply List.map_congr_left
  intro item hmem
  obtain ⟨index, entry⟩ := item
  obtain ⟨hindex, -, -⟩ := mem_usedEntries_iff.mp hmem
  exact Entry.partition_eq hvalid hlast (hadmits _ hmem) hindex

end Gpt

namespace Mbr

/-- The partition of a used entry. -/
def Entry.part (entry : Entry) (parent : Volume) (index : Nat) : Partition where
  volume := parent.part index entry.sectorExtent.start
    (entry.sectorExtent.stop - entry.sectorExtent.start) (VolumeKind.ofTypeCode entry.typeCode)
  record := .mbrEntry index entry

/-- The partitions of a legacy table. -/
def partitions (mbr : Mbr) (parent : Volume) : List Partition :=
  mbr.partitionEntries.map fun (index, entry) => entry.part parent index

/-- No entry of a valid table is a fault. -/
theorem map_partition {mbr : Mbr} {parent : Volume} (hvalid : mbr.validate parent = .ok ()) :
    mbr.partitionEntries.map (fun (index, entry) => entry.partition parent index)
      = (mbr.partitions parent).map .ok := by
  rw [partitions, List.map_map]
  apply List.map_congr_left
  intro item hmem
  obtain ⟨index, entry⟩ := item
  have hindex : index < 2 ^ 32 :=
    Nat.lt_trans (index_lt_of_mem_partitionEntries hmem) (by decide)
  exact Entry.partition_eq (fits_of_mem_partitionEntries hvalid hmem) hindex

end Mbr

/-! ## The tables that are accepted -/

/-- A scan with these options accepts a table on `parent`, whose first sector ends in `mbr`: the
kind of the table, the copy of the header it is read with, and its partitions. -/
inductive Options.Accepts (options : Options) (mbr : Mbr) (parent : Volume) :
    Scheme → Option Gpt.HeaderCopy → List Partition → Prop where
  | gpt {slot : Gpt.HeaderCopy} {sector array : Bytes} {header : Gpt.Header}
      (policy : options.gpt = .revisionOne) (announced : mbr.protectiveIndex?.isSome)
      (addressable : (parent.sectorCount.toNat - 1) * parent.sectorSize.toNat < wordLimit)
      (valid : Gpt.Header.validate sector slot parent.sectorSize.toNat parent.sectorCount.toNat
        = .ok header)
      (length_eq : array.length = header.arrayLen) (admitted : header.admitArray array = .ok ()) :
      options.Accepts mbr parent .gpt (some slot) (header.partitions array parent)
  | mbr (unannounced : ¬(options.gpt = .revisionOne ∧ mbr.protectiveIndex?.isSome))
      (policy : options.mbr ≠ .never) (valid : mbr.validate parent = .ok ()) :
      options.Accepts mbr parent .mbr none (mbr.partitions parent)

/-- **The partitions of an accepted table lie inside their device.** -/
theorem Options.Accepts.within {options : Options} {mbr : Mbr} {parent : Volume} {scheme : Scheme}
    {slot : Option Gpt.HeaderCopy} {partitions : List Partition}
    (h : options.Accepts mbr parent scheme slot partitions)
    (hparent : parent.firstByte.toNat + parent.byteLen < wordLimit) :
    ∀ partition ∈ partitions, partition.volume.Within parent := by
  cases h with
  | @gpt slot sector array header _ _ hlast hheader hlength hadmitted =>
    have hvalid := Gpt.Header.validate_valid hheader
    obtain ⟨-, hadmits⟩ :=
      (Gpt.Header.admitArray_eq_ok_iff hlength hvalid.entrySize_ge).mp hadmitted
    intro partition hmem
    obtain ⟨⟨index, entry⟩, hentry, rfl⟩ := List.mem_map.mp hmem
    exact Volume.part_within _ _ hparent hvalid.sectorSize_pos (Nat.le_add_left _ _)
      (Gpt.Entry.part_end_le hvalid hlast (hadmits _ hentry))
  | mbr _ _ hvalid =>
    intro partition hmem
    obtain ⟨⟨index, entry⟩, hentry, rfl⟩ := List.mem_map.mp hmem
    have hfits := Mbr.fits_of_mem_partitionEntries hvalid hentry
    obtain ⟨-, -, hplain⟩ := Mbr.mem_partitionEntries_iff.mp hentry
    exact Volume.part_within _ _ hparent hfits.sectorSize_pos
      (Nat.sub_pos_of_lt hfits.start_lt_stop) (Mbr.Entry.part_end_le hfits hplain)

/-! ## What is read -/

namespace Gpt

/-- The second copy of a header is only looked at if the first one is rejected. -/
theorem chooseHeader_eq_ok_iff {primary backup : Bytes} {sectorSize totalSectors : Nat}
    {slot : HeaderCopy} {header : Header} :
    (chooseHeader primary backup sectorSize totalSectors).1 = .ok (slot, header) ↔
      (slot = .primary
          ∧ Header.validate primary .primary sectorSize totalSectors = .ok header)
        ∨ (slot = .backup
          ∧ (∃ error, Header.validate primary .primary sectorSize totalSectors = .error error)
          ∧ Header.validate backup .backup sectorSize totalSectors = .ok header) := by
  unfold chooseHeader
  cases hprimary : Header.validate primary .primary sectorSize totalSectors with
  | ok first => simp [eq_comm]
  | error rejected =>
    cases hbackup : Header.validate backup .backup sectorSize totalSectors with
    | ok second => simp [eq_comm]
    | error error => simp

/-- The header that is chosen is valid. -/
theorem valid_of_chooseHeader {primary backup : Bytes} {sectorSize totalSectors : Nat}
    {slot : HeaderCopy} {header : Header}
    (h : (chooseHeader primary backup sectorSize totalSectors).1 = .ok (slot, header)) :
    header.Valid slot sectorSize totalSectors := by
  rcases chooseHeader_eq_ok_iff.mp h with ⟨rfl, hvalid⟩ | ⟨rfl, -, hvalid⟩
  · exact Header.validate_valid hvalid
  · exact Header.validate_valid hvalid

/-- Bytes behind the two sectors make no difference. -/
theorem chooseHeader_append {primary backup : Bytes} {sectorSize totalSectors : Nat}
    (hprimary : primary.length = sectorSize) (hbackup : backup.length = sectorSize)
    (rest rest' : Bytes) :
    chooseHeader (primary ++ rest) (backup ++ rest') sectorSize totalSectors
      = chooseHeader primary backup sectorSize totalSectors := by
  unfold chooseHeader
  rw [Header.validate_append rest hprimary, Header.validate_append rest' hbackup]

theorem byteOf_eq_ok_iff {lba sectorSize pos : Nat} :
    byteOf lba sectorSize = .ok pos ↔ lba * sectorSize < wordLimit ∧ lba * sectorSize = pos := by
  unfold byteOf
  simp only [bind_eq_ok_iff, require_eq_ok_iff, exists_const, pure_eq_ok_iff]

/-- The length of the whole sectors that hold `len` bytes. -/
def sectorsLen (len sectorSize : Nat) : Nat :=
  (len + (sectorSize - 1)) / sectorSize * sectorSize

/-- Whole sectors have the least number of bytes that is enough and a multiple of their size. -/
theorem sectorsLen_eq_iff {len sectorSize whole : Nat} (hsize : 0 < sectorSize) :
    sectorsLen len sectorSize = whole ↔
      sectorSize ∣ whole ∧ len ≤ whole ∧ whole < len + sectorSize := by
  unfold sectorsLen
  constructor
  · rintro rfl
    have hdiv := Nat.div_add_mod (len + (sectorSize - 1)) sectorSize
    have hmod := Nat.mod_lt (len + (sectorSize - 1)) hsize
    rw [Nat.mul_comm] at hdiv
    refine ⟨Nat.dvd_mul_left _ _, ?_, ?_⟩ <;> omega
  · intro h
    obtain ⟨⟨count, rfl⟩, hle, hlt⟩ := h
    have hquotient : (len + (sectorSize - 1)) / sectorSize = count := by
      rw [Nat.mul_comm] at hle hlt
      apply Nat.div_eq_of_lt_le
      · omega
      · rw [Nat.succ_mul]
        omega
    rw [hquotient, Nat.mul_comm]

theorem wholeSectors_eq_ok_iff {len sectorSize whole : Nat} (hsize : 0 < sectorSize)
    (hlen : len + (sectorSize - 1) < wordLimit) :
    wholeSectors len sectorSize = .ok whole ↔
      sectorSize ∣ whole ∧ len ≤ whole ∧ whole < len + sectorSize := by
  have hwhole : wholeSectors len sectorSize = .ok (sectorsLen len sectorSize) := by
    unfold wholeSectors
    rw [exactSub_of_le hsize]
    exact if_pos hlen
  rw [hwhole, Except.ok.injEq, sectorsLen_eq_iff hsize]

end Gpt

end VolumeScan

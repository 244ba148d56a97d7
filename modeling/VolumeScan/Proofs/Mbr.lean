/-
VolumeScan.Proofs.Mbr — which legacy tables are accepted.

A table can be read from every sector of 512 bytes, whatever is in it (`Mbr.exists_ofSector`).
`Mbr.Entry.Fits` lists what is asked of an entry in use, in exact numbers of sectors and bytes. A
table is accepted exactly if it has the boot signature, stands on a whole device, and has entries in
use, all of which fit (`Mbr.validate_eq_ok_iff`). The entries that become partitions are those in
use that do not protect a GPT, so every one of them fits too (`Mbr.fits_of_mem_partitionEntries`).
-/
import VolumeScan.Mbr
import VolumeScan.Scan.Partition

namespace VolumeScan

namespace Mbr

/-! ## Reading -/

/-- An entry can be read from any sixteen bytes. -/
theorem Entry.exists_ofBytes {bytes : Bytes} {start : Nat} (h : start + 16 ≤ bytes.length) :
    ∃ entry, Entry.ofBytes bytes start = .ok entry := by
  have hbyte : ∀ place < 16, ∃ b, Bytes.byte bytes (start + place) = .ok b := by
    intro place hplace
    unfold Bytes.byte
    rw [List.getElem?_eq_getElem (by omega)]
    exact ⟨_, rfl⟩
  have hword : ∀ place ≤ 12, ∃ word, Bytes.word32 bytes (start + place) = .ok word := by
    intro place hplace
    unfold Bytes.word32
    rw [Bytes.slice_of_le (by omega)]
    exact ⟨_, rfl⟩
  obtain ⟨_, hstatus⟩ := hbyte 0 (by decide)
  obtain ⟨_, hfirst0⟩ := hbyte 1 (by decide)
  obtain ⟨_, hfirst1⟩ := hbyte 2 (by decide)
  obtain ⟨_, hfirst2⟩ := hbyte 3 (by decide)
  obtain ⟨_, htype⟩ := hbyte 4 (by decide)
  obtain ⟨_, hlast0⟩ := hbyte 5 (by decide)
  obtain ⟨_, hlast1⟩ := hbyte 6 (by decide)
  obtain ⟨_, hlast2⟩ := hbyte 7 (by decide)
  obtain ⟨_, hlba⟩ := hword 8 (by decide)
  obtain ⟨_, hsectors⟩ := hword 12 (by decide)
  rw [Nat.add_zero] at hstatus
  unfold Entry.ofBytes
  rw [hstatus, hfirst0, hfirst1, hfirst2, htype, hlast0, hlast1, hlast2, hlba, hsectors]
  exact ⟨_, rfl⟩

/-- A table can be read from any sector of 512 bytes. -/
theorem exists_ofSector {sector : Bytes} (h : sector.length = sectorSize) :
    ∃ mbr, ofSector sector = .ok mbr := by
  unfold sectorSize at h
  have hentry : ∀ place < 4,
      ∃ entry, Entry.ofBytes sector (firstEntry + 16 * place) = .ok entry := by
    intro place hplace
    apply Entry.exists_ofBytes
    unfold firstEntry
    omega
  obtain ⟨_, hentry0⟩ := hentry 0 (by decide)
  obtain ⟨_, hentry1⟩ := hentry 1 (by decide)
  obtain ⟨_, hentry2⟩ := hentry 2 (by decide)
  obtain ⟨_, hentry3⟩ := hentry 3 (by decide)
  have hsignature : ∃ word, Bytes.word16 sector (firstEntry + 64) = .ok word := by
    unfold Bytes.word16 firstEntry
    rw [Bytes.slice_of_le (by omega)]
    exact ⟨_, rfl⟩
  obtain ⟨_, hsignature⟩ := hsignature
  rw [Nat.mul_zero, Nat.add_zero] at hentry0
  unfold ofSector
  rw [hentry0, hentry1, hentry2, hentry3, hsignature]
  exact ⟨_, rfl⟩

/-! ## Checking -/

namespace Entry

/-- The conditions on an entry in use of a table on `volume`. A protective entry may reach over the
end of the volume. -/
structure Fits (entry : Entry) (volume : Volume) : Prop where
  status : entry.status = 0x00 ∨ entry.status = 0x80
  start_addressable : entry.sectorExtent.start * volume.sectorSize.toNat < wordLimit
  stop_addressable : entry.sectorExtent.stop * volume.sectorSize.toNat < wordLimit
  start_pos : 0 < entry.sectorExtent.start * volume.sectorSize.toNat
  stop_le : entry.sectorExtent.stop * volume.sectorSize.toNat ≤ volume.byteLen
    ∨ entry.isProtective = true
  start_lt_stop : entry.sectorExtent.start < entry.sectorExtent.stop

/-- `check` decides the conditions on an entry in use. -/
theorem check_eq_ok_iff {entry : Entry} {volume : Volume} :
    entry.check volume = .ok () ↔ entry.Fits volume := by
  unfold check byteExtent?
  simp only [bind_eq_ok_iff, require_eq_ok_iff, exists_const]
  by_cases haddressable : entry.sectorExtent.start * volume.sectorSize.toNat < wordLimit
      ∧ entry.sectorExtent.stop * volume.sectorSize.toNat < wordLimit
  · rw [if_pos haddressable]
    simp only [bind_eq_ok_iff, require_eq_ok_iff, exists_const]
    constructor
    · intro h
      obtain ⟨hstatus, hstart, hstop, hlt⟩ := h
      exact ⟨hstatus, haddressable.1, haddressable.2, Nat.pos_of_ne_zero hstart, hstop,
        Nat.lt_of_mul_lt_mul_right hlt⟩
    · intro h
      have hsize : 0 < volume.sectorSize.toNat := Nat.pos_of_mul_pos_left h.start_pos
      exact ⟨h.status, Nat.ne_of_gt h.start_pos, h.stop_le,
        Nat.mul_lt_mul_of_pos_right h.start_lt_stop hsize⟩
  · rw [if_neg haddressable]
    constructor
    · intro h
      obtain ⟨-, h⟩ := h
      exact absurd h (by simp)
    · intro h
      exact absurd ⟨h.start_addressable, h.stop_addressable⟩ haddressable

/-- Bytes are counted in sectors that have some. -/
theorem Fits.sectorSize_pos {entry : Entry} {volume : Volume} (h : entry.Fits volume) :
    0 < volume.sectorSize.toNat := Nat.pos_of_mul_pos_left h.start_pos

/-- No entry counts as many sectors as a 64-bit word has values. -/
theorem Fits.sectors_lt {entry : Entry} {volume : Volume} (h : entry.Fits volume) :
    entry.sectorExtent.stop - entry.sectorExtent.start < wordLimit := by
  have hstop : entry.sectorExtent.stop ≤ entry.sectorExtent.stop * volume.sectorSize.toNat :=
    Nat.le_mul_of_pos_right _ h.sectorSize_pos
  have hlt := h.stop_addressable
  omega

end Entry

/-- **What is accepted as a legacy table**: the signature, on a whole device, with at least one
entry in use, all of which fit. -/
theorem validate_eq_ok_iff {mbr : Mbr} {volume : Volume} :
    mbr.validate volume = .ok () ↔
      mbr.signature = bootSignature ∧ volume.partition = none
        ∧ (∀ entry ∈ mbr.usedEntries, entry.Fits volume) ∧ mbr.usedEntries ≠ [] := by
  have hlast : (if mbr.usedEntries.isEmpty then Except.error Error.notFound else .ok ())
      = .ok () ↔ mbr.usedEntries ≠ [] := by
    cases mbr.usedEntries <;> simp
  unfold validate
  simp only [bind_eq_ok_iff, require_eq_ok_iff, exists_const, forM_eq_ok_iff,
    Entry.check_eq_ok_iff, hlast]

/-- The entries that become partitions, each with its place in the table. -/
theorem mem_partitionEntries_iff {mbr : Mbr} {index : Nat} {entry : Entry} :
    (index, entry) ∈ mbr.partitionEntries ↔
      mbr.entries.toList[index]? = some entry ∧ entry.isEmpty = false
        ∧ entry.isProtective = false := by
  simp only [partitionEntries, List.mem_filter, List.mem_map, Prod.exists, Prod.mk.injEq,
    Bool.and_eq_true, Bool.not_eq_true']
  constructor
  · intro h
    obtain ⟨⟨e, i, hmem, rfl, rfl⟩, hused⟩ := h
    exact ⟨List.mem_zipIdx_iff_getElem?.mp hmem, hused⟩
  · intro h
    obtain ⟨hat, hused⟩ := h
    exact ⟨⟨entry, index, List.mem_zipIdx_iff_getElem?.mpr hat, rfl, rfl⟩, hused⟩

/-- A table announces a GPT by the type of an entry. -/
theorem isSome_protectiveIndex?_iff {mbr : Mbr} :
    mbr.protectiveIndex?.isSome ↔ ∃ entry ∈ mbr.entries.toList, entry.typeCode = 0xEE := by
  rw [protectiveIndex?, List.findIdx?_isSome, List.any_eq_true]
  exact exists_congr fun _ => and_congr_right fun _ => decide_eq_true_iff

/-- There are four places. -/
theorem index_lt_of_mem_partitionEntries {mbr : Mbr} {index : Nat} {entry : Entry}
    (h : (index, entry) ∈ mbr.partitionEntries) : index < 4 := by
  obtain ⟨hat, -⟩ := mem_partitionEntries_iff.mp h
  obtain ⟨hlt, -⟩ := List.getElem?_eq_some_iff.mp hat
  simpa using hlt

/-- What becomes a partition was checked. -/
theorem fits_of_mem_partitionEntries {mbr : Mbr} {volume : Volume}
    (hvalid : mbr.validate volume = .ok ()) {index : Nat} {entry : Entry}
    (h : (index, entry) ∈ mbr.partitionEntries) : entry.Fits volume := by
  obtain ⟨-, -, hfits, -⟩ := validate_eq_ok_iff.mp hvalid
  obtain ⟨hat, hused, -⟩ := mem_partitionEntries_iff.mp h
  apply hfits
  rw [usedEntries, List.mem_filter]
  exact ⟨List.mem_of_getElem? hat, by simp [hused]⟩

end Mbr

end VolumeScan

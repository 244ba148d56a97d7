/-
VolumeScan.Proofs.Gpt.Header — what is known of a GPT header that was accepted.

`Header.Valid` lists the conditions of the format on the fields of a header; `validate_valid` says
that `Header.validate` accepts no other header. From them follow the bounds that everything behind
the header relies on: a disk with a header has at least four sectors (`Valid.four_le`), partitions
end before the last sector (`Valid.lastUsable_lt`), and the array starts before it
(`Valid.entriesLba_lt`), so whatever is addressed through the header is addressed in 64 bits as soon
as the last sector is.

Only the first sector of the buffer is looked at (`validate_append`); that is why a buffer may be
larger than the sector that was read into it. And a header that fulfils the conditions and carries
its checksum is read back from the sector that is written for it (`validate_encode`).
-/
import Mathlib.Algebra.Group.Nat.Defs
import VolumeScan.Gpt.Header
import VolumeScan.Proofs.Bytes

namespace VolumeScan

namespace Gpt

namespace Header

/-- The conditions of the format on a header that stands in `slot` of a disk of `totalSectors`
sectors of `sectorSize` bytes. -/
structure Valid (header : Header) (slot : HeaderCopy) (sectorSize totalSectors : Nat) : Prop where
  revision_ge : minRevision ≤ header.revision.toNat
  headerSize_ge : minHeaderSize ≤ header.headerSize.toNat
  headerSize_le : header.headerSize.toNat ≤ sectorSize
  one_le_total : 1 ≤ totalSectors
  myLba_eq : header.myLba.toNat = (slot.lbas totalSectors).1
  alternateLba_eq : header.alternateLba.toNat = (slot.lbas totalSectors).2
  usable_ordered : header.firstUsableLba ≤ header.lastUsableLba
  usable_addressable : header.lastUsableLba.toNat ≤ (wordLimit - 1) / sectorSize
  usable_lt : header.lastUsableLba.toNat < max header.myLba.toNat header.alternateLba.toNat
  array_gt : min header.myLba.toNat header.alternateLba.toNat < header.entriesLba.toNat
  array_lt : header.entriesLba.toNat < max header.myLba.toNat header.alternateLba.toNat
  entryCount_ne_zero : header.entryCount ≠ 0
  entrySize_ge : minEntrySize ≤ header.entrySize.toNat
  entrySize_dvd : header.entrySize.toNat % 8 = 0

/-- **Soundness of `validate`**: an accepted header fulfils the conditions of the format. -/
theorem validate_valid {buffer : Bytes} {slot : HeaderCopy} {sectorSize totalSectors : Nat}
    {header : Header} (h : validate buffer slot sectorSize totalSectors = .ok header) :
    header.Valid slot sectorSize totalSectors := by
  unfold validate at h
  simp only [bind_eq_ok_iff, require_eq_ok_iff, exists_const, pure_eq_ok_iff] at h
  obtain ⟨-, sector, -, start, -, -, revision, -, hrevision, headerSize, -, hsize, hfits, headerCrc,
    -, checked, -, crc, -, -, reserved, -, -, htotal, myLba, -, hmy, alternateLba, -, halternate,
    firstUsable, -, lastUsable, -, hordered, haddressable, husable, diskGuid, -, entriesLba, -,
    harray, entryCount, -, hcount, entrySize, -, hentry, entriesCrc, -, rest, -, -, rfl⟩ := h
  exact {
    revision_ge := hrevision
    headerSize_ge := hsize
    headerSize_le := hfits
    one_le_total := htotal
    myLba_eq := hmy
    alternateLba_eq := halternate
    usable_ordered := hordered
    usable_addressable := haddressable
    usable_lt := husable
    array_gt := harray.1
    array_lt := harray.2
    entryCount_ne_zero := hcount
    entrySize_ge := hentry.1
    entrySize_dvd := hentry.2 }

/-- Bytes behind the sector make no difference. -/
theorem validate_append {sector : Bytes} (rest : Bytes) {slot : HeaderCopy}
    {sectorSize totalSectors : Nat} (hlength : sector.length = sectorSize) :
    validate (sector ++ rest) slot sectorSize totalSectors
      = validate sector slot sectorSize totalSectors := by
  have hslice : Bytes.slice (sector ++ rest) 0 sectorSize = Bytes.slice sector 0 sectorSize := by
    rw [Bytes.slice_append_of_le (Nat.le_of_eq hlength.symm), Bytes.slice_of_le (by omega),
      List.drop_zero]
  have hlong : sectorSize ≤ (sector ++ rest).length := by simp; omega
  unfold validate
  simp only [hslice, hlong, hlength, Nat.le_refl, true_and]

namespace Valid

variable {header : Header} {slot : HeaderCopy} {sectorSize totalSectors : Nat}

/-- The two headers stand in sector one and in the last sector. -/
theorem lower_upper (h : header.Valid slot sectorSize totalSectors) :
    min header.myLba.toNat header.alternateLba.toNat = min 1 (totalSectors - 1)
      ∧ max header.myLba.toNat header.alternateLba.toNat = max 1 (totalSectors - 1) := by
  rw [h.myLba_eq, h.alternateLba_eq]
  cases slot with
  | primary => exact ⟨rfl, rfl⟩
  | backup => exact ⟨Nat.min_comm _ _, Nat.max_comm _ _⟩

/-- A disk with a header has room for two headers, an array between them, and its first sector. -/
theorem four_le (h : header.Valid slot sectorSize totalSectors) : 4 ≤ totalSectors := by
  obtain ⟨hlower, hupper⟩ := h.lower_upper
  have hgt := h.array_gt
  have hlt := h.array_lt
  omega

/-- The array starts before the last sector. -/
theorem entriesLba_lt (h : header.Valid slot sectorSize totalSectors) :
    header.entriesLba.toNat < totalSectors - 1 := by
  obtain ⟨-, hupper⟩ := h.lower_upper
  have hlt := h.array_lt
  have hfour := h.four_le
  omega

/-- The usable area ends before the last sector. -/
theorem lastUsable_lt (h : header.Valid slot sectorSize totalSectors) :
    header.lastUsableLba.toNat < totalSectors - 1 := by
  obtain ⟨-, hupper⟩ := h.lower_upper
  have hlt := h.usable_lt
  have hfour := h.four_le
  omega

/-- A sector has bytes. -/
theorem sectorSize_pos (h : header.Valid slot sectorSize totalSectors) : 0 < sectorSize := by
  have hge := h.headerSize_ge
  have hle := h.headerSize_le
  unfold minHeaderSize at hge
  omega

/-- The array has bytes. -/
theorem arrayLen_pos (h : header.Valid slot sectorSize totalSectors) : 0 < header.arrayLen := by
  have hcount : 0 < header.entryCount.toNat :=
    Nat.pos_of_ne_zero fun hzero => h.entryCount_ne_zero (UInt32.toNat_inj.mp hzero)
  exact Nat.mul_pos hcount (Nat.lt_of_lt_of_le (by decide) h.entrySize_ge)

end Valid

/-- Every sector up to the last has a 64-bit address, if the last one has. -/
theorem mul_lt_wordLimit {sectorSize totalSectors lba : Nat}
    (hlast : (totalSectors - 1) * sectorSize < wordLimit) (hlba : lba ≤ totalSectors - 1) :
    lba * sectorSize < wordLimit :=
  Nat.lt_of_le_of_lt (Nat.mul_le_mul_right sectorSize hlba) hlast

/-- Two 32-bit factors and the slack of a sector leave an array far below the word limit. -/
theorem arrayLen_add_lt (header : Header) {slack : Nat} (hslack : slack < 2 ^ 32) :
    header.arrayLen + slack < wordLimit := by
  have hcount : header.entryCount.toNat ≤ 2 ^ 32 - 1 := Nat.le_pred_of_lt header.entryCount.toNat_lt
  have hsize : header.entrySize.toNat ≤ 2 ^ 32 - 1 := Nat.le_pred_of_lt header.entrySize.toNat_lt
  have hproduct : header.arrayLen ≤ (2 ^ 32 - 1) * (2 ^ 32 - 1) := Nat.mul_le_mul hcount hsize
  unfold wordLimit
  omega

/-! ## Written headers -/

section

variable {header : Header} {extension : Bytes} {slot : HeaderCopy} {sectorSize totalSectors : Nat}

/-- The fields of a header as they stand in its sector. -/
def fields (header : Header) : List Bytes :=
  [signature,
    LittleEndian.encode 4 header.revision.toNat,
    LittleEndian.encode 4 header.headerSize.toNat,
    LittleEndian.encode 4 header.headerCrc.toNat,
    LittleEndian.encode 4 (0 : UInt32).toNat,
    LittleEndian.encode 8 header.myLba.toNat,
    LittleEndian.encode 8 header.alternateLba.toNat,
    LittleEndian.encode 8 header.firstUsableLba.toNat,
    LittleEndian.encode 8 header.lastUsableLba.toNat,
    header.diskGuid.toBytes,
    LittleEndian.encode 8 header.entriesLba.toNat,
    LittleEndian.encode 4 header.entryCount.toNat,
    LittleEndian.encode 4 header.entrySize.toNat,
    LittleEndian.encode 4 header.entriesCrc.toNat]

/-- The lengths of the fields. -/
def fieldLens : List Nat := [8, 4, 4, 4, 4, 8, 8, 8, 8, 16, 8, 4, 4, 4]

/-- Where a field starts. -/
def fieldStart (index : Nat) : Nat := (fieldLens.take index).foldr (· + ·) 0

/-- What stands behind the fields: the extension, and zeros. -/
def behindFields (extension : Bytes) (sectorSize : Nat) : Bytes :=
  extension ++ List.replicate (sectorSize - (minHeaderSize + extension.length)) 0

theorem map_length_fields (header : Header) : header.fields.map List.length = fieldLens := by
  simp [fields, fieldLens, signature]

theorem length_take_fields (header : Header) (index : Nat) :
    (header.fields.take index).flatten.length = fieldStart index := by
  rw [List.length_flatten, List.map_take, map_length_fields, List.sum_eq_foldr, fieldStart]

theorem length_flatten_fields (header : Header) :
    header.fields.flatten.length = minHeaderSize := header.length_take_fields 14

theorem encode_eq_flatten (header : Header) (extension : Bytes) (sectorSize : Nat) :
    header.encode extension sectorSize
      = header.fields.flatten ++ behindFields extension sectorSize := by
  simp [encode, fields, behindFields, signature, minHeaderSize]
  omega

theorem length_encode (header : Header) (h : minHeaderSize + extension.length ≤ sectorSize) :
    (header.encode extension sectorSize).length = sectorSize := by
  rw [encode_eq_flatten, List.length_append, length_flatten_fields]
  simp only [behindFields, List.length_append, List.length_replicate]
  omega

/-- What is read from the place of a field. -/
theorem slice_encode (index : Nat) {start len : Nat} {field : Bytes}
    (hat : header.fields[index]? = some field) (hstart : fieldStart index = start)
    (hlen : field.length = len) :
    Bytes.slice (header.encode extension sectorSize) start len = .ok field := by
  rw [encode_eq_flatten]
  rw [← header.length_take_fields] at hstart
  exact Bytes.slice_flatten _ hat hstart hlen

theorem word32_encode (index : Nat) {start : Nat} {word : UInt32}
    (hat : header.fields[index]? = some (LittleEndian.encode 4 word.toNat))
    (hstart : fieldStart index = start) :
    Bytes.word32 (header.encode extension sectorSize) start = .ok word := by
  rw [encode_eq_flatten]
  rw [← header.length_take_fields] at hstart
  exact Bytes.word32_flatten _ hat hstart

theorem word64_encode (index : Nat) {start : Nat} {word : UInt64}
    (hat : header.fields[index]? = some (LittleEndian.encode 8 word.toNat))
    (hstart : fieldStart index = start) :
    Bytes.word64 (header.encode extension sectorSize) start = .ok word := by
  rw [encode_eq_flatten]
  rw [← header.length_take_fields] at hstart
  exact Bytes.word64_flatten _ hat hstart

/-- Behind the extension there are zeros only. -/
theorem slice_encode_tail (header : Header)
    (h : minHeaderSize + extension.length ≤ sectorSize) :
    Bytes.slice (header.encode extension sectorSize) (minHeaderSize + extension.length)
      (sectorSize - (minHeaderSize + extension.length))
      = .ok (List.replicate (sectorSize - (minHeaderSize + extension.length)) 0) := by
  have hinside := header.length_encode h
  have hbefore : (header.fields.flatten ++ extension).length
      = minHeaderSize + extension.length := by
    rw [List.length_append, length_flatten_fields]
  rw [Bytes.slice_of_le (by omega), encode_eq_flatten, behindFields, ← List.append_assoc,
    ← hbefore, List.drop_left, List.take_of_length_le (Nat.le_of_eq List.length_replicate)]

/-- **A written header is accepted** and read back, if it fulfils the conditions of the format and
carries its checksum. -/
theorem validate_encode (h : header.Valid slot sectorSize totalSectors)
    (hextension : minHeaderSize + extension.length = header.headerSize.toNat)
    (hcrc : crc32Blanked ((header.encode extension sectorSize).take header.headerSize.toNat)
      crcStart crcStop = .ok header.headerCrc) :
    validate (header.encode extension sectorSize) slot sectorSize totalSectors = .ok header := by
  have hge := h.headerSize_ge
  have hle := h.headerSize_le
  have hfits : minHeaderSize + extension.length ≤ sectorSize := hextension ▸ hle
  have hlength : (header.encode extension sectorSize).length = sectorSize :=
    header.length_encode hfits
  have hsector : Bytes.slice (header.encode extension sectorSize) 0 sectorSize
      = .ok (header.encode extension sectorSize) := by
    rw [Bytes.slice_of_le (by omega), List.drop_zero, List.take_of_length_le (by omega)]
  have hchecked : Bytes.slice (header.encode extension sectorSize) 0 header.headerSize.toNat
      = .ok ((header.encode extension sectorSize).take header.headerSize.toNat) := by
    rw [Bytes.slice_of_le (by omega), List.drop_zero]
  have hrest := header.slice_encode_tail hfits
  rw [hextension] at hrest
  unfold validate
  simp only [bind_eq_ok_iff, require_eq_ok_iff, exists_const, pure_eq_ok_iff]
  -- Field by field: what is read, that it is read there, and the checks behind it.
  refine ⟨⟨Nat.le_of_eq hlength.symm, Nat.le_trans hge hle⟩, _, hsector,
    _, slice_encode 0 rfl (by decide) rfl, rfl,
    _, word32_encode 1 rfl (by decide), h.revision_ge,
    _, word32_encode 2 rfl (by decide), hge, hle,
    _, word32_encode 3 rfl (by decide), _, hchecked, _, hcrc, rfl,
    _, word32_encode 4 rfl (by decide), rfl, h.one_le_total,
    _, word64_encode 5 rfl (by decide), h.myLba_eq,
    _, word64_encode 6 rfl (by decide), h.alternateLba_eq,
    _, word64_encode 7 rfl (by decide),
    _, word64_encode 8 rfl (by decide), h.usable_ordered, h.usable_addressable, h.usable_lt,
    _, slice_encode 9 rfl (by decide) (Guid.length_toBytes _),
    _, word64_encode 10 rfl (by decide), ⟨h.array_gt, h.array_lt⟩,
    _, word32_encode 11 rfl (by decide), h.entryCount_ne_zero,
    _, word32_encode 12 rfl (by decide), ⟨h.entrySize_ge, h.entrySize_dvd⟩,
    _, word32_encode 13 rfl (by decide),
    _, hrest, ?_, ?_⟩
  · simp
  · rw [Guid.ofBytes_toBytes]

end

end Header

end Gpt

end VolumeScan

/-
VolumeScan.Proofs.Gpt.Placement — where the entry array of an accepted header lies.

The array takes up `⌈arrayLen / sectorSize⌉` sectors from `entriesLba` on (`Header.ArrayCovers`).
`Header.validate` asks that it starts between the two headers, and does not look at its length
there: the length is the product of two fields that are read later. So no sector of the array
reaches the lower header, but that it ends in front of the upper one is a condition of its own,
`entriesLba * sectorSize + arrayLen ≤ upper * sectorSize`, which an accepted header may fail
(`Header.array_starts_between_headers`, `Header.overrunning_array_reaches_backup`). For every place
that is accepted, every length is: a header can be given its checksum, whatever the other fields
are (`Header.Valid.validate_sealed`).
-/
import Mathlib.Algebra.Order.Floor.Div
import VolumeScan.Proofs.Gpt.Encoding

namespace VolumeScan

namespace Gpt

namespace Header

variable {header : Header} {buffer extension : Bytes} {slot : HeaderCopy}
  {sectorSize totalSectors : Nat}

/-! ## Sealed headers -/

/-- The header with the checksum of its sector. -/
def sealed (header : Header) (extension : Bytes) (sectorSize : Nat) : Header :=
  { header with headerCrc := crc32 (Bytes.blank
      ((header.encode extension sectorSize).take header.headerSize.toNat) crcStart crcStop) }

/-- What the checksum of a written header is computed over: everything but the checksum. -/
theorem blank_encode (header : Header) (extension : Bytes) (sectorSize : Nat)
    (hsize : crcStop ≤ header.headerSize.toNat) :
    Bytes.blank ((header.encode extension sectorSize).take header.headerSize.toNat) crcStart crcStop
      = (header.fields.take 3).flatten ++ List.replicate (crcStop - crcStart) 0
        ++ ((header.fields.drop 4).flatten ++ behindFields extension sectorSize).take
          (header.headerSize.toNat - crcStop) := by
  let checksum := LittleEndian.encode 4 header.headerCrc.toNat
  have hsplit : header.encode extension sectorSize
      = (header.fields.take 3).flatten ++ checksum
        ++ ((header.fields.drop 4).flatten ++ behindFields extension sectorSize) := by
    rw [encode_eq_flatten, ← List.append_assoc]
    simp [fields, checksum]
  have hbefore : (header.fields.take 3).flatten.length = crcStart := header.length_take_fields 3
  have hhole : ((header.fields.take 3).flatten ++ checksum).length = crcStop := by
    rw [List.length_append, hbefore, LittleEndian.length_encode]
    rfl
  rw [hsplit, Bytes.blank_take_append hbefore hhole hsize]

/-- A sealed header is written with the checksum that it has to carry. -/
theorem sealed_writtenIn (header : Header)
    (hextension : minHeaderSize + extension.length = header.headerSize.toNat)
    (hsize : header.headerSize.toNat ≤ sectorSize) :
    (header.sealed extension sectorSize).WrittenIn
      ((header.sealed extension sectorSize).encode extension sectorSize) extension sectorSize := by
  have hlength : ((header.sealed extension sectorSize).encode extension sectorSize).length
      = sectorSize := length_encode _ (hextension ▸ hsize)
  have hcovered : crcStop ≤ header.headerSize.toNat := by
    rw [← hextension]
    exact Nat.le_trans (by decide) (Nat.le_add_right minHeaderSize _)
  refine ⟨Nat.le_of_eq hlength.symm, hextension, List.take_of_length_le (Nat.le_of_eq hlength), ?_⟩
  have hbare := blank_encode header extension sectorSize hcovered
  have hcarried := blank_encode (header.sealed extension sectorSize) extension sectorSize hcovered
  exact congrArg crc32 (hbare.trans hcarried.symm)

/-- A header that fulfils the conditions of the format is accepted with its checksum. -/
theorem Valid.validate_sealed (h : header.Valid slot sectorSize totalSectors)
    (hextension : minHeaderSize + extension.length = header.headerSize.toNat) :
    validate ((header.sealed extension sectorSize).encode extension sectorSize) slot sectorSize
      totalSectors = .ok (header.sealed extension sectorSize) :=
  (header.sealed_writtenIn hextension h.headerSize_le).validate_eq { h with }

/-! ## The sectors of the array -/

/-- The sector holds a part of the entry array. -/
def ArrayCovers (header : Header) (sectorSize lba : Nat) : Prop :=
  header.entriesLba.toNat ≤ lba ∧ lba < header.entriesLba.toNat + header.arrayLen ⌈/⌉ sectorSize

/-- The array ends in front of a sector exactly if its bytes do. -/
theorem Valid.forall_arrayCovers_lt_iff (h : header.Valid slot sectorSize totalSectors)
    {limit : Nat} (hstart : header.entriesLba.toNat ≤ limit) :
    (∀ lba, header.ArrayCovers sectorSize lba → lba < limit) ↔
      header.entriesLba.toNat * sectorSize + header.arrayLen ≤ limit * sectorSize := by
  have hsectors : 0 < header.arrayLen ⌈/⌉ sectorSize := by
    rw [Nat.pos_iff_ne_zero]
    intro hzero
    have hle := (ceilDiv_le_iff_le_mul h.sectorSize_pos).mp (Nat.le_of_eq hzero)
    exact absurd h.arrayLen_pos (by omega)
  have hends : (∀ lba, header.ArrayCovers sectorSize lba → lba < limit) ↔
      header.arrayLen ⌈/⌉ sectorSize ≤ limit - header.entriesLba.toNat := by
    constructor
    · intro hall
      have hlast := hall (header.entriesLba.toNat + header.arrayLen ⌈/⌉ sectorSize - 1)
        ⟨by omega, by omega⟩
      omega
    · intro hle lba hcovers
      have hlt := hcovers.2
      omega
  have hsplit : sectorSize * (limit - header.entriesLba.toNat)
      = limit * sectorSize - header.entriesLba.toNat * sectorSize := by
    rw [Nat.mul_comm, Nat.sub_mul]
  have hbytes : header.entriesLba.toNat * sectorSize ≤ limit * sectorSize :=
    Nat.mul_le_mul_right sectorSize hstart
  rw [hends, ceilDiv_le_iff_le_mul h.sectorSize_pos, hsplit]
  omega

/-- **Where the entry array lies.** The array of an accepted header starts between the two headers,
and no sector of it is the lower header or lies in front of it. That all of it lies in front of the
upper header is one more condition, and not one of those that are checked: in the same place, a
header is accepted with every number and every size of entries that the format allows. -/
theorem array_starts_between_headers
    (h : validate buffer slot sectorSize totalSectors = .ok header) :
    let lower := min header.myLba.toNat header.alternateLba.toNat
    let upper := max header.myLba.toNat header.alternateLba.toNat
    (lower < header.entriesLba.toNat ∧ header.entriesLba.toNat < upper)
      ∧ (∀ lba, header.ArrayCovers sectorSize lba → lower < lba)
      ∧ ((∀ lba, header.ArrayCovers sectorSize lba → lba < upper) ↔
        header.entriesLba.toNat * sectorSize + header.arrayLen ≤ upper * sectorSize)
      ∧ ∀ count size : UInt32, count ≠ 0 → 128 ≤ size.toNat → size.toNat % 8 = 0 →
        ∃ sector crc, validate sector slot sectorSize totalSectors
          = .ok { header with headerCrc := crc, entryCount := count, entrySize := size } := by
  intro lower upper
  have hvalid := validate_valid h
  obtain ⟨extension, hwritten⟩ := writtenIn_of_validate h
  refine ⟨⟨hvalid.array_gt, hvalid.array_lt⟩, ?_, ?_, ?_⟩
  · intro lba hcovers
    exact Nat.lt_of_lt_of_le hvalid.array_gt hcovers.1
  · exact hvalid.forall_arrayCovers_lt_iff (Nat.le_of_lt hvalid.array_lt)
  · intro count size hcount hsize hdvd
    let reshaped := { header with entryCount := count, entrySize := size }
    have hreshaped : reshaped.Valid slot sectorSize totalSectors := { hvalid with
      entryCount_ne_zero := hcount
      entrySize_ge := hsize
      entrySize_dvd := hdvd }
    exact ⟨_, _, hreshaped.validate_sealed hwritten.extension_eq⟩

/-! ## An array that reaches the second header -/

/-- A header in sector one of a disk of 2048 sectors. Its array of 128 entries starts in the last
sector but one. -/
def overrunning : Header where
  revision := 0x10000
  headerSize := 92
  headerCrc := 0x47B187D9
  myLba := 1
  alternateLba := 2047
  firstUsableLba := 34
  lastUsableLba := 2014
  diskGuid := Guid.unused
  entriesLba := 2046
  entryCount := 128
  entrySize := 128
  entriesCrc := 0

theorem crc32Blanked_overrunning :
    crc32Blanked ((overrunning.encode [] 512).take 92) 0x10 0x14 = .ok 0x47B187D9 := by
  have hbefore : Crc32.update Crc32.initial (((overrunning.encode [] 512).take 92).take 0x10)
      = 0x0096CA1E := by decide +kernel
  have hbehind : Crc32.update 0x0BE51EA6 ((((overrunning.encode [] 512).take 92).drop 0x14).take 36)
      = 0x9C990686 := by decide +kernel
  exact crc32Blanked_of_registers 36 (by decide +kernel) hbefore (by decide +kernel) hbehind
    (by decide +kernel)

theorem validate_overrunning :
    validate (overrunning.encode [] 512) .primary 512 2048 = .ok overrunning := by
  have hvalid : overrunning.Valid .primary 512 2048 := by constructor <;> decide
  exact validate_encode hvalid rfl crc32Blanked_overrunning

/-- The header is accepted, although its array takes up the sector of the second header and thirty
sectors behind the end of the disk. -/
theorem overrunning_array_reaches_backup :
    validate (overrunning.encode [] 512) .primary 512 2048 = .ok overrunning
      ∧ overrunning.ArrayCovers 512 2047 ∧ overrunning.ArrayCovers 512 2077
      ∧ max overrunning.myLba.toNat overrunning.alternateLba.toNat = 2047 := by
  exact ⟨validate_overrunning, ⟨by decide, by decide⟩, ⟨by decide, by decide⟩, by decide⟩

/-- What is known of the array of this header: it starts behind the first header, and not all of it
lies in front of the second one. -/
theorem overrunning_array_starts_between :
    validate (overrunning.encode [] 512) .primary 512 2048 = .ok overrunning
      ∧ (∀ lba, overrunning.ArrayCovers 512 lba → 1 < lba)
      ∧ ¬∀ lba, overrunning.ArrayCovers 512 lba → lba < 2047 := by
  obtain ⟨-, hlower, hupper, -⟩ := array_starts_between_headers validate_overrunning
  refine ⟨validate_overrunning, hlower, fun hall => ?_⟩
  exact absurd (hupper.mp hall) (by decide)

end Header

end Gpt

end VolumeScan

/-
VolumeScan.Proofs.Gpt.Encoding — accepted sectors are written sectors.

`Header.WrittenIn` says that a buffer starts with the sector that is written for a header and some
extension, and that the header carries the checksum of this sector. Fields are read one behind the
other and leave no gap but the reserved word, which has to be zero; so from an accepted sector all
of its bytes are known (`Header.writtenIn_of_validate`). The conditions on the numbers in it are
those of `Header.Valid`, and there are no others: a sector is accepted exactly if it is written for
a header that fulfils them (`Header.validate_eq_ok_iff_written`). So nothing of an accepted sector
is lost, and no field is read from the wrong place.
-/
import VolumeScan.Proofs.Crc32
import VolumeScan.Proofs.Gpt.Header
import VolumeScan.Proofs.Guid

namespace VolumeScan

namespace Gpt

namespace Header

variable {header : Header} {buffer extension : Bytes} {slot : HeaderCopy}
  {sectorSize totalSectors : Nat}

/-- The buffer starts with the sector of a header and an extension, and the header carries the
checksum of as many bytes as it announces, computed with zeros in the place of the checksum. -/
structure WrittenIn (header : Header) (buffer extension : Bytes) (sectorSize : Nat) : Prop where
  sector_le : sectorSize ≤ buffer.length
  extension_eq : minHeaderSize + extension.length = header.headerSize.toNat
  sector_eq : buffer.take sectorSize = header.encode extension sectorSize
  headerCrc_eq : header.headerCrc
    = crc32 (Bytes.blank (buffer.take header.headerSize.toNat) crcStart crcStop)

/-- Only the first sector of the buffer is looked at. -/
theorem validate_take (hlength : sectorSize ≤ buffer.length) :
    validate (buffer.take sectorSize) slot sectorSize totalSectors
      = validate buffer slot sectorSize totalSectors := by
  have happend : validate (buffer.take sectorSize ++ buffer.drop sectorSize) slot sectorSize
      totalSectors = validate (buffer.take sectorSize) slot sectorSize totalSectors :=
    validate_append _ (List.length_take_of_le hlength)
  rw [List.take_append_drop] at happend
  exact happend.symm

/-- A written header that fulfils the conditions of the format is accepted. -/
theorem WrittenIn.validate_eq (h : header.WrittenIn buffer extension sectorSize)
    (hvalid : header.Valid slot sectorSize totalSectors) :
    validate buffer slot sectorSize totalSectors = .ok header := by
  have hge := hvalid.headerSize_ge
  have hle := hvalid.headerSize_le
  have hcovered : (header.encode extension sectorSize).take header.headerSize.toNat
      = buffer.take header.headerSize.toNat := by
    rw [← h.sector_eq, List.take_take, Nat.min_eq_left hle]
  have hlength : crcStop ≤ (buffer.take header.headerSize.toNat).length := by
    rw [List.length_take_of_le (Nat.le_trans hle h.sector_le)]
    exact Nat.le_trans (by decide) hge
  have hcrc := (crc32Blanked_eq_ok_iff (by decide) hlength).mpr h.headerCrc_eq
  rw [← hcovered] at hcrc
  rw [← validate_take h.sector_le, h.sector_eq]
  exact validate_encode hvalid h.extension_eq hcrc

/-- A sector is the one that is written for a header, if it starts with the fields of the header and
has zeros behind the announced length. -/
theorem eq_encode_of_fields {sector : Bytes} (hlength : sector.length = sectorSize)
    (hge : minHeaderSize ≤ header.headerSize.toNat) (hle : header.headerSize.toNat ≤ sectorSize)
    (hfields : sector = header.fields.flatten ++ sector.drop minHeaderSize)
    (htail : (sector.drop header.headerSize.toNat).all (· = 0)) :
    ∃ extension : Bytes, minHeaderSize + extension.length = header.headerSize.toNat
      ∧ sector = header.encode extension sectorSize := by
  let extension := (sector.drop minHeaderSize).take (header.headerSize.toNat - minHeaderSize)
  have hextension : minHeaderSize + extension.length = header.headerSize.toNat := by
    rw [List.length_take_of_le (by rw [List.length_drop]; omega)]
    omega
  have hzeros : sector.drop header.headerSize.toNat
      = List.replicate (sectorSize - header.headerSize.toNat) 0 := by
    apply List.eq_replicate_iff.mpr
    exact ⟨by rw [List.length_drop, hlength], by simpa using htail⟩
  have hbehind : sector.drop minHeaderSize = behindFields extension sectorSize := by
    have hrest : sector.drop header.headerSize.toNat
        = (sector.drop minHeaderSize).drop (header.headerSize.toNat - minHeaderSize) := by
      rw [List.drop_drop, Nat.add_sub_cancel' hge]
    rw [behindFields, hextension, ← hzeros, hrest, List.take_append_drop]
  refine ⟨extension, hextension, ?_⟩
  rw [encode_eq_flatten, ← hbehind]
  exact hfields

/-- An accepted buffer starts with the sector that is written for its header. -/
theorem writtenIn_of_validate (h : validate buffer slot sectorSize totalSectors = .ok header) :
    ∃ extension, header.WrittenIn buffer extension sectorSize := by
  unfold validate at h
  simp only [bind_eq_ok_iff, require_eq_ok_iff, exists_const, pure_eq_ok_iff] at h
  obtain ⟨⟨hbuffer, hsector⟩, sector, hcut, start, hstart, hsignature, revision, hrevision, -,
    headerSize, hsize, hge, hle, headerCrc, hcrc, covered, hcovered, crc, hblanked, hcarried,
    reserved, hreserved, hzero, -, myLba, hmy, -, alternateLba, halternate, -, firstUsable, hfirst,
    lastUsable, hlast, -, -, -, diskGuid, hguid, entriesLba, hentries, -, entryCount, hcount, -,
    entrySize, hentry, -, entriesCrc, hentriesCrc, rest, hrest, htail, hheader⟩ := h
  have hlength : sector.length = sectorSize := Bytes.length_of_slice hcut
  rw [Bytes.slice_of_le (by omega), List.drop_zero, Except.ok.injEq] at hcut hcovered
  rw [Bytes.slice_of_le (by omega), Except.ok.injEq,
    List.take_of_length_le (by rw [List.length_drop]; omega)] at hrest
  subst hsignature hzero hcarried hcovered hrest
  have hinside : crcStop ≤ (sector.take headerSize.toNat).length := by
    rw [List.length_take_of_le (by omega)]
    exact Nat.le_trans (by decide) hge
  -- Field by field, from the signature up to the end of the last one.
  have hfields := Bytes.drop_eq_of_slice hstart
  unfold crcStart at hcrc
  rw [Bytes.drop_eq_of_word32 hrevision, Bytes.drop_eq_of_word32 hsize,
    Bytes.drop_eq_of_word32 hcrc, Bytes.drop_eq_of_word32 hreserved, Bytes.drop_eq_of_word64 hmy,
    Bytes.drop_eq_of_word64 halternate, Bytes.drop_eq_of_word64 hfirst,
    Bytes.drop_eq_of_word64 hlast, Bytes.drop_eq_of_slice hguid, Bytes.drop_eq_of_word64 hentries,
    Bytes.drop_eq_of_word32 hcount, Bytes.drop_eq_of_word32 hentry,
    Bytes.drop_eq_of_word32 hentriesCrc] at hfields
  have hstored : (Guid.ofBytes diskGuid).toBytes = diskGuid :=
    Guid.toBytes_ofBytes (Bytes.length_of_slice hguid)
  have hflat : sector = header.fields.flatten ++ sector.drop minHeaderSize := by
    subst hheader
    simpa [fields, hstored, minHeaderSize] using hfields
  subst hheader
  obtain ⟨extension, hextension, hencode⟩ := eq_encode_of_fields hlength hge hle hflat htail
  refine ⟨extension, hbuffer, hextension, hcut.trans hencode, ?_⟩
  rw [crc32Blanked_eq_ok_iff (by decide) hinside, ← hcut, List.take_take,
    Nat.min_eq_left hle] at hblanked
  exact hblanked

/-- **What is accepted as a header.** A buffer is accepted as the sector of a header exactly if it
holds a sector of at least 92 bytes; its first sector is written for this header and some extension
up to the announced length, with zeros behind it; the header carries the checksum of the announced
bytes, computed with zeros in the place of the checksum; and it fulfils the conditions of the
format. -/
theorem validate_eq_ok_iff_written (buffer : Bytes) (slot : HeaderCopy)
    (sectorSize totalSectors : Nat) (header : Header) :
    validate buffer slot sectorSize totalSectors = .ok header ↔
      (sectorSize ≤ buffer.length ∧ 92 ≤ sectorSize)
        ∧ (∃ extension : Bytes, 92 + extension.length = header.headerSize.toNat
          ∧ buffer.take sectorSize = header.encode extension sectorSize)
        ∧ header.headerCrc
          = crc32 (Bytes.blank (buffer.take header.headerSize.toNat) 0x10 0x14)
        ∧ header.Valid slot sectorSize totalSectors := by
  constructor
  · intro h
    have hvalid := validate_valid h
    obtain ⟨extension, hwritten⟩ := writtenIn_of_validate h
    exact ⟨⟨hwritten.sector_le, Nat.le_trans hvalid.headerSize_ge hvalid.headerSize_le⟩,
      ⟨extension, hwritten.extension_eq, hwritten.sector_eq⟩, hwritten.headerCrc_eq, hvalid⟩
  · intro h
    obtain ⟨⟨hbuffer, -⟩, ⟨extension, hextension, hsector⟩, hcrc, hvalid⟩ := h
    exact WrittenIn.validate_eq ⟨hbuffer, hextension, hsector, hcrc⟩ hvalid

end Header

end Gpt

end VolumeScan

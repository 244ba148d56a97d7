/-
VolumeScan.Proofs.Mbr.Encoding — a legacy table is the last 66 bytes of its sector.

The fields of an entry are read one behind the other and leave no gap, and so are the entries and
the signature. So where a table is read, the sector goes on with the table as it is written
(`Mbr.drop_eq_of_ofSector`). Tables are written differently, if the addresses in them have room in
their packed form (`Mbr.encode_inj`); those that are read do. Both together say which table is read
from a sector: the one, of those with room, that is written as the end of the sector
(`Mbr.ofSector_eq_ok_iff`). Reading a written table back is one direction of this, that no bit of
the 66 bytes is lost is the other.
-/
import VolumeScan.Proofs.Bytes
import VolumeScan.Proofs.Chs
import VolumeScan.Proofs.Mbr

namespace VolumeScan

namespace Mbr

/-! ## Entries -/

namespace Entry

/-- The addresses in the entry have room in their packed form. -/
structure Packable (entry : Entry) : Prop where
  firstChs : entry.firstChs.Packable
  lastChs : entry.lastChs.Packable

/-- The fields of an entry as they stand in the table. -/
def fields (entry : Entry) : List Bytes :=
  [[entry.status],
    entry.firstChs.pack,
    [entry.typeCode],
    entry.lastChs.pack,
    LittleEndian.encode 4 entry.firstLba.toNat,
    LittleEndian.encode 4 entry.sectors.toNat]

theorem encode_eq_flatten (entry : Entry) : entry.encode = entry.fields.flatten := by
  simp [encode, fields]

/-- The lengths of the fields. -/
theorem map_length_fields (entry : Entry) :
    entry.fields.map List.length = [1, 3, 1, 3, 4, 4] := by
  simp [fields, Chs.pack]

theorem length_encode (entry : Entry) : entry.encode.length = 16 := by
  rw [encode_eq_flatten, List.length_flatten, map_length_fields]
  rfl

/-- Entries with room for their addresses are written alike only if they are equal. -/
theorem encode_inj {entry entry' : Entry} (h : entry.Packable) (h' : entry'.Packable) :
    entry.encode = entry'.encode ↔ entry = entry' := by
  constructor
  · intro hencode
    have hfields : entry.fields = entry'.fields := by
      rw [List.eq_iff_flatten_eq, ← encode_eq_flatten, ← encode_eq_flatten, map_length_fields,
        map_length_fields]
      exact ⟨hencode, rfl⟩
    simp only [fields, List.cons.injEq, and_true, Chs.pack_inj h.firstChs h'.firstChs,
      Chs.pack_inj h.lastChs h'.lastChs, LittleEndian.encode_inj32] at hfields
    cases entry
    cases entry'
    simpa using hfields
  · intro heq
    rw [heq]

/-- Where an entry is read, the buffer goes on with it. -/
theorem drop_eq_of_ofBytes {bytes : Bytes} {start : Nat} {entry : Entry}
    (h : ofBytes bytes start = .ok entry) :
    entry.Packable ∧ bytes.drop start = entry.encode ++ bytes.drop (start + 16) := by
  unfold ofBytes at h
  simp only [bind_eq_ok_iff, pure_eq_ok_iff] at h
  obtain ⟨status, hstatus, first0, hfirst0, first1, hfirst1, first2, hfirst2, typeCode, htype,
    last0, hlast0, last1, hlast1, last2, hlast2, firstLba, hlba, sectors, hsectors, rfl⟩ := h
  refine ⟨⟨Chs.packable_ofPacked _ _ _, Chs.packable_ofPacked _ _ _⟩, ?_⟩
  rw [Bytes.drop_eq_of_byte hstatus, Bytes.drop_eq_of_byte hfirst0, Bytes.drop_eq_of_byte hfirst1,
    Bytes.drop_eq_of_byte hfirst2, Bytes.drop_eq_of_byte htype, Bytes.drop_eq_of_byte hlast0,
    Bytes.drop_eq_of_byte hlast1, Bytes.drop_eq_of_byte hlast2, Bytes.drop_eq_of_word32 hlba,
    Bytes.drop_eq_of_word32 hsectors]
  simp [encode, Chs.pack_ofPacked]

end Entry

/-! ## Tables -/

/-- The addresses in all entries have room in their packed form. -/
def Packable (mbr : Mbr) : Prop := ∀ entry ∈ mbr.entries.toList, entry.Packable

/-- The entries and the signature as they stand in the sector. -/
def fields (mbr : Mbr) : List Bytes :=
  mbr.entries.toList.map Entry.encode ++ [LittleEndian.encode 2 mbr.signature.toNat]

theorem encode_eq_flatten (mbr : Mbr) : mbr.encode = mbr.fields.flatten := by
  simp [encode, fields, List.flatMap]

/-- The lengths of the entries and the signature. -/
theorem map_length_fields (mbr : Mbr) : mbr.fields.map List.length = [16, 16, 16, 16, 2] := by
  have hentries : mbr.entries.toList.map (List.length ∘ Entry.encode) = List.replicate 4 16 := by
    rw [List.map_congr_left fun entry _ => entry.length_encode, List.map_const',
      Vector.length_toList]
  rw [fields, List.map_append, List.map_map, hentries]
  rfl

theorem length_encode (mbr : Mbr) : mbr.encode.length = 66 := by
  rw [encode_eq_flatten, List.length_flatten, map_length_fields]
  rfl

/-- Tables with room for their addresses are written alike only if they are equal. -/
theorem encode_inj {mbr mbr' : Mbr} (h : mbr.Packable) (h' : mbr'.Packable) :
    mbr.encode = mbr'.encode ↔ mbr = mbr' := by
  constructor
  · intro hencode
    have hfields : mbr.fields = mbr'.fields := by
      rw [List.eq_iff_flatten_eq, ← encode_eq_flatten, ← encode_eq_flatten, map_length_fields,
        map_length_fields]
      exact ⟨hencode, rfl⟩
    obtain ⟨hentries, hsignature⟩ := List.append_inj hfields (by simp)
    obtain ⟨entries, signature⟩ := mbr
    obtain ⟨entries', signature'⟩ := mbr'
    have hsame : entries = entries' := by
      ext1 i hi
      have hat := congrArg (·[i]?) hentries
      simp only [List.getElem?_map, Vector.getElem?_toList, Vector.getElem?_eq_getElem hi,
        Option.map_some, Option.some.injEq] at hat
      exact (Entry.encode_inj (h _ (by simp)) (h' _ (by simp))).mp hat
    have hword : signature = signature' :=
      LittleEndian.encode_inj16.mp (List.singleton_inj.mp hsignature)
    rw [hsame, hword]
  · intro heq
    rw [heq]

variable {sector : Bytes} {mbr : Mbr}

/-- Where a table is read, the sector ends with it. -/
theorem drop_eq_of_ofSector (hlength : sector.length = sectorSize)
    (h : ofSector sector = .ok mbr) : mbr.Packable ∧ sector.drop firstEntry = mbr.encode := by
  unfold ofSector at h
  simp only [bind_eq_ok_iff, pure_eq_ok_iff] at h
  obtain ⟨entry0, h0, entry1, h1, entry2, h2, entry3, h3, signature, hsignature, rfl⟩ := h
  obtain ⟨hroom0, hdrop0⟩ := Entry.drop_eq_of_ofBytes h0
  obtain ⟨hroom1, hdrop1⟩ := Entry.drop_eq_of_ofBytes h1
  obtain ⟨hroom2, hdrop2⟩ := Entry.drop_eq_of_ofBytes h2
  obtain ⟨hroom3, hdrop3⟩ := Entry.drop_eq_of_ofBytes h3
  have hend : sector.drop (firstEntry + 64 + 2) = [] :=
    List.drop_eq_nil_of_le (Nat.le_of_eq hlength)
  constructor
  · intro entry hmem
    simp only [Vector.toList_mk, List.mem_cons, List.not_mem_nil, or_false] at hmem
    obtain rfl | rfl | rfl | rfl := hmem
    · exact hroom0
    · exact hroom1
    · exact hroom2
    · exact hroom3
  · rw [hdrop0, hdrop1, hdrop2, hdrop3, Bytes.drop_eq_of_word16 hsignature, hend]
    simp [encode]

/-- **The table of a sector** is the one with room for its addresses that is written as the end of
the sector. -/
theorem ofSector_eq_ok_iff (hlength : sector.length = sectorSize) :
    ofSector sector = .ok mbr ↔ mbr.Packable ∧ sector.drop firstEntry = mbr.encode := by
  constructor
  · intro h
    exact drop_eq_of_ofSector hlength h
  · intro h
    obtain ⟨hroom, hencode⟩ := h
    obtain ⟨found, hfound⟩ := exists_ofSector hlength
    obtain ⟨hroom', hencode'⟩ := drop_eq_of_ofSector hlength hfound
    rw [hfound, (encode_inj hroom' hroom).mp (hencode'.symm.trans hencode)]

/-- Sectors have the same table exactly if they end alike. -/
theorem ofSector_eq_ofSector_iff {sector' : Bytes} (hlength : sector.length = sectorSize)
    (hlength' : sector'.length = sectorSize) :
    ofSector sector = ofSector sector' ↔ sector.drop firstEntry = sector'.drop firstEntry := by
  obtain ⟨mbr, hmbr⟩ := exists_ofSector hlength
  obtain ⟨hroom, hencode⟩ := drop_eq_of_ofSector hlength hmbr
  rw [hmbr, eq_comm, ofSector_eq_ok_iff hlength', hencode, eq_comm (a := mbr.encode)]
  exact and_iff_right hroom

/-- **A legacy table is decoded without loss.** A table is written in 66 bytes. From every sector of
512 bytes a table is read, and written again it is the last 66 bytes of the sector. A table in which
every cylinder is below 1024 and every sector of an address below 64 is read back from every sector
that ends with it as it is written, whatever stands in front of it. And the same table is read from
two sectors exactly if they agree on these bytes. -/
theorem decoding_is_lossless :
    (∀ mbr : Mbr, mbr.encode.length = 66)
      ∧ (∀ sector : Block 512, ∃ mbr, ofSector sector.val = .ok mbr
        ∧ mbr.encode = sector.val.drop 446)
      ∧ (∀ (mbr : Mbr) (sector : Block 512),
        (∀ entry ∈ mbr.entries.toList,
          (entry.firstChs.cylinder.toNat < 1024 ∧ entry.firstChs.sector.toNat < 64)
            ∧ (entry.lastChs.cylinder.toNat < 1024 ∧ entry.lastChs.sector.toNat < 64)) →
        sector.val.drop 446 = mbr.encode → ofSector sector.val = .ok mbr)
      ∧ ∀ sector sector' : Block 512, ofSector sector.val = ofSector sector'.val
        ↔ sector.val.drop 446 = sector'.val.drop 446 := by
  refine ⟨length_encode, ?_, ?_, ?_⟩
  · intro sector
    obtain ⟨mbr, hmbr⟩ := exists_ofSector sector.property
    exact ⟨mbr, hmbr, (drop_eq_of_ofSector sector.property hmbr).2.symm⟩
  · intro mbr sector hroom hencode
    have hpackable : mbr.Packable := by
      intro entry hmem
      obtain ⟨hfirst, hlast⟩ := hroom entry hmem
      exact ⟨⟨hfirst.1, hfirst.2⟩, ⟨hlast.1, hlast.2⟩⟩
    exact (ofSector_eq_ok_iff sector.property).mpr ⟨hpackable, hencode⟩
  · intro sector sector'
    exact ofSector_eq_ofSector_iff sector.property sector'.property

/-! ## A table that uses every bit -/

/-- A table that no disk has: the largest address that can be packed, sectors that count from zero,
and another signature than that of a table. -/
def oddTable : Mbr :=
  let entry : Entry := ⟨0x7F, ⟨1023, 255, 63⟩, 0x0C, ⟨256, 0, 0⟩, 0x01020304, 0xFFFFFFFE⟩
  ⟨#v[entry, { entry with status := 0x80 }, { entry with typeCode := 0xEE }, entry], 0x1234⟩

/-- It is read back from a sector with something in front of it. -/
theorem oddTable_read_back :
    let sector := List.replicate 446 0x90 ++ oddTable.encode
    sector.length = 512 ∧ oddTable.encode.drop 64 = [0x34, 0x12]
      ∧ ofSector sector = .ok oddTable := by
  intro sector
  have hlength : sector.length = 512 := by
    rw [List.length_append, List.length_replicate, length_encode]
  have hend : sector.drop 446 = oddTable.encode := List.drop_left' List.length_replicate
  obtain ⟨-, -, hread, -⟩ := decoding_is_lossless
  exact ⟨hlength, by decide, hread oddTable ⟨sector, hlength⟩ (by decide) hend⟩

end Mbr

end VolumeScan

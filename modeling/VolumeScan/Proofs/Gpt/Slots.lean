/-
VolumeScan.Proofs.Gpt.Slots — entry arrays as they are written.

A slot of an entry array is an entry and whatever stands behind it up to the announced size
(`Slot.encode`). A written entry is read back from the start of its slot (`Entry.ofBytes_encode`),
and an array cut by the announced size falls into its slots (`pieces_flatMap`). So the entries of a
written array are those that were written, all of them, in order and each at its place
(`Header.entries_written`); what stands behind the array makes no difference, neither to that nor to
whether the array is admitted (`Header.admitArray_append`).
-/
import VolumeScan.Proofs.Bytes
import VolumeScan.Proofs.Gpt.Table

namespace VolumeScan

namespace Gpt

/-! ## Written entries -/

namespace Entry

/-- The units of a label, as they are written. -/
def unitBytes (units : Vector UInt16 36) : Bytes :=
  units.toList.flatMap fun unit => LittleEndian.encode 2 unit.toNat

/-- The fields of an entry as they stand in its slot. -/
def fields (entry : Entry) : List Bytes :=
  [entry.typeGuid.toBytes,
    entry.partitionGuid.toBytes,
    LittleEndian.encode 8 entry.firstLba.toNat,
    LittleEndian.encode 8 entry.lastLba.toNat,
    LittleEndian.encode 8 entry.attributes.toNat,
    unitBytes entry.units]

theorem length_unitBytes (units : Vector UInt16 36) : (unitBytes units).length = 72 := by
  rw [unitBytes, length_flatMap_of_forall fun _ _ => LittleEndian.length_encode 2 _,
    Vector.length_toList]

/-- The units of a label are read back. -/
theorem ofFn_decode_unitBytes (units : Vector UInt16 36) :
    (Vector.ofFn fun i : Fin 36 =>
      UInt16.ofNat (LittleEndian.decode (((unitBytes units).drop (2 * i)).take 2))) = units := by
  ext i hi
  have hpiece : ((unitBytes units).drop (2 * i)).take 2 = LittleEndian.encode 2 units[i].toNat := by
    rw [← List.append_nil (unitBytes units), Nat.mul_comm]
    exact take_drop_flatMap (fun _ _ => LittleEndian.length_encode 2 _) [] (by simp [hi])
  have hunit : units[i].toNat % 256 ^ 2 = units[i].toNat := Nat.mod_eq_of_lt units[i].toNat_lt
  rw [Vector.getElem_ofFn, hpiece, LittleEndian.decode_encode, hunit, UInt16.ofNat_toNat]

theorem encode_eq_flatten (entry : Entry) : entry.encode = entry.fields.flatten := by
  simp [encode, fields, unitBytes]

/-- The lengths of the fields. -/
theorem map_length_fields (entry : Entry) :
    entry.fields.map List.length = [16, 16, 8, 8, 8, 72] := by
  simp [fields, length_unitBytes]

theorem length_encode (entry : Entry) : entry.encode.length = Header.minEntrySize := by
  rw [encode_eq_flatten, List.length_flatten, map_length_fields]
  rfl

/-- Where a field of an entry starts. -/
theorem length_take_fields (entry : Entry) (index : Nat) :
    (entry.fields.take index).flatten.length
      = ([16, 16, 8, 8, 8, 72].take index).foldr (· + ·) 0 := by
  rw [List.length_flatten, List.map_take, map_length_fields, List.sum_eq_foldr]

/-- **A written entry is read back**, whatever stands behind it. -/
theorem ofBytes_encode (entry : Entry) (rest : Bytes) :
    ofBytes (entry.encode ++ rest) = .ok entry := by
  have hstart := entry.length_take_fields
  rw [encode_eq_flatten]
  unfold ofBytes
  simp only [bind_eq_ok_iff, pure_eq_ok_iff]
  refine ⟨_, Bytes.slice_flatten rest rfl (hstart 5) (length_unitBytes entry.units),
    _, Bytes.slice_flatten rest rfl (hstart 0) entry.typeGuid.length_toBytes,
    _, Bytes.slice_flatten rest rfl (hstart 1) entry.partitionGuid.length_toBytes,
    _, Bytes.word64_flatten rest rfl (hstart 2),
    _, Bytes.word64_flatten rest rfl (hstart 3),
    _, Bytes.word64_flatten rest rfl (hstart 4), ?_⟩
  rw [Guid.ofBytes_toBytes, Guid.ofBytes_toBytes, ofFn_decode_unitBytes]

end Entry

/-! ## Written arrays -/

/-- A slot of an entry array: an entry, and what stands behind it up to the announced size. -/
structure Slot where
  entry : Entry
  padding : Bytes
deriving DecidableEq, Repr

/-- The bytes of a slot. -/
def Slot.encode (slot : Slot) : Bytes := slot.entry.encode ++ slot.padding

theorem Slot.length_encode (slot : Slot) :
    slot.encode.length = Header.minEntrySize + slot.padding.length := by
  rw [Slot.encode, List.length_append, Entry.length_encode]

/-- A string of slots of one size is cut into its slots. -/
theorem pieces_flatMap {size : Nat} {slots : List Slot}
    (hsize : ∀ slot ∈ slots, slot.encode.length = size) (rest : Bytes) :
    pieces size slots.length (slots.flatMap Slot.encode ++ rest) = slots.map Slot.encode := by
  induction slots with
  | nil => rfl
  | cons slot slots ih =>
    obtain ⟨hslot, hslots⟩ := List.forall_mem_cons.mp hsize
    rw [List.length_cons, pieces, List.flatMap_cons, List.append_assoc, List.take_left' hslot,
      List.drop_left' hslot, ih hslots, List.map_cons]

namespace Header

/-- The array has a slot for every announced entry, each of the announced size. -/
structure Announces (header : Header) (slots : List Slot) : Prop where
  length_eq : slots.length = header.entryCount.toNat
  size_ge : minEntrySize ≤ header.entrySize.toNat
  size_eq : ∀ slot ∈ slots, minEntrySize + slot.padding.length = header.entrySize.toNat

/-- The used ones among the slots of an array, each with its place. -/
def usedSlots (slots : List Slot) : List (Nat × Entry) :=
  (slots.zipIdx.filter fun (slot, _) => slot.entry.typeGuid ≠ Guid.unused).map
    fun (slot, index) => (index, slot.entry)

variable {header : Header} {slots : List Slot}

theorem Announces.length_encode (h : header.Announces slots) :
    ∀ slot ∈ slots, slot.encode.length = header.entrySize.toNat := by
  intro slot hmem
  rw [Slot.length_encode, h.size_eq slot hmem]

/-- A written array has the announced length. -/
theorem Announces.length_written (h : header.Announces slots) :
    (slots.flatMap Slot.encode).length = header.arrayLen := by
  rw [length_flatMap_of_forall h.length_encode, h.length_eq, arrayLen]

/-- The entries of a written array are those that were written. -/
theorem slots_written (h : header.Announces slots) (rest : Bytes) :
    header.slots (slots.flatMap Slot.encode ++ rest) = .ok (slots.map Slot.entry) := by
  have hstride : header.stride = header.entrySize.toNat := Nat.max_eq_left h.size_ge
  have hpos : 0 < header.entrySize.toNat := Nat.lt_of_lt_of_le (by decide) h.size_ge
  have hwhole : header.entryCount.toNat
      ≤ (slots.flatMap Slot.encode ++ rest).length / header.entrySize.toNat := by
    rw [Nat.le_div_iff_mul_le hpos, List.length_append, h.length_written, arrayLen]
    exact Nat.le_add_right _ _
  rw [Header.slots, hstride, Nat.min_eq_left hwhole, ← h.length_eq,
    pieces_flatMap h.length_encode rest, mapM_eq_ok_iff, List.map_map, List.map_map]
  exact List.map_congr_left fun slot _ => slot.entry.ofBytes_encode slot.padding

/-- **The entries of a written array** are the used ones that were written, in order and each with
its place. -/
theorem entries_written (h : header.Announces slots) (rest : Bytes) :
    header.entries (slots.flatMap Slot.encode ++ rest) = .ok (usedSlots slots) := by
  have hused : ∀ item : Slot × Nat,
      item.1.entry.isUsed = decide (item.1.entry.typeGuid ≠ Guid.unused) := by
    intro item
    simp [Entry.isUsed, Guid.isUnused]
  rw [entries, slots_written h rest]
  show Except.ok _ = _
  rw [usedSlots, ← List.filter_congr fun item _ => hused item, List.zipIdx_map, List.map_map,
    List.filter_map]
  rfl

/-- Only the announced bytes of a table are looked at. -/
theorem admitArray_append {array : Bytes} (hlength : array.length = header.arrayLen)
    (rest : Bytes) : header.admitArray (array ++ rest) = header.admitArray array := by
  have hslice : ∀ rest, Bytes.slice (array ++ rest) 0 header.arrayLen = .ok array := by
    intro rest
    rw [Bytes.slice_append_of_le (Nat.le_of_eq hlength.symm) rest, ← hlength, List.take_length]
  have hself := hslice []
  rw [List.append_nil] at hself
  unfold admitArray
  rw [hslice rest, hself, require_of_pos _ (by rw [List.length_append]; omega),
    require_of_pos _ (Nat.le_of_eq hlength.symm)]

/-- A table that is shorter than announced is rejected. -/
theorem admitArray_of_short {table : Bytes} (hshort : table.length < header.arrayLen) :
    header.admitArray table = .error (.invalid .truncatedTable) := by
  unfold admitArray
  rw [require_of_neg _ (Nat.not_le.mpr hshort)]
  rfl

/-- **An entry array is decoded completely, in order and without loss.** Take any list of slots, as
many as a header announces: in each of them any entry, and behind it any bytes up to the announced
size, which is at least the 128 bytes of an entry. Written one after another, and whatever follows
them, they have exactly the entries that were written and whose type is not all zeros, in order and
each with the number of its slot. They are admitted exactly if the announced checksum is that of the
announced bytes, and all of these entries lie in the usable area. A table with fewer bytes than
announced is rejected, whatever is in it. -/
theorem written_array_is_decoded (header : Header) (slots : List Slot)
    (hsize : 128 ≤ header.entrySize.toNat) (hcount : slots.length = header.entryCount.toNat)
    (hslots : ∀ slot ∈ slots, 128 + slot.padding.length = header.entrySize.toNat) :
    let len := header.entryCount.toNat * header.entrySize.toNat
    let used := (slots.zipIdx.filter fun (slot, _) => slot.entry.typeGuid ≠ Guid.unused).map
      fun (slot, index) => (index, slot.entry)
    (∀ rest : Bytes,
        let table := slots.flatMap Slot.encode ++ rest
        header.entries table = .ok used
          ∧ (header.admitArray table = .ok () ↔
            header.entriesCrc = crc32 (table.take len)
              ∧ ∀ index entry, (index, entry) ∈ used →
                header.firstUsableLba ≤ entry.firstLba ∧ entry.firstLba ≤ entry.lastLba
                  ∧ entry.lastLba ≤ header.lastUsableLba))
      ∧ ∀ table : Bytes, table.length < len →
        header.admitArray table = .error (.invalid .truncatedTable) := by
  intro len used
  have hannounces : header.Announces slots := ⟨hcount, hsize, hslots⟩
  have hlength : (slots.flatMap Slot.encode).length = header.arrayLen := hannounces.length_written
  refine ⟨fun rest => ⟨entries_written hannounces rest, ?_⟩, fun table => admitArray_of_short⟩
  have hwritten : header.usedEntries (slots.flatMap Slot.encode) = used := by
    have hentries := entries_written hannounces []
    rw [List.append_nil, entries_eq hlength hsize] at hentries
    exact Except.ok.inj hentries
  have hcovered : (slots.flatMap Slot.encode ++ rest).take len = slots.flatMap Slot.encode :=
    List.take_left' hlength
  rw [admitArray_append hlength, admitArray_eq_ok_iff hlength hsize, hwritten, hcovered]
  exact and_congr_right fun _ => Prod.forall

/-! ## An array with an unused slot -/

/-- Three slots with eight bytes behind each entry. The second one is not in use. -/
def sparseSlots : List Slot :=
  let first : Entry := ⟨Guid.efiSystem, Guid.unused, 40, 99, 1, Vector.replicate 36 0x41⟩
  [⟨first, List.replicate 8 0xFF⟩,
    ⟨{ first with typeGuid := Guid.unused }, List.replicate 8 0x00⟩,
    ⟨{ first with firstLba := 100, lastLba := 100 }, List.replicate 8 0x11⟩]

/-- A header that announces them. -/
def sparseHeader : Header where
  revision := 0x10000
  headerSize := 92
  headerCrc := 0
  myLba := 1
  alternateLba := 2047
  firstUsableLba := 34
  lastUsableLba := 2014
  diskGuid := Guid.unused
  entriesLba := 2
  entryCount := 3
  entrySize := 136
  entriesCrc := crc32 (sparseSlots.flatMap Slot.encode)

/-- The third slot keeps its number behind the unused one, and the bytes that follow the array are
not looked at. -/
theorem sparseSlots_decoded :
    let table := sparseSlots.flatMap Slot.encode ++ [0x01, 0x02, 0x03]
    sparseSlots.length = sparseHeader.entryCount.toNat
      ∧ (∀ slot ∈ sparseSlots, 128 + slot.padding.length = sparseHeader.entrySize.toNat)
      ∧ (sparseHeader.entries table).map (·.map fun item => (item.1, item.2.firstLba))
        = .ok [(0, 40), (2, 100)]
      ∧ sparseHeader.admitArray table = .ok ()
      ∧ sparseHeader.admitArray (table.take 407) = .error (.invalid .truncatedTable) := by
  intro table
  have hslots : ∀ slot ∈ sparseSlots, 128 + slot.padding.length = sparseHeader.entrySize.toNat := by
    decide
  obtain ⟨hwritten, hshort⟩ :=
    written_array_is_decoded sparseHeader sparseSlots (by decide) rfl hslots
  obtain ⟨hentries, hadmits⟩ := hwritten [0x01, 0x02, 0x03]
  have hannounces : sparseHeader.Announces sparseSlots := ⟨rfl, by decide, hslots⟩
  have husable : ∀ item ∈ usedSlots sparseSlots, sparseHeader.Admits item.2 := by decide
  refine ⟨rfl, hslots, ?_, hadmits.mpr ⟨?_, ?_⟩, hshort _ ?_⟩
  · rw [hentries]
    rfl
  · exact congrArg crc32 (List.take_left' hannounces.length_written).symm
  · intro index entry hmem
    exact husable _ hmem
  · rw [List.length_take]
    exact Nat.lt_of_le_of_lt (Nat.min_le_left _ _) (by decide)

end Header

end Gpt

end VolumeScan

/-
VolumeScan.Proofs.Gpt.Table — which entries an entry array has, and when it is accepted.

`Header.entryAt? array i` is the entry at place `i` of an array, cut out of it directly; the used
ones among all announced places are `Header.usedEntries`. On an array of the announced length,
`Header.entries` lists exactly these (`entries_eq`): it neither fails nor skips nor shifts a place.
So an array is accepted exactly if it has the announced checksum and every used entry in it lies in
the usable area (`admitArray_eq_ok_iff`).
-/
import VolumeScan.Gpt.Table

namespace VolumeScan

namespace Gpt

/-- An entry can be read from any 128 bytes. -/
theorem Entry.exists_ofBytes {bytes : Bytes} (h : Header.minEntrySize ≤ bytes.length) :
    ∃ entry, Entry.ofBytes bytes = .ok entry := by
  unfold Header.minEntrySize at h
  have hslice : ∀ start len, start + len ≤ 128 →
      Bytes.slice bytes start len = .ok ((bytes.drop start).take len) :=
    fun start len hle => Bytes.slice_of_le (by omega)
  unfold Entry.ofBytes Bytes.word64
  rw [hslice 0x38 72 (by decide), hslice 0x00 16 (by decide), hslice 0x10 16 (by decide),
    hslice 0x20 8 (by decide), hslice 0x28 8 (by decide), hslice 0x30 8 (by decide)]
  exact ⟨_, rfl⟩

/-- The pieces of a string of bytes, each by its place. -/
theorem pieces_eq_map (size count : Nat) (bytes : Bytes) :
    pieces size count bytes
      = (List.range count).map fun i => (bytes.drop (i * size)).take size := by
  induction count generalizing bytes with
  | zero => rfl
  | succ count ih =>
    rw [pieces, ih, List.range_succ_eq_map, List.map_cons, List.map_map]
    simp only [Nat.zero_mul, List.drop_zero, List.cons.injEq, true_and]
    apply List.map_congr_left
    intro i _
    simp only [List.drop_drop, Function.comp_apply, Nat.succ_mul, Nat.add_comm]

namespace Header

/-- The entry at a place of an array, if the array has that many bytes. -/
def entryAt? (header : Header) (array : Bytes) (index : Nat) : Option Entry :=
  let size := header.entrySize.toNat
  (Entry.ofBytes ((array.drop (index * size)).take size)).toOption

/-- The used entries at the announced places of an array, each with its place. -/
def usedEntries (header : Header) (array : Bytes) : List (Nat × Entry) :=
  (List.range header.entryCount.toNat).filterMap fun index =>
    ((header.entryAt? array index).filter (·.isUsed)).map (index, ·)

/-- The used entries are those at an announced place that do not have the unused type. -/
theorem mem_usedEntries_iff {header : Header} {array : Bytes} {index : Nat} {entry : Entry} :
    (index, entry) ∈ header.usedEntries array ↔
      index < header.entryCount.toNat ∧ header.entryAt? array index = some entry
        ∧ entry.isUsed = true := by
  simp only [usedEntries, List.mem_filterMap, List.mem_range, Option.map_eq_some_iff,
    Option.filter_eq_some_iff, Prod.mk.injEq]
  constructor
  · intro h
    obtain ⟨i, hi, e, ⟨hat, hused⟩, rfl, rfl⟩ := h
    exact ⟨hi, hat, hused⟩
  · intro h
    obtain ⟨hi, hat, hused⟩ := h
    exact ⟨index, hi, entry, ⟨hat, hused⟩, rfl, rfl⟩

/-- Places in an array of the announced length hold the announced number of bytes. -/
theorem length_piece {header : Header} {array : Bytes} (hlength : array.length = header.arrayLen)
    {index : Nat} (hindex : index < header.entryCount.toNat) :
    ((array.drop (index * header.entrySize.toNat)).take header.entrySize.toNat).length
      = header.entrySize.toNat := by
  have hend : (index + 1) * header.entrySize.toNat ≤ header.arrayLen :=
    Nat.mul_le_mul_right _ hindex
  rw [Nat.succ_mul] at hend
  rw [List.length_take, List.length_drop, hlength]
  omega

/-- Numbering decoded entries and keeping the used ones is looking at every place in turn. -/
theorem filter_zipIdx_eq_filterMap {decode : Nat → Except Error Entry} {start count : Nat}
    {entries : List Entry} (h : (List.range' start count).map decode = entries.map .ok) :
    ((entries.zipIdx start).map fun (entry, index) => (index, entry)).filter (·.2.isUsed)
      = (List.range' start count).filterMap fun index =>
          ((decode index).toOption.filter (·.isUsed)).map (index, ·) := by
  induction count generalizing start entries with
  | zero =>
    have hnil : entries = [] := List.map_eq_nil_iff.mp h.symm
    rw [hnil]
    rfl
  | succ count ih =>
    cases entries with
    | nil => simp at h
    | cons entry rest =>
      simp only [List.range'_succ, List.map_cons, List.cons.injEq] at h
      obtain ⟨hfirst, hrest⟩ := h
      have hoption : (decode start).toOption = some entry := by rw [hfirst]; rfl
      rw [List.zipIdx_cons, List.map_cons, List.filter_cons, List.range'_succ,
        List.filterMap_cons, ih hrest, hoption, Option.filter_some]
      cases entry.isUsed <;> rfl

/-- **Completeness of `entries`**: of an array of the announced length it lists exactly the used
entries, in order and each with its place. -/
theorem entries_eq {header : Header} {array : Bytes} (hlength : array.length = header.arrayLen)
    (hsize : minEntrySize ≤ header.entrySize.toNat) :
    header.entries array = .ok (header.usedEntries array) := by
  let decode := fun index => Entry.ofBytes
    ((array.drop (index * header.entrySize.toNat)).take header.entrySize.toNat)
  have hstride : header.stride = header.entrySize.toNat := Nat.max_eq_left hsize
  have hcount : min header.entryCount.toNat (array.length / header.entrySize.toNat)
      = header.entryCount.toNat := by
    rw [hlength, arrayLen, Nat.mul_div_cancel _ (Nat.lt_of_lt_of_le (by decide) hsize)]
    exact Nat.min_self _
  have hdecode : ∀ index ∈ List.range header.entryCount.toNat,
      ∃ entry, decode index = .ok entry := by
    intro index hindex
    apply Entry.exists_ofBytes
    rwa [length_piece hlength (List.mem_range.mp hindex)]
  obtain ⟨entries, hmapM⟩ := exists_mapM_eq_ok hdecode
  have hentries := mapM_eq_ok_iff.mp hmapM
  have hslots : header.slots array = .ok entries := by
    rw [slots, hstride, hcount, pieces_eq_map, mapM_eq_ok_iff, List.map_map]
    exact hentries
  rw [List.range_eq_range'] at hentries
  have hfilter := filter_zipIdx_eq_filterMap hentries
  rw [Header.entries, hslots, usedEntries, List.range_eq_range']
  exact congrArg Except.ok hfilter

/-- An array of the announced length is accepted exactly if it has the announced checksum and every
used entry in it lies in the usable area. -/
theorem admitArray_eq_ok_iff {header : Header} {array : Bytes}
    (hlength : array.length = header.arrayLen) (hsize : minEntrySize ≤ header.entrySize.toNat) :
    header.admitArray array = .ok () ↔
      header.entriesCrc = crc32 array
        ∧ ∀ item ∈ header.usedEntries array, header.Admits item.2 := by
  have hslice : Bytes.slice array 0 header.arrayLen = .ok array := by
    rw [Bytes.slice_of_le (by omega), ← hlength, List.drop_zero, List.take_length]
  unfold admitArray
  simp only [bind_eq_ok_iff, require_eq_ok_iff, exists_const, hslice, entries_eq hlength hsize,
    Except.ok.injEq, exists_eq_left', hlength, Nat.le_refl, true_and]

end Header

end Gpt

end VolumeScan

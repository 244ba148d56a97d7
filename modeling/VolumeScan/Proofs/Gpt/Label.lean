/-
VolumeScan.Proofs.Gpt.Label — names of partitions.

The label of an entry is the last 72 of its 128 bytes, 36 units, and it ends in front of the first
unit that is zero (`Entry.StopsAt`). What stands behind this place is not looked at, so a high
surrogate right in front of it has no partner. Whatever the units are, the entry can be read, and
its name stands for them with the unpaired surrogates replaced. A text without NUL that takes 36
units at most can be stored (`Entry.storedLabel`), and it is the name of every entry that it is
stored in (`Entry.name_of_storedLabel`).
-/
import VolumeScan.Proofs.Gpt.Slots
import VolumeScan.Proofs.Utf16

namespace VolumeScan

namespace Gpt

namespace Entry

variable {bytes : Bytes} {entry : Entry} {text : List Char}

/-! ## The units of a label -/

/-- The units of an entry are the words of the field behind its attributes. -/
theorem units_of_ofBytes (h : ofBytes bytes = .ok entry) :
    0x38 + 72 ≤ bytes.length ∧ entry.units = Vector.ofFn fun i : Fin 36 =>
      UInt16.ofNat (LittleEndian.decode ((((bytes.drop 0x38).take 72).drop (2 * i)).take 2)) := by
  unfold ofBytes at h
  simp only [bind_eq_ok_iff, pure_eq_ok_iff] at h
  obtain ⟨field, hfield, -, -, -, -, -, -, -, -, -, -, rfl⟩ := h
  unfold Bytes.slice at hfield
  split at hfield
  case isTrue hlength =>
    cases hfield
    exact ⟨hlength, rfl⟩
  case isFalse => cases hfield

theorem word16_of_ofBytes (h : ofBytes bytes = .ok entry) {i : Nat} (hi : i < 36) :
    Bytes.word16 bytes (0x38 + 2 * i) = .ok entry.units[i] := by
  obtain ⟨hlength, hunits⟩ := units_of_ofBytes h
  have hword : (((bytes.drop 0x38).take 72).drop (2 * i)).take 2
      = (bytes.drop (0x38 + 2 * i)).take 2 := by
    rw [List.drop_take, List.take_take, List.drop_drop, Nat.min_eq_left (by omega)]
  rw [hunits, Vector.getElem_ofFn, hword, Bytes.word16, Bytes.slice_of_le (by omega)]
  rfl

/-- Units that are written in the place of a label are those of the entry. -/
theorem units_eq_of_unitBytes (h : ofBytes bytes = .ok entry) {units : Vector UInt16 36}
    (hstored : (bytes.drop 0x38).take 72 = unitBytes units) : entry.units = units := by
  rw [(units_of_ofBytes h).2, hstored, ofFn_decode_unitBytes]

/-- The units of the label are those in front of this place: it is the first one with a zero, or the
end of the field if there is none. -/
structure StopsAt (units : Vector UInt16 36) (stop : Nat) : Prop where
  le : stop ≤ 36
  ne_zero : ∀ i (hi : i < 36), i < stop → units[i] ≠ 0
  eq_zero : ∀ hstop : stop < 36, units[stop] = 0

/-- Every label stops somewhere, and what is read of it stops there. -/
theorem exists_stopsAt (units : Vector UInt16 36) :
    ∃ stop, StopsAt units stop
      ∧ units.toList.takeWhile (· ≠ 0) = units.toList.take stop := by
  let isZero : UInt16 → Bool := fun unit => !decide (unit ≠ 0)
  refine ⟨units.toList.findIdx isZero, ⟨?_, ?_, ?_⟩, List.takeWhile_eq_take_findIdx_not⟩
  · have hle : units.toList.findIdx isZero ≤ units.toList.length := List.findIdx_le_length
    rwa [Vector.length_toList] at hle
  · intro i hi hlt
    simpa [isZero] using List.not_of_lt_findIdx hlt
  · intro hstop
    have hinside : units.toList.findIdx isZero < units.toList.length := by
      rwa [Vector.length_toList]
    simpa [isZero] using @List.findIdx_getElem _ isZero units.toList hinside

/-! ## Stored texts -/

/-- The field of a label with this text: its units, and zeros behind them. -/
def storedLabel (text : List Char) : Bytes :=
  ((Utf16.encode text).flatMap fun unit => LittleEndian.encode 2 unit.toNat).rightpad 72 0

/-- The units of a label with this text. -/
def paddedUnits (text : List Char) (h : (Utf16.encode text).length ≤ 36) : Vector UInt16 36 :=
  ⟨((Utf16.encode text).rightpad 36 0).toArray, by simp; omega⟩

theorem toList_paddedUnits (h : (Utf16.encode text).length ≤ 36) :
    (paddedUnits text h).toList = (Utf16.encode text).rightpad 36 0 := rfl

theorem unitBytes_paddedUnits (h : (Utf16.encode text).length ≤ 36) :
    unitBytes (paddedUnits text h) = storedLabel text := by
  have hlength : ((Utf16.encode text).flatMap fun unit => LittleEndian.encode 2 unit.toNat).length
      = (Utf16.encode text).length * 2 :=
    length_flatMap_of_forall fun _ _ => LittleEndian.length_encode 2 _
  have hzero : LittleEndian.encode 2 (0 : UInt16).toNat = List.replicate 2 0 := rfl
  rw [unitBytes, toList_paddedUnits, storedLabel, List.rightpad, List.rightpad,
    List.flatMap_append, List.flatMap_replicate, hzero, List.flatten_replicate_replicate, hlength,
    Nat.sub_mul]

theorem length_storedLabel (h : (Utf16.encode text).length ≤ 36) :
    (storedLabel text).length = 72 := by
  rw [← unitBytes_paddedUnits h, length_unitBytes]

/-- The zeros behind a text end its label. -/
theorem takeWhile_paddedUnits (h : (Utf16.encode text).length ≤ 36) (hnul : '\x00' ∉ text) :
    (paddedUnits text h).toList.takeWhile (· ≠ 0) = Utf16.encode text := by
  have hunits : ∀ unit ∈ Utf16.encode text, decide (unit ≠ 0) = true :=
    fun unit hunit => decide_eq_true (Utf16.ne_zero_of_mem_encode hnul hunit)
  rw [toList_paddedUnits, List.rightpad, List.takeWhile_append_of_pos hunits,
    List.takeWhile_replicate, if_neg (by decide), List.append_nil]

/-- The name of an entry is the text that is stored in it. -/
theorem name_of_storedLabel (h : ofBytes bytes = .ok entry) (hnul : '\x00' ∉ text)
    (hfits : (Utf16.encode text).length ≤ 36)
    (hstored : (bytes.drop 0x38).take 72 = storedLabel text) : entry.name = text := by
  have hunits : entry.units = paddedUnits text hfits :=
    units_eq_of_unitBytes h (hstored.trans (unitBytes_paddedUnits hfits).symm)
  rw [name, hunits, takeWhile_paddedUnits hfits hnul, Utf16.decode_encode]

/-- **Names of partitions decode faithfully.** Every entry can be read. Its units are the words of
its label, and the characters of its name, which are those of the label as text, stand for the units
in front of the first zero, or for all of them if none is zero: a unit that is an unpaired surrogate
among them is replaced by U+FFFD, and every other one is kept. So a text without NUL that takes 36
units at most comes back unchanged from every entry that it is stored in. -/
theorem names_decode_faithfully :
    (∀ bytes : Block 128, ∃ entry, ofBytes bytes.val = .ok entry
      ∧ (∀ i (hi : i < 36), Bytes.word16 bytes.val (0x38 + 2 * i) = .ok entry.units[i])
      ∧ entry.label.toList = entry.name
      ∧ ∃ stop, StopsAt entry.units stop
        ∧ Utf16.Mends (entry.units.toList.take stop) (Utf16.encode entry.name))
      ∧ ∀ (text : String) (bytes : Block 128), '\x00' ∉ text.toList →
        (Utf16.encode text.toList).length ≤ 36 → bytes.val.drop 0x38 = storedLabel text.toList →
          ∃ entry, ofBytes bytes.val = .ok entry
            ∧ entry.name = text.toList ∧ entry.label = text := by
  have hreads : ∀ bytes : Block 128, ∃ entry, ofBytes bytes.val = .ok entry :=
    fun bytes => exists_ofBytes (Nat.le_of_eq bytes.property.symm)
  constructor
  · intro bytes
    obtain ⟨entry, hentry⟩ := hreads bytes
    obtain ⟨stop, hstops, htake⟩ := exists_stopsAt entry.units
    refine ⟨entry, hentry, fun i hi => word16_of_ofBytes hentry hi, String.toList_ofList, stop,
      hstops, ?_⟩
    rw [name, htake]
    exact Utf16.mends_encode_decode _
  · intro text bytes hnul hfits hstored
    obtain ⟨entry, hentry⟩ := hreads bytes
    have hlength : (bytes.val.drop 0x38).length = 72 := by
      rw [List.length_drop, bytes.property]
    have hfield : (bytes.val.drop 0x38).take 72 = storedLabel text.toList := by
      rw [List.take_of_length_le (Nat.le_of_eq hlength), hstored]
    have hname := name_of_storedLabel hentry hnul hfits hfield
    exact ⟨entry, hentry, hname, by rw [label, hname, String.ofList_toList]⟩

/-- An entry with this label, and zeros in front of it. -/
def labelled (text : List Char) : Bytes := List.replicate 0x38 0 ++ storedLabel text

/-- A name of six characters and seven units. -/
def diskName : List Char := ['D', 'i', 's', 'k', ' ', '💾']

/-- A name with a pair in it comes back from the entry that it is stored in. -/
theorem diskName_read_back :
    ∃ entry, ofBytes (labelled diskName) = .ok entry ∧ entry.name = diskName
      ∧ entry.label = String.ofList diskName := by
  have hfits : (Utf16.encode diskName).length ≤ 36 := by decide
  have hlength : (labelled diskName).length = 128 := by
    rw [labelled, List.length_append, List.length_replicate, length_storedLabel hfits]
  have htext : (String.ofList diskName).toList = diskName := String.toList_ofList
  obtain ⟨entry, hentry, hname, hlabel⟩ := names_decode_faithfully.2 (String.ofList diskName)
    ⟨labelled diskName, hlength⟩ (by rw [htext]; decide) (by rwa [htext]) (by rw [htext]; rfl)
  exact ⟨entry, hentry, hname.trans htext, hlabel⟩

end Entry

end Gpt

end VolumeScan

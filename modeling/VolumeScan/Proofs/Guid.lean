/-
VolumeScan.Proofs.Guid — GUIDs as bytes, as groups and as text.

A GUID is stored as sixteen bytes, and its groups are other names for them: a GUID is made of its
groups (`Guid.ofFields_fields`), and the groups of a GUID that was made of some are these
(`Guid.fields_ofFields`). A text shows groups if its digits stand for them (`Guid.Shows`), each
group with its own width and the hyphens between them, and no text shows two different ones
(`Guid.Shows.unique`). The text of a GUID shows the groups of the GUID, so the text, the groups and
the bytes determine each other.
-/
import Mathlib.Data.List.Induction
import VolumeScan.Guid
import VolumeScan.Proofs.Bytes

namespace VolumeScan

/-! ## Digits in upper case -/

namespace Hex

/-- The character is a hexadecimal digit, and not a letter in lower case. -/
def IsUpper (c : Char) : Prop := '0' ≤ c ∧ c ≤ '9' ∨ 'A' ≤ c ∧ c ≤ 'F'

/-- The characters are so many digits in upper case, and stand for the number. -/
structure Shows (cs : List Char) (width n : Nat) : Prop where
  length_eq : cs.length = width
  isUpper : ∀ c ∈ cs, IsUpper c
  value_eq : value? cs = some n

theorem isUpper_upperDigit : ∀ n < 16, IsUpper (upperDigit n) := by
  unfold IsUpper
  decide

theorem isUpper_of_mem_digits {width n : Nat} {c : Char} (h : c ∈ digits upperDigit width n) :
    IsUpper c := by
  induction width generalizing n with
  | zero => cases h
  | succ width ih =>
    rcases List.mem_append.mp h with hhigh | hlow
    · exact ih hhigh
    · rw [List.mem_singleton.mp hlow]
      exact isUpper_upperDigit _ (Nat.mod_lt _ (by decide))

/-- A number that fits the width is shown by its digits. -/
theorem shows_digits {width n : Nat} (h : n < 16 ^ width) :
    Shows (digits upperDigit width n) width n where
  length_eq := length_digits upperDigit width n
  isUpper := fun _ hmem => isUpper_of_mem_digits hmem
  value_eq := by rw [value?_digits digitValue?_upperDigit, Nat.mod_eq_of_lt h]

/-- No digits show two numbers. -/
theorem Shows.unique {cs : List Char} {width n m : Nat} (h : Shows cs width n)
    (h' : Shows cs width m) : n = m := Option.some.inj (h.value_eq.symm.trans h'.value_eq)

/-- Two more digits are one more byte. -/
theorem value?_append_digits {cs : List Char} {n : Nat} (h : value? cs = some n) (b : UInt8) :
    value? (cs ++ digits upperDigit 2 b.toNat) = some (256 * n + b.toNat) := by
  have hb : b.toNat < 256 := b.toNat_lt
  have hhigh := digitValue?_upperDigit (b.toNat / 16 % 16) (Nat.mod_lt _ (by decide))
  have hlow := digitValue?_upperDigit (b.toNat % 16) (Nat.mod_lt _ (by decide))
  unfold value? at h ⊢
  rw [List.foldlM_append, h]
  simp [digits, hhigh, hlow]
  omega

end Hex

namespace Guid

/-! ## Bytes -/

/-- Sixteen bytes are stored as they are. -/
theorem toBytes_ofBytes {bytes : Bytes} (hlength : bytes.length = 16) :
    (ofBytes bytes).toBytes = bytes := by
  apply List.ext_getElem
  · rw [length_toBytes, hlength]
  · intro i hi hi'
    simp [toBytes, ofBytes, hi']

/-- GUIDs are stored alike only if they are equal. -/
theorem toBytes_inj {guid guid' : Guid} : guid.toBytes = guid'.toBytes ↔ guid = guid' := by
  constructor
  · intro h
    rw [← ofBytes_toBytes guid, h, ofBytes_toBytes]
  · intro h
    rw [h]

/-! ## Groups -/

section

variable {timeLow : UInt32} {timeMid timeHigh : UInt16} {tail : Vector UInt8 8}

theorem toBytes_ofFields : (ofFields timeLow timeMid timeHigh tail).toBytes
    = LittleEndian.encode 4 timeLow.toNat ++ LittleEndian.encode 2 timeMid.toNat
      ++ LittleEndian.encode 2 timeHigh.toNat ++ tail.toList := toBytes_ofBytes (by simp)

/-- The groups of a GUID that is made of groups are these. -/
theorem fields_ofFields : (ofFields timeLow timeMid timeHigh tail).timeLow = timeLow
    ∧ (ofFields timeLow timeMid timeHigh tail).timeMid = timeMid
    ∧ (ofFields timeLow timeMid timeHigh tail).timeHigh = timeHigh
    ∧ (ofFields timeLow timeMid timeHigh tail).tail = tail := by
  have hlow : timeLow.toNat % 256 ^ 4 = timeLow.toNat := Nat.mod_eq_of_lt timeLow.toNat_lt
  have hmid : timeMid.toNat % 256 ^ 2 = timeMid.toNat := Nat.mod_eq_of_lt timeMid.toNat_lt
  have hhigh : timeHigh.toNat % 256 ^ 2 = timeHigh.toNat := Nat.mod_eq_of_lt timeHigh.toNat_lt
  refine ⟨?_, ?_, ?_, ?_⟩
  · rw [Guid.timeLow, toBytes_ofFields, List.append_assoc, List.append_assoc,
      List.take_left' (LittleEndian.length_encode 4 _), LittleEndian.decode_encode, hlow,
      UInt32.ofNat_toNat]
  · rw [Guid.timeMid, toBytes_ofFields, List.append_assoc, List.append_assoc,
      List.drop_left' (LittleEndian.length_encode 4 _),
      List.take_left' (LittleEndian.length_encode 2 _), LittleEndian.decode_encode, hmid,
      UInt16.ofNat_toNat]
  · rw [Guid.timeHigh, toBytes_ofFields, List.append_assoc,
      List.drop_left' (by simp), List.take_left' (LittleEndian.length_encode 2 _),
      LittleEndian.decode_encode, hhigh, UInt16.ofNat_toNat]
  · ext i hi
    rw [Guid.tail, toBytes_ofFields, Vector.getElem_ofFn, List.getD_eq_getElem?_getD,
      List.getElem?_append_right (by simp)]
    simp [hi]

/-- A GUID is made of its groups. -/
theorem ofFields_fields (guid : Guid) :
    ofFields guid.timeLow guid.timeMid guid.timeHigh guid.tail = guid := by
  apply toBytes_inj.mp
  rw [toBytes_ofFields]
  have hlow : LittleEndian.encode 4 guid.timeLow.toNat = guid.toBytes.take 4 := by
    rw [Guid.timeLow, UInt32.toNat_ofNat']
    exact LittleEndian.encode_decode_mod (by simp)
  have hmid : LittleEndian.encode 2 guid.timeMid.toNat = (guid.toBytes.drop 4).take 2 := by
    rw [Guid.timeMid, UInt16.toNat_ofNat']
    exact LittleEndian.encode_decode_mod (by simp)
  have hhigh : LittleEndian.encode 2 guid.timeHigh.toNat = (guid.toBytes.drop 6).take 2 := by
    rw [Guid.timeHigh, UInt16.toNat_ofNat']
    exact LittleEndian.encode_decode_mod (by simp)
  have htail : guid.tail.toList = guid.toBytes.drop 8 := by
    apply List.ext_getElem
    · simp
    · intro i hi hi'
      have hlt : 8 + i < 16 := by
        rw [Vector.length_toList] at hi
        omega
      simp [Guid.tail, hlt]
  have h8 : guid.toBytes.drop 8 = (guid.toBytes.drop 6).drop 2 := by rw [List.drop_drop]
  have h6 : guid.toBytes.drop 6 = (guid.toBytes.drop 4).drop 2 := by rw [List.drop_drop]
  rw [hlow, hmid, hhigh, htail, List.append_assoc, List.append_assoc, h8, List.take_append_drop, h6,
    List.take_append_drop, List.take_append_drop]

end

/-! ## Text -/

/-- The text shows these groups: numbers of eight, four and four digits, and eight bytes of two
digits each, two of them in front of the last hyphen and six behind it. -/
structure Shows (cs : List Char) (timeLow : UInt32) (timeMid timeHigh : UInt16)
    (tail : Vector UInt8 8) : Prop where
  length_eq : cs.length = 36
  hyphen : ∀ i ∈ [8, 13, 18, 23], cs[i]? = some '-'
  timeLow : Hex.Shows (cs.take 8) 8 timeLow.toNat
  timeMid : Hex.Shows ((cs.drop 9).take 4) 4 timeMid.toNat
  timeHigh : Hex.Shows ((cs.drop 14).take 4) 4 timeHigh.toNat
  upper : ∀ i (hi : i < 2), Hex.Shows ((cs.drop (19 + i * 2)).take 2) 2 tail[i].toNat
  lower : ∀ i (hi : i < 6), Hex.Shows ((cs.drop (24 + i * 2)).take 2) 2 tail[2 + i].toNat

/-- No text shows two different groups. -/
theorem Shows.unique {cs : List Char} {timeLow timeLow' : UInt32}
    {timeMid timeMid' timeHigh timeHigh' : UInt16} {tail tail' : Vector UInt8 8}
    (h : Shows cs timeLow timeMid timeHigh tail) (h' : Shows cs timeLow' timeMid' timeHigh' tail') :
    timeLow = timeLow' ∧ timeMid = timeMid' ∧ timeHigh = timeHigh' ∧ tail = tail' := by
  refine ⟨UInt32.toNat_inj.mp (h.timeLow.unique h'.timeLow),
    UInt16.toNat_inj.mp (h.timeMid.unique h'.timeMid),
    UInt16.toNat_inj.mp (h.timeHigh.unique h'.timeHigh), ?_⟩
  ext1 i hi
  apply UInt8.toNat_inj.mp
  rcases Nat.lt_or_ge i 2 with hupper | hlower
  · exact (h.upper i hupper).unique (h'.upper i hupper)
  · obtain ⟨k, rfl⟩ := Nat.exists_eq_add_of_le hlower
    exact (h.lower k (by omega)).unique (h'.lower k (by omega))

/-! ### The text of a GUID -/

theorem length_hexBytes (bytes : Bytes) : (hexBytes bytes).length = bytes.length * 2 :=
  length_flatMap_of_forall fun _ _ => Hex.length_digits Hex.upperDigit 2 _

/-- The groups of the text of a GUID, and the hyphens. -/
def pieces (guid : Guid) : List (List Char) :=
  [Hex.digits Hex.upperDigit 8 guid.timeLow.toNat, ['-'],
    Hex.digits Hex.upperDigit 4 guid.timeMid.toNat, ['-'],
    Hex.digits Hex.upperDigit 4 guid.timeHigh.toNat, ['-'],
    hexBytes (guid.tail.toList.take 2), ['-'],
    hexBytes (guid.tail.toList.drop 2)]

theorem text_eq_flatten (guid : Guid) : guid.text = guid.pieces.flatten := by
  simp [text, pieces]

theorem map_length_pieces (guid : Guid) :
    guid.pieces.map List.length = [8, 1, 4, 1, 4, 1, 4, 1, 12] := by
  simp [pieces, length_hexBytes]

/-- A piece stands in the text behind those before it. -/
theorem take_drop_text (guid : Guid) (index : Nat) {start len : Nat} {piece : List Char}
    (hat : guid.pieces[index]? = some piece)
    (hstart : (guid.pieces.take index).flatten.length = start) (hlen : piece.length = len) :
    (guid.text.drop start).take len = piece := by
  have hpiece := (take_drop_flatten [] hat hstart hlen).2
  rwa [List.append_nil, ← text_eq_flatten] at hpiece

theorem take_text (guid : Guid) :
    guid.text.take 8 = Hex.digits Hex.upperDigit 8 guid.timeLow.toNat := by
  have hpiece : (guid.text.drop 0).take 8 = _ :=
    guid.take_drop_text 0 rfl rfl (Hex.length_digits _ _ _)
  rwa [List.drop_zero] at hpiece

theorem take_drop_text_timeMid (guid : Guid) :
    (guid.text.drop 9).take 4 = Hex.digits Hex.upperDigit 4 guid.timeMid.toNat :=
  guid.take_drop_text 2 rfl (by simp [pieces]) (Hex.length_digits _ _ _)

theorem take_drop_text_timeHigh (guid : Guid) :
    (guid.text.drop 14).take 4 = Hex.digits Hex.upperDigit 4 guid.timeHigh.toNat :=
  guid.take_drop_text 4 rfl (by simp [pieces]) (Hex.length_digits _ _ _)

theorem take_drop_text_upper (guid : Guid) :
    (guid.text.drop 19).take 4 = hexBytes (guid.tail.toList.take 2) :=
  guid.take_drop_text 6 rfl (by simp [pieces]) (by simp [length_hexBytes])

theorem take_drop_text_lower (guid : Guid) :
    (guid.text.drop 24).take 12 = hexBytes (guid.tail.toList.drop 2) :=
  guid.take_drop_text 8 rfl (by simp [pieces, length_hexBytes]) (by simp [length_hexBytes])

/-- Each byte has two digits. -/
theorem shows_hexBytes {cs : List Char} {start len : Nat} {bytes : Bytes}
    (h : (cs.drop start).take len = hexBytes bytes) {i : Nat} {b : UInt8}
    (hat : bytes[i]? = some b) :
    Hex.Shows ((cs.drop (start + i * 2)).take 2) 2 b.toNat := by
  have hi : i < bytes.length := (List.getElem?_eq_some_iff.mp hat).1
  have hinside : bytes.length * 2 ≤ len := by
    rw [← length_hexBytes, ← h]
    exact List.length_take_le len _
  have hpiece : ((hexBytes bytes).drop (i * 2)).take 2 = Hex.digits Hex.upperDigit 2 b.toNat := by
    rw [← List.append_nil (hexBytes bytes)]
    exact take_drop_flatMap (fun b _ => Hex.length_digits Hex.upperDigit 2 b.toNat) [] hat
  rw [← h, List.drop_take, List.take_take, List.drop_drop, Nat.min_eq_left (by omega)] at hpiece
  rw [hpiece]
  exact Hex.shows_digits b.toNat_lt

/-- **The text of a GUID shows its groups.** -/
theorem shows_text (guid : Guid) :
    Shows guid.text guid.timeLow guid.timeMid guid.timeHigh guid.tail := by
  have hhyphen : ∀ (index start : Nat), guid.pieces[index]? = some ['-'] →
      (guid.pieces.take index).flatten.length = start → guid.text[start]? = some '-' := by
    intro index start hat hstart
    have hpiece := congrArg (·[0]?) (guid.take_drop_text index hat hstart rfl)
    simpa using hpiece
  constructor
  case length_eq =>
    rw [text_eq_flatten, List.length_flatten, map_length_pieces]
    rfl
  case hyphen =>
    intro i hi
    simp only [List.mem_cons, List.not_mem_nil, or_false] at hi
    rcases hi with rfl | rfl | rfl | rfl
    · exact hhyphen 1 8 rfl (by simp [pieces])
    · exact hhyphen 3 13 rfl (by simp [pieces])
    · exact hhyphen 5 18 rfl (by simp [pieces])
    · exact hhyphen 7 23 rfl (by simp [pieces, length_hexBytes])
  case timeLow => exact guid.take_text ▸ Hex.shows_digits guid.timeLow.toNat_lt
  case timeMid => exact guid.take_drop_text_timeMid ▸ Hex.shows_digits guid.timeMid.toNat_lt
  case timeHigh => exact guid.take_drop_text_timeHigh ▸ Hex.shows_digits guid.timeHigh.toNat_lt
  case upper =>
    intro i hi
    exact shows_hexBytes guid.take_drop_text_upper (by simp [hi])
  case lower =>
    intro i hi
    exact shows_hexBytes guid.take_drop_text_lower (by simp)

/-! ## Reading a text -/

/-- The digits of bytes are one number, the first byte at its highest digits. -/
theorem value?_hexBytes (bytes : Bytes) :
    Hex.value? (hexBytes bytes) = some (LittleEndian.decode bytes.reverse) := by
  induction bytes using List.reverseRecOn with
  | nil => rfl
  | append_singleton bytes b ih =>
    have hdigits : hexBytes (bytes ++ [b])
        = hexBytes bytes ++ Hex.digits Hex.upperDigit 2 b.toNat := by simp [hexBytes]
    rw [hdigits, Hex.value?_append_digits ih, List.reverse_concat, LittleEndian.decode,
      Nat.add_comm]

theorem reverse_encode_decode_reverse {bytes : Bytes} {width : Nat} (h : bytes.length = width) :
    (LittleEndian.encode width (LittleEndian.decode bytes.reverse)).reverse = bytes := by
  rw [← h, ← List.length_reverse, LittleEndian.encode_decode, List.reverse_reverse]

/-- The text of a GUID is read back. -/
theorem ofText?_text (guid : Guid) : ofText? guid.text = some guid := by
  have hlow : guid.timeLow.toNat % 16 ^ 8 = guid.timeLow.toNat :=
    Nat.mod_eq_of_lt guid.timeLow.toNat_lt
  have hmid : guid.timeMid.toNat % 16 ^ 4 = guid.timeMid.toNat :=
    Nat.mod_eq_of_lt guid.timeMid.toNat_lt
  have hhigh : guid.timeHigh.toNat % 16 ^ 4 = guid.timeHigh.toNat :=
    Nat.mod_eq_of_lt guid.timeHigh.toNat_lt
  have htail : (Vector.ofFn fun i : Fin 8 => guid.tail.toList.getD i 0) = guid.tail := by
    ext1 i hi
    simp
  simp only [ofText?, List.drop_zero, take_text, take_drop_text_timeMid, take_drop_text_timeHigh,
    take_drop_text_upper, take_drop_text_lower, value?_hexBytes,
    Hex.value?_digits Hex.digitValue?_upperDigit, hlow, hmid, hhigh, Option.bind_eq_bind,
    Option.bind_some, Option.pure_def, UInt32.ofNat_toNat, UInt16.ofNat_toNat]
  rw [reverse_encode_decode_reverse (by simp), reverse_encode_decode_reverse (by simp),
    List.take_append_drop, htail, ofFields_fields]

/-- **GUIDs are their text.** Whatever the sixteen stored bytes are, the text shows groups of which
the GUID is made, and it is read back. The text of a GUID shows exactly the groups of which the GUID
is made, so groups are shown by the text of the GUID that is made of them. Two GUIDs have the same
text if and only if they are stored alike. -/
theorem text_and_bytes_determine_each_other :
    (∀ bytes : Block 16, (ofBytes bytes.val).toBytes = bytes.val
        ∧ (∃ timeLow timeMid timeHigh tail,
          Shows (toString (ofBytes bytes.val)).toList timeLow timeMid timeHigh tail
            ∧ ofFields timeLow timeMid timeHigh tail = ofBytes bytes.val)
        ∧ ofText? (toString (ofBytes bytes.val)).toList = some (ofBytes bytes.val))
      ∧ (∀ guid timeLow timeMid timeHigh tail,
        Shows (toString guid).toList timeLow timeMid timeHigh tail
          ↔ ofFields timeLow timeMid timeHigh tail = guid)
      ∧ ∀ guid guid' : Guid, toString guid = toString guid' ↔ guid.toBytes = guid'.toBytes := by
  have htext : ∀ guid : Guid, (toString guid).toList = guid.text := fun _ => String.toList_ofList
  refine ⟨fun bytes => ⟨toBytes_ofBytes bytes.property, ?_, ?_⟩, ?_, ?_⟩
  · rw [htext]
    exact ⟨_, _, _, _, shows_text _, ofFields_fields _⟩
  · rw [htext, ofText?_text]
  · intro guid timeLow timeMid timeHigh tail
    rw [htext]
    constructor
    · intro h
      obtain ⟨rfl, rfl, rfl, rfl⟩ := h.unique guid.shows_text
      exact ofFields_fields guid
    · rintro rfl
      have hshows := shows_text (ofFields timeLow timeMid timeHigh tail)
      obtain ⟨hlow, hmid, hhigh, htail⟩ := @fields_ofFields timeLow timeMid timeHigh tail
      rwa [hlow, hmid, hhigh, htail] at hshows
  · intro guid guid'
    rw [toBytes_inj]
    constructor
    · intro h
      have hread := congrArg (fun text => ofText? text.toList) h
      simp only [htext, ofText?_text] at hread
      exact Option.some.inj hread
    · rintro rfl
      rfl

/-- The text of a type of partitions. -/
example : toString microsoftBasicData = "EBD0A0A2-B9E5-4433-87C0-68B6B72699C7" := by decide

end Guid

end VolumeScan

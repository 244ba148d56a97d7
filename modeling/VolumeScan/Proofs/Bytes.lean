/-
VolumeScan.Proofs.Bytes — written numbers read back.

A number that is written with a fixed number of bytes or of digits reads back as the part of it that
fits (`LittleEndian.decode_encode`, `Hex.value?_digits`), and bytes that are read as a number are
written back as they were (`LittleEndian.encode_decode`), so that numbers that fit are told apart by
their bytes (`LittleEndian.encode_inj`). In a buffer that starts with pieces, each of them is read
from where the lengths before it add up to (`Bytes.slice_flatten`); and where a field is read, the
buffer goes on with the bytes of that field (`Bytes.drop_eq_of_slice`), so that a buffer is put
together again from the fields that were read one after another. Among pieces of one size, each is
found by its place alone (`take_drop_flatMap`).
-/
import Mathlib.Algebra.Group.Nat.Defs
import VolumeScan.Bytes
import VolumeScan.Hex

namespace VolumeScan

namespace LittleEndian

/-- Reading a written number gives the part of it that fits the width. -/
theorem decode_encode (width n : Nat) : decode (encode width n) = n % 256 ^ width := by
  induction width generalizing n with
  | zero => simp [encode, decode, Nat.mod_one]
  | succ width ih =>
    simp only [encode, decode, ih, UInt8.toNat_ofNat', Nat.reducePow]
    rw [Nat.pow_succ, Nat.mul_comm (256 ^ width) 256, Nat.mod_mul]

/-- Writing a number that was read from `bytes` gives these bytes back. -/
theorem encode_decode (bytes : Bytes) : encode bytes.length (decode bytes) = bytes := by
  induction bytes with
  | nil => rfl
  | cons b rest ih =>
    have hb : b.toNat < 256 := b.toNat_lt
    have hdiv : (b.toNat + 256 * decode rest) / 256 = decode rest := by omega
    have hmod : UInt8.ofNat (b.toNat + 256 * decode rest) = b := by
      apply UInt8.toNat_inj.mp
      simp only [UInt8.toNat_ofNat', Nat.reducePow]
      omega
    simp only [decode, List.length_cons, encode, hdiv, hmod, ih]

/-- Numbers that fit the width are written alike only if they are equal. -/
theorem encode_inj {width n m : Nat} (hn : n < 256 ^ width) (hm : m < 256 ^ width) :
    encode width n = encode width m ↔ n = m := by
  constructor
  · intro h
    have hread := congrArg decode h
    rwa [decode_encode, decode_encode, Nat.mod_eq_of_lt hn, Nat.mod_eq_of_lt hm] at hread
  · intro h
    rw [h]

theorem encode_inj16 {word word' : UInt16} :
    encode 2 word.toNat = encode 2 word'.toNat ↔ word = word' :=
  (encode_inj word.toNat_lt word'.toNat_lt).trans UInt16.toNat_inj

theorem encode_inj32 {word word' : UInt32} :
    encode 4 word.toNat = encode 4 word'.toNat ↔ word = word' :=
  (encode_inj word.toNat_lt word'.toNat_lt).trans UInt32.toNat_inj

theorem encode_inj64 {word word' : UInt64} :
    encode 8 word.toNat = encode 8 word'.toNat ↔ word = word' :=
  (encode_inj word.toNat_lt word'.toNat_lt).trans UInt64.toNat_inj

/-- A number of `n` bytes is below `256 ^ n`. -/
theorem decode_lt (bytes : Bytes) : decode bytes < 256 ^ bytes.length := by
  induction bytes with
  | nil => simp [decode]
  | cons b rest ih =>
    have hb : b.toNat < 256 := b.toNat_lt
    simp only [decode, List.length_cons, Nat.pow_succ]
    omega

/-- The number that was read from a field fits its width. -/
theorem encode_decode_mod {field : Bytes} {width : Nat} (h : field.length = width) :
    encode width (decode field % 256 ^ width) = field := by
  subst h
  rw [Nat.mod_eq_of_lt (decode_lt field), encode_decode]

end LittleEndian

/-! ## Pieces of a list -/

section

variable {α β : Type}

/-- A list that starts with pieces has each of them where the lengths before it add up to. -/
theorem take_drop_flatten {pieces : List (List β)} (rest : List β) {piece : List β}
    {index start len : Nat} (hat : pieces[index]? = some piece)
    (hstart : (pieces.take index).flatten.length = start) (hlen : piece.length = len) :
    start + len ≤ (pieces.flatten ++ rest).length
      ∧ ((pieces.flatten ++ rest).drop start).take len = piece := by
  obtain ⟨hindex, rfl⟩ := List.getElem?_eq_some_iff.mp hat
  have hsplit : pieces.flatten
      = (pieces.take index).flatten ++ (pieces[index] ++ (pieces.drop (index + 1)).flatten) := by
    rw [← List.flatten_cons, ← List.drop_eq_getElem_cons hindex, ← List.flatten_append,
      List.take_append_drop]
  rw [hsplit, List.append_assoc, List.append_assoc]
  refine ⟨by simp only [List.length_append]; omega, ?_⟩
  rw [← hstart, List.drop_left, ← hlen, List.take_left]

/-- Of pieces of one size that are put one after another, each is found at its place. -/
theorem take_drop_flatMap {encode : α → List β} {size : Nat} {xs : List α}
    (hsize : ∀ x ∈ xs, (encode x).length = size) (rest : List β) {i : Nat} {x : α}
    (hat : xs[i]? = some x) :
    ((xs.flatMap encode ++ rest).drop (i * size)).take size = encode x := by
  induction xs generalizing i with
  | nil => simp at hat
  | cons first xs ih =>
    obtain ⟨hfirst, hothers⟩ := List.forall_mem_cons.mp hsize
    rw [List.flatMap_cons, List.append_assoc]
    cases i with
    | zero =>
      obtain rfl : first = x := by simpa using hat
      rw [Nat.zero_mul, List.drop_zero, List.take_left' hfirst]
    | succ i =>
      rw [Nat.succ_mul, Nat.add_comm, ← List.drop_drop, List.drop_left' hfirst]
      exact ih hothers (by simpa using hat)

/-- Pieces of one size have that many elements together. -/
theorem length_flatMap_of_forall {encode : α → List β} {size : Nat} {xs : List α}
    (hsize : ∀ x ∈ xs, (encode x).length = size) :
    (xs.flatMap encode).length = xs.length * size := by
  rw [List.length_flatMap, List.map_congr_left hsize, List.map_const', List.sum_replicate_nat]

end

namespace Bytes

variable {pieces : List Bytes} {index start : Nat}

/-- A piece of a buffer that starts with pieces. -/
theorem slice_flatten (rest : Bytes) {piece : Bytes} {len : Nat}
    (hat : pieces[index]? = some piece)
    (hstart : (pieces.take index).flatten.length = start) (hlen : piece.length = len) :
    slice (pieces.flatten ++ rest) start len = .ok piece := by
  obtain ⟨hend, hpiece⟩ := take_drop_flatten rest hat hstart hlen
  rw [slice_of_le hend, hpiece]

/-- A 32-bit word that was written. -/
theorem word32_flatten (rest : Bytes) {word : UInt32}
    (hat : pieces[index]? = some (LittleEndian.encode 4 word.toNat))
    (hstart : (pieces.take index).flatten.length = start) :
    word32 (pieces.flatten ++ rest) start = .ok word := by
  have hword : word.toNat % 256 ^ 4 = word.toNat := Nat.mod_eq_of_lt word.toNat_lt
  rw [word32, slice_flatten rest hat hstart (LittleEndian.length_encode 4 _)]
  show Except.ok (UInt32.ofNat _) = _
  rw [LittleEndian.decode_encode, hword, UInt32.ofNat_toNat]

/-- A 64-bit word that was written. -/
theorem word64_flatten (rest : Bytes) {word : UInt64}
    (hat : pieces[index]? = some (LittleEndian.encode 8 word.toNat))
    (hstart : (pieces.take index).flatten.length = start) :
    word64 (pieces.flatten ++ rest) start = .ok word := by
  have hword : word.toNat % 256 ^ 8 = word.toNat := Nat.mod_eq_of_lt word.toNat_lt
  rw [word64, slice_flatten rest hat hstart (LittleEndian.length_encode 8 _)]
  show Except.ok (UInt64.ofNat _) = _
  rw [LittleEndian.decode_encode, hword, UInt64.ofNat_toNat]

/-- The bytes of a field stand in the buffer from where it is read. -/
theorem getElem?_of_slice {bytes field : Bytes} {len i : Nat}
    (h : slice bytes start len = .ok field) (hge : start ≤ i) (hlt : i < start + len) :
    bytes[i]? = field[i - start]? := by
  unfold slice at h
  split at h
  case isTrue =>
    cases h
    rw [List.getElem?_take_of_lt (by omega), List.getElem?_drop, Nat.add_sub_cancel' hge]
  case isFalse => cases h

/-- Where a field is read, the buffer goes on with it. -/
theorem drop_eq_of_slice {bytes field : Bytes} {len : Nat} (h : slice bytes start len = .ok field) :
    bytes.drop start = field ++ bytes.drop (start + len) := by
  unfold slice at h
  split at h
  case isTrue =>
    cases h
    rw [← List.drop_drop, List.take_append_drop]
  case isFalse => cases h

/-- Where a byte is read, the buffer goes on with it. -/
theorem drop_eq_of_byte {bytes : Bytes} {b : UInt8} (h : byte bytes start = .ok b) :
    bytes.drop start = b :: bytes.drop (start + 1) := by
  unfold byte at h
  cases hat : bytes[start]? with
  | none =>
    rw [hat] at h
    cases h
  | some found =>
    rw [hat] at h
    cases h
    obtain ⟨hlt, rfl⟩ := List.getElem?_eq_some_iff.mp hat
    exact List.drop_eq_getElem_cons hlt

/-- Where a number is read from a field, the buffer goes on with the number as it is written. -/
theorem drop_eq_of_decode {bytes field : Bytes} {len : Nat}
    (h : slice bytes start len = .ok field) :
    bytes.drop start
      = LittleEndian.encode len (LittleEndian.decode field % 256 ^ len)
        ++ bytes.drop (start + len) := by
  rw [LittleEndian.encode_decode_mod (length_of_slice h)]
  exact drop_eq_of_slice h

/-- Where a 16-bit word is read, the buffer goes on with its bytes. -/
theorem drop_eq_of_word16 {bytes : Bytes} {word : UInt16} (h : word16 bytes start = .ok word) :
    bytes.drop start = LittleEndian.encode 2 word.toNat ++ bytes.drop (start + 2) := by
  obtain ⟨field, hfield, rfl⟩ := map_eq_ok_iff.mp h
  rw [UInt16.toNat_ofNat']
  exact drop_eq_of_decode hfield

/-- Where a 32-bit word is read, the buffer goes on with its bytes. -/
theorem drop_eq_of_word32 {bytes : Bytes} {word : UInt32} (h : word32 bytes start = .ok word) :
    bytes.drop start = LittleEndian.encode 4 word.toNat ++ bytes.drop (start + 4) := by
  obtain ⟨field, hfield, rfl⟩ := map_eq_ok_iff.mp h
  rw [UInt32.toNat_ofNat']
  exact drop_eq_of_decode hfield

/-- Where a 64-bit word is read, the buffer goes on with its bytes. -/
theorem drop_eq_of_word64 {bytes : Bytes} {word : UInt64} (h : word64 bytes start = .ok word) :
    bytes.drop start = LittleEndian.encode 8 word.toNat ++ bytes.drop (start + 8) := by
  obtain ⟨field, hfield, rfl⟩ := map_eq_ok_iff.mp h
  rw [UInt64.toNat_ofNat']
  exact drop_eq_of_decode hfield

end Bytes

namespace Hex

theorem digitValue?_upperDigit : ∀ n < 16, digitValue? (upperDigit n) = some n := by decide

/-- Digits read back as the part of the number that fits the width. -/
theorem value?_digits {digit : Nat → Char} (hdigit : ∀ n < 16, digitValue? (digit n) = some n)
    (width n : Nat) : value? (digits digit width n) = some (n % 16 ^ width) := by
  induction width generalizing n with
  | zero => simp [digits, value?, Nat.mod_one]
  | succ width ih =>
    have hread := ih (n / 16)
    unfold value? at hread ⊢
    rw [digits, List.foldlM_append, hread]
    simp only [Option.bind_eq_bind, Option.bind_some, List.foldlM_cons, List.foldlM_nil,
      hdigit (n % 16) (Nat.mod_lt _ (by decide)), Option.map_some, Option.pure_def]
    rw [Nat.pow_succ, Nat.mul_comm (16 ^ width) 16, Nat.mod_mul]
    congr 1
    omega

end Hex

end VolumeScan

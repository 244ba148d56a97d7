/-
VolumeScan.Bytes — byte strings, and the little-endian words that tables on a disk are made of.

`LittleEndian.decode` and `LittleEndian.encode` relate numbers and bytes; a word of `w` bytes is
`encode w`, and `decode` undoes it. `Bytes.slice` cuts a field out of a buffer and is a fault if the
field is not inside; the word readers are a slice and a `decode`.
`exact32` and `exact64` turn a number into a machine word and are a fault if it does not fit, so
that no result is ever a number that wrapped around.
-/
import VolumeScan.Error

namespace VolumeScan

/-- A string of bytes. -/
abbrev Bytes := List UInt8

/-- A string of exactly `n` bytes. -/
abbrev Block (n : Nat) := { bytes : Bytes // bytes.length = n }

/-! ## Little-endian numbers -/

namespace LittleEndian

/-- The number whose digits in base 256 are the bytes, the least significant one first. -/
def decode : Bytes → Nat
  | [] => 0
  | b :: rest => b.toNat + 256 * decode rest

/-- The lowest `width` digits of a number in base 256, the least significant one first. -/
def encode : Nat → Nat → Bytes
  | 0, _ => []
  | width + 1, n => UInt8.ofNat n :: encode width (n / 256)

@[simp] theorem length_encode (width n : Nat) : (encode width n).length = width := by
  induction width generalizing n with
  | zero => rfl
  | succ width ih => simp [encode, ih]

end LittleEndian

/-! ## Numbers that must fit a machine word -/

/-- The number of different 64-bit words: addresses and lengths are below it. -/
def wordLimit : Nat := 0x10000000000000000

/-- The 32-bit word of this value. -/
def exact32 (n : Nat) : Except Error UInt32 :=
  if n < UInt32.size then .ok (UInt32.ofNat n) else .error .fault

/-- The 64-bit word of this value. -/
def exact64 (n : Nat) : Except Error UInt64 :=
  if n < wordLimit then .ok (UInt64.ofNat n) else .error .fault

/-- The difference of two numbers, the second of which must not be the larger one. -/
def exactSub (a b : Nat) : Except Error Nat :=
  if b ≤ a then .ok (a - b) else .error .fault

/-! ## Fields of a buffer -/

namespace Bytes

/-- The `len` bytes from position `start` on. -/
def slice (bytes : Bytes) (start len : Nat) : Except Error Bytes :=
  if start + len ≤ bytes.length then .ok ((bytes.drop start).take len) else .error .fault

/-- The 16-bit word at position `start`. -/
def word16 (bytes : Bytes) (start : Nat) : Except Error UInt16 :=
  (slice bytes start 2).map fun field => UInt16.ofNat (LittleEndian.decode field)

/-- The 32-bit word at position `start`. -/
def word32 (bytes : Bytes) (start : Nat) : Except Error UInt32 :=
  (slice bytes start 4).map fun field => UInt32.ofNat (LittleEndian.decode field)

/-- The 64-bit word at position `start`. -/
def word64 (bytes : Bytes) (start : Nat) : Except Error UInt64 :=
  (slice bytes start 8).map fun field => UInt64.ofNat (LittleEndian.decode field)

/-- The byte at position `start`. -/
def byte (bytes : Bytes) (start : Nat) : Except Error UInt8 :=
  match bytes[start]? with
  | some b => .ok b
  | none => .error .fault

/-- A field that lies inside the buffer is read. -/
theorem slice_of_le {bytes : Bytes} {start len : Nat} (h : start + len ≤ bytes.length) :
    slice bytes start len = .ok ((bytes.drop start).take len) := if_pos h

/-- A field at the start does not depend on what comes behind it. -/
theorem slice_append_of_le {bytes : Bytes} {len : Nat} (h : len ≤ bytes.length) (rest : Bytes) :
    slice (bytes ++ rest) 0 len = .ok (bytes.take len) := by
  rw [slice_of_le (by rw [List.length_append]; omega), List.drop_zero,
    List.take_append_of_le_length h]

/-- A field has the length that was asked for. -/
theorem length_of_slice {bytes field : Bytes} {start len : Nat}
    (h : slice bytes start len = .ok field) : field.length = len := by
  unfold slice at h
  split at h
  · cases h; simp; omega
  · cases h

end Bytes

end VolumeScan

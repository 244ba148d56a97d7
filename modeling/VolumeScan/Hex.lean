/-
VolumeScan.Hex — numbers in hexadecimal with a fixed number of digits.

`Hex.digits` writes the lowest digits of a number, the most significant one first, in the alphabet
it is given; `Hex.value?` reads digits of either case.
-/

namespace VolumeScan

namespace Hex

/-- The digit of a value below sixteen, letters in upper case. -/
def upperDigit (n : Nat) : Char :=
  if n < 10 then Char.ofNat (48 + n) else Char.ofNat (55 + n)

/-- The digit of a value below sixteen, letters in lower case. -/
def lowerDigit (n : Nat) : Char :=
  if n < 10 then Char.ofNat (48 + n) else Char.ofNat (87 + n)

/-- The lowest `width` digits of a number, the most significant one first. -/
def digits (digit : Nat → Char) : Nat → Nat → List Char
  | 0, _ => []
  | width + 1, n => digits digit width (n / 16) ++ [digit (n % 16)]

/-- The value of a digit of either case. -/
def digitValue? (c : Char) : Option Nat :=
  if 48 ≤ c.toNat ∧ c.toNat < 58 then some (c.toNat - 48)
  else if 65 ≤ c.toNat ∧ c.toNat < 71 then some (c.toNat - 55)
  else if 97 ≤ c.toNat ∧ c.toNat < 103 then some (c.toNat - 87)
  else none

/-- The number that digits of either case stand for. -/
def value? (cs : List Char) : Option Nat :=
  cs.foldlM (fun n c => (digitValue? c).map (16 * n + ·)) 0

@[simp] theorem length_digits (digit : Nat → Char) (width n : Nat) :
    (digits digit width n).length = width := by
  induction width generalizing n with
  | zero => rfl
  | succ width ih => simp [digits, ih]

end Hex

end VolumeScan

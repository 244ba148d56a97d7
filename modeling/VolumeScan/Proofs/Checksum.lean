/-
VolumeScan.Proofs.Checksum — what the checksum is, and that it may be computed in pieces.

CRC-32/ISO-HDLC is defined by a division: bytes are a polynomial over the field with two elements,
the first byte at the highest powers and in each byte the lowest bit first, and their checksum is
the remainder by `Crc32.generator` (`Crc32.IsChecksum`). A shift of the register multiplies by the
variable up to a multiple of the generator (`Crc32.residue_shift`), because the constant that is
subtracted is the generator without its highest power. So feeding bytes keeps the register congruent
to what was fed, and since a register has fewer bits than the generator it is the remainder:
`crc32` is the checksum by this definition and nothing else is (`Crc32.isChecksum_iff`).

The register remembers nothing but that remainder, so it makes no difference where the bytes are cut
(`Crc32.ofPieces_eq`). In particular a stretch may be left out by feeding zeros in its place, one
after the other.
-/
import Mathlib.Algebra.CharP.Two
import Mathlib.Algebra.Field.ZMod
import Mathlib.Data.LawfulXor.Basic
import Mathlib.RingTheory.AdjoinRoot
import Mathlib.Tactic.ComputeDegree
import VolumeScan.Proofs.Crc32

namespace VolumeScan

namespace Crc32

open Polynomial

/-! ## Bits as coefficients -/

/-- The lowest `width` bits of a number as coefficients, the lowest bit at the highest power. -/
noncomputable def bits : Nat → Nat → (ZMod 2)[X]
  | 0, _ => 0
  | width + 1, n => (if n % 2 = 1 then X ^ width else 0) + bits width (n / 2)

theorem bits_xor (width n m : Nat) : bits width (n ^^^ m) = bits width n + bits width m := by
  induction width generalizing n m with
  | zero => simp [bits]
  | succ width ih =>
    have hlow : (if (n ^^^ m) % 2 = 1 then (X ^ width : (ZMod 2)[X]) else 0)
        = (if n % 2 = 1 then X ^ width else 0) + if m % 2 = 1 then X ^ width else 0 := by
      simp only [Nat.xor_mod_two_eq_one]
      by_cases hn : n % 2 = 1 <;> by_cases hm : m % 2 = 1 <;> simp [hn, hm]
      exact (CharTwo.add_self_eq_zero _).symm
    rw [bits, bits, bits, Nat.xor_div_two, ih, hlow]
    ring

/-- One bit more, which is not set, moves the others up. -/
theorem bits_succ {width n : Nat} (h : n < 2 ^ width) : bits (width + 1) n = X * bits width n := by
  induction width generalizing n with
  | zero =>
    obtain rfl : n = 0 := by omega
    simp [bits]
  | succ width ih =>
    rw [bits, ih (by omega), bits]
    split <;> ring

theorem bits_add {width n : Nat} (h : n < 2 ^ width) (more : Nat) :
    bits (width + more) n = X ^ more * bits width n := by
  induction more with
  | zero => simp
  | succ more ih =>
    have hlt : n < 2 ^ (width + more) :=
      Nat.lt_of_lt_of_le h (Nat.pow_le_pow_right (by decide) (Nat.le_add_right width more))
    rw [← Nat.add_assoc, bits_succ hlt, ih]
    ring

theorem degree_bits_lt (width n : Nat) : (bits width n).degree < width := by
  induction width generalizing n with
  | zero => simp [bits]
  | succ width ih =>
    have hwidth : (width : WithBot Nat) < (width + 1 : Nat) := by
      exact_mod_cast Nat.lt_succ_self width
    rw [bits]
    refine (degree_add_le _ _).trans_lt (max_lt ?_ ((ih _).trans hwidth))
    split
    · rwa [degree_X_pow]
    · rw [degree_zero]
      exact WithBot.bot_lt_coe _

theorem eq_zero_of_bits_eq_zero {width n : Nat} (hn : n < 2 ^ width) (h : bits width n = 0) :
    n = 0 := by
  induction width generalizing n with
  | zero => omega
  | succ width ih =>
    rw [bits] at h
    by_cases hodd : n % 2 = 1
    · -- The highest power does not cancel against the lower ones.
      have hdegree := degree_bits_lt width (n / 2)
      rw [if_pos hodd] at h
      rw [← neg_eq_of_add_eq_zero_right h, degree_neg, degree_X_pow] at hdegree
      exact absurd hdegree (lt_irrefl _)
    · rw [if_neg hodd, zero_add] at h
      have hhalf : n / 2 = 0 := ih (by omega) h
      omega

/-- Numbers that fit the width are told apart by their bits. -/
theorem bits_inj {width n m : Nat} (hn : n < 2 ^ width) (hm : m < 2 ^ width) :
    bits width n = bits width m ↔ n = m := by
  constructor
  · intro h
    have hsum : bits width (n ^^^ m) = 0 := by rw [bits_xor, h, CharTwo.add_self_eq_zero]
    exact xor_eq_zero_iff.mp (eq_zero_of_bits_eq_zero (Nat.xor_lt_two_pow hn hm) hsum)
  · intro h
    rw [h]

/-! ## The generator -/

/-- The polynomial that is divided by. -/
noncomputable def generator : (ZMod 2)[X] :=
  X ^ 32 + X ^ 26 + X ^ 23 + X ^ 22 + X ^ 16 + X ^ 12 + X ^ 11 + X ^ 10 + X ^ 8 + X ^ 7 + X ^ 5
    + X ^ 4 + X ^ 2 + X + 1

theorem monic_generator : generator.Monic := by
  unfold generator
  monicity!

theorem degree_generator : generator.degree = (32 : Nat) := by
  unfold generator
  compute_degree!

/-- The constant of the register is the generator without its highest power. -/
theorem bits_polynomial : bits 32 polynomial.toNat = generator - X ^ 32 := by
  have hvalue : polynomial.toNat = 0xEDB88320 := rfl
  rw [hvalue]
  simp [bits, generator]
  ring

/-! ## The checksum as a remainder -/

/-- Bytes as coefficients, the first byte at the highest powers. -/
noncomputable def message : Bytes → (ZMod 2)[X]
  | [] => 0
  | b :: rest => X ^ (8 * rest.length) * bits 8 b.toNat + message rest

/-- The number is the checksum of the bytes, by the definition of CRC-32/ISO-HDLC: 32 ones are added
to the highest powers of the bytes, as many zeros are put behind them, and the remainder by the
generator is complemented. -/
def IsChecksum (bytes : Bytes) (crc : UInt32) : Prop :=
  bits 32 crc.toNat
    = (X ^ 32 * message bytes + X ^ (8 * bytes.length) * bits 32 0xFFFFFFFF) %ₘ generator
      + bits 32 0xFFFFFFFF

/-- Polynomials up to multiples of the generator. -/
noncomputable def residue : (ZMod 2)[X] →+* AdjoinRoot generator := AdjoinRoot.mk generator

theorem residue_generator : residue generator = 0 := AdjoinRoot.mk_self

/-- A shift multiplies by the variable. -/
theorem residue_shift (register : UInt32) :
    residue (bits 32 (shift register).toNat) = residue (X * bits 32 register.toNat) := by
  have hlt : register.toNat / 2 < 2 ^ 31 := by
    have := register.toNat_lt
    omega
  have hhalf : bits 32 (register.toNat / 2)
      = X * bits 32 register.toNat - if register.toNat % 2 = 1 then X ^ 32 else 0 := by
    have hsplit : bits 32 register.toNat
        = (if register.toNat % 2 = 1 then X ^ 31 else 0) + bits 31 (register.toNat / 2) := rfl
    rw [bits_succ hlt, hsplit]
    split <;> ring
  by_cases hodd : register.toNat % 2 = 1
  · have hcancel : X * bits 32 register.toNat - X ^ 32 + (generator - X ^ 32)
        = X * bits 32 register.toNat + generator - (X ^ 32 + X ^ 32) := by ring
    rw [shift_of_odd hodd, UInt32.toNat_xor, bits_xor, toNat_shiftRight_one, hhalf, if_pos hodd,
      bits_polynomial, hcancel, CharTwo.add_self_eq_zero, sub_zero, map_add, residue_generator,
      add_zero]
  · rw [shift_of_even hodd, toNat_shiftRight_one, hhalf, if_neg hodd, sub_zero]

theorem residue_iterate_shift (n : Nat) (register : UInt32) :
    residue (bits 32 (shift^[n] register).toNat) = residue (X ^ n * bits 32 register.toNat) := by
  induction n generalizing register with
  | zero => simp
  | succ n ih =>
    rw [Function.iterate_succ_apply, ih, map_mul, residue_shift, ← map_mul]
    exact congrArg residue (by ring)

/-- Feeding bytes puts them behind what the register stands for. -/
theorem residue_update (register : UInt32) (bytes : Bytes) :
    residue (bits 32 (update register bytes).toNat)
      = residue (X ^ (8 * bytes.length) * bits 32 register.toNat + X ^ 32 * message bytes) := by
  induction bytes generalizing register with
  | nil => simp [update, message]
  | cons b rest ih =>
    have hbyte : bits 32 b.toUInt32.toNat = X ^ 24 * bits 8 b.toNat := by
      rw [UInt8.toNat_toUInt32]
      exact bits_add b.toNat_lt 24
    have habsorb : residue (bits 32 (absorb register b).toNat)
        = residue (X ^ 8 * (bits 32 register.toNat + X ^ 24 * bits 8 b.toNat)) := by
      rw [absorb_eq, residue_iterate_shift, UInt32.toNat_xor, bits_xor, hbyte]
    have hupdate : update register (b :: rest) = update (absorb register b) rest := rfl
    rw [hupdate, ih, map_add, map_mul, habsorb, ← map_mul, ← map_add, message, List.length_cons]
    exact congrArg residue (by ring)

/-- The register is the checksum. -/
theorem isChecksum_crc32 (bytes : Bytes) : IsChecksum bytes (crc32 bytes) := by
  have hreduced : bits 32 (update initial bytes).toNat %ₘ generator
      = bits 32 (update initial bytes).toNat := by
    rw [modByMonic_eq_self_iff monic_generator, degree_generator]
    exact degree_bits_lt 32 _
  have hdvd := AdjoinRoot.mk_eq_mk.mp (residue_update initial bytes)
  have hinitial : initial.toNat = 0xFFFFFFFF := rfl
  rw [IsChecksum, crc32, finish, UInt32.toNat_xor, bits_xor, ← hreduced,
    modByMonic_eq_of_dvd_sub monic_generator hdvd, hinitial, add_comm (X ^ 32 * _)]
  rfl

/-- **The register computes CRC-32**: every string of bytes has one checksum, and it is this one. -/
theorem isChecksum_iff {bytes : Bytes} {crc : UInt32} :
    IsChecksum bytes crc ↔ crc = crc32 bytes := by
  constructor
  · intro h
    have hbits := Eq.trans h (isChecksum_crc32 bytes).symm
    exact UInt32.toNat_inj.mp ((bits_inj crc.toNat_lt (crc32 bytes).toNat_lt).mp hbits)
  · rintro rfl
    exact isChecksum_crc32 bytes

/-- The check value of the catalogue, for the digits from 1 to 9. -/
example : crc32 ((List.range' 0x31 9).map UInt8.ofNat) = 0xCBF43926 := by decide +kernel

/-! ## Pieces -/

/-- The checksum of bytes that are fed to the register piece by piece. -/
def ofPieces (pieces : List Bytes) : UInt32 := finish (pieces.foldl update initial)

theorem foldl_update (pieces : List Bytes) (register : UInt32) :
    pieces.foldl update register = update register pieces.flatten := by
  induction pieces generalizing register with
  | nil => rfl
  | cons piece rest ih => rw [List.foldl_cons, ih, List.flatten_cons, update_append]

/-- Where the bytes are cut makes no difference. -/
theorem ofPieces_eq (pieces : List Bytes) : ofPieces pieces = crc32 pieces.flatten := by
  rw [ofPieces, foldl_update, crc32]

end Crc32

/-! ## A stretch that is left out -/

/-- What is fed to the register if a stretch is left out: the bytes before it, a single zero for
every position of it, and the bytes behind it. -/
def Bytes.piecesAround (bytes : Bytes) (start stop : Nat) : List Bytes :=
  bytes.take start :: (List.range' start (stop - start)).map (fun _ => [0]) ++ [bytes.drop stop]

theorem Bytes.flatten_piecesAround (bytes : Bytes) (start stop : Nat) :
    (bytes.piecesAround start stop).flatten = bytes.blank start stop := by
  simp [piecesAround, blank, List.map_const']

/-- **A checksum with a stretch left out is the checksum of the patched bytes.** Both positions must
lie inside the bytes. Then it is what comes of feeding the bytes before the stretch, a zero for
every position of it and the bytes behind it one after the other, and that is the CRC-32 of the
three put together; if the positions are reversed, there are no zeros. If they are in order, it is
the checksum of the copy that has zeros in the stretch, and the same for all bytes that agree
outside the stretch. -/
theorem blanked_checksum_of_patched_bytes {bytes : Bytes} {start stop : Nat}
    (hstart : start ≤ bytes.length) (hstop : stop ≤ bytes.length) :
    (∀ crc, crc32Blanked bytes start stop = .ok crc ↔ Crc32.IsChecksum
        (bytes.take start ++ List.replicate (stop - start) 0 ++ bytes.drop stop) crc)
      ∧ crc32Blanked bytes start stop = .ok (crc32
        (bytes.take start ++ List.replicate (stop - start) 0 ++ bytes.drop stop))
      ∧ crc32Blanked bytes start stop = .ok (Crc32.ofPieces (bytes.piecesAround start stop))
      ∧ (start ≤ stop →
        (∀ copy : Bytes,
            (∀ i, copy[i]? = if start ≤ i ∧ i < stop then some 0 else bytes[i]?) →
            crc32Blanked bytes start stop = .ok (crc32 copy))
          ∧ ∀ other : Bytes, other.length = bytes.length →
            (∀ i, i < start ∨ stop ≤ i → other[i]? = bytes[i]?) →
            crc32Blanked other start stop = crc32Blanked bytes start stop) := by
  have hpatched : crc32Blanked bytes start stop = .ok (crc32 (bytes.blank start stop)) :=
    crc32Blanked_eq hstart hstop
  refine ⟨fun crc => ?_, hpatched, ?_, fun hordered => ⟨fun copy hcopy => ?_, fun other hlength
    hagree => ?_⟩⟩
  · rw [hpatched, Crc32.isChecksum_iff, Except.ok.injEq, eq_comm, Bytes.blank]
  · rw [hpatched, Crc32.ofPieces_eq, Bytes.flatten_piecesAround]
  · rw [hpatched, Bytes.eq_blank hordered hstop hcopy]
  · have hother : crc32Blanked other start stop = .ok (crc32 (other.blank start stop)) :=
      crc32Blanked_eq (hlength ▸ hstart) (hlength ▸ hstop)
    rw [hother, hpatched, Bytes.blank_congr hordered hstop hlength hagree]

/-- Ninety-two different bytes, as many as a header has. -/
def countingBytes : Bytes := (List.range 92).map UInt8.ofNat

/-- The same with zeros in the place of the checksum. -/
def countingBytesBlanked : Bytes :=
  (List.range 92).map fun i => if 0x10 ≤ i ∧ i < 0x14 then 0 else UInt8.ofNat i

/-- The checksum of a header with its own place left out is that of the copy with zeros there. -/
theorem countingBytes_around_checksum :
    (0x10 ≤ countingBytes.length ∧ 0x14 ≤ countingBytes.length)
      ∧ countingBytesBlanked ≠ countingBytes
      ∧ crc32Blanked countingBytes 0x10 0x14 = .ok (crc32 countingBytesBlanked) := by
  have hinside : 0x10 ≤ countingBytes.length ∧ 0x14 ≤ countingBytes.length := by decide
  refine ⟨hinside, by decide, ?_⟩
  obtain ⟨-, -, -, hordered⟩ := blanked_checksum_of_patched_bytes hinside.1 hinside.2
  refine (hordered (by decide)).1 _ fun i => ?_
  by_cases hi : i < 92
  · rw [countingBytes, countingBytesBlanked, List.getElem?_map, List.getElem?_map,
      List.getElem?_range hi, Option.map_some, Option.map_some]
    split <;> rfl
  · rw [countingBytes, countingBytesBlanked, List.getElem?_eq_none (by simpa using hi),
      List.getElem?_eq_none (by simpa using hi), if_neg (by omega)]

end VolumeScan

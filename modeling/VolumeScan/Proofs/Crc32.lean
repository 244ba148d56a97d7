/-
VolumeScan.Proofs.Crc32 — what a checksum tells apart.

A shift of the register is linear in exclusive or (`Crc32.shift_xor`) and loses nothing
(`Crc32.shift_injective`), since the polynomial has its highest bit set. So whatever is fed to two
different registers leaves them different (`Crc32.update_injective`); and up to four bytes are fed
to a register by adding their little-endian number to it and shifting
(`Crc32.update_eq_iterate_shift`), so the register tells them apart (`Crc32.eq_of_update_eq`).
Together: two strings of one length that differ inside four adjacent positions only, wherever these
are and however much follows them, have different checksums (`eq_of_crc32_eq`).

`Bytes.blank` puts zeros into a stretch of the data, which is what the checksum with a stretch
blanked is computed over (`crc32Blanked_eq_ok_iff`). A given one is computed part by part
(`crc32Blanked_of_registers`).
-/
import Mathlib.Logic.Function.Iterate
import VolumeScan.Crc32
import VolumeScan.Proofs.Bytes

namespace VolumeScan

namespace Crc32

/-! ## One shift -/

/-- The bit that is shifted out is the lowest one. -/
theorem and_one_eq_one_iff {register : UInt32} : register &&& 1 = 1 ↔ register.toNat % 2 = 1 := by
  rw [← UInt32.toNat_inj, UInt32.toNat_and]
  exact iff_of_eq (congrArg (· = 1) (Nat.and_one_is_mod register.toNat))

theorem shift_of_odd {register : UInt32} (h : register.toNat % 2 = 1) :
    shift register = (register >>> 1) ^^^ polynomial := if_pos (and_one_eq_one_iff.mpr h)

theorem shift_of_even {register : UInt32} (h : ¬register.toNat % 2 = 1) :
    shift register = register >>> 1 := if_neg fun hone => h (and_one_eq_one_iff.mp hone)

theorem toNat_shiftRight_one (register : UInt32) : (register >>> 1).toNat = register.toNat / 2 := by
  rw [UInt32.toNat_shiftRight]
  exact Nat.shiftRight_one register.toNat

/-- Shifting is linear. -/
theorem shift_xor (x y : UInt32) : shift (x ^^^ y) = shift x ^^^ shift y := by
  have hlow : (x ^^^ y).toNat % 2 = 1 ↔ ¬(x.toNat % 2 = 1 ↔ y.toNat % 2 = 1) := by
    rw [UInt32.toNat_xor, Nat.xor_mod_two_eq_one]
  by_cases hx : x.toNat % 2 = 1 <;> by_cases hy : y.toNat % 2 = 1
  · -- Both subtract the polynomial, and the two cancel.
    have hcancel : (x >>> 1 ^^^ polynomial) ^^^ (y >>> 1 ^^^ polynomial)
        = (x >>> 1 ^^^ y >>> 1) ^^^ (polynomial ^^^ polynomial) := by ac_rfl
    rw [shift_of_odd hx, shift_of_odd hy, hcancel, UInt32.xor_self, UInt32.xor_zero,
      shift_of_even fun h => hlow.mp h (iff_of_true hx hy), UInt32.shiftRight_xor]
  · rw [shift_of_odd hx, shift_of_even hy, shift_of_odd (hlow.mpr fun h => hy (h.mp hx)),
      UInt32.shiftRight_xor]
    ac_rfl
  · rw [shift_of_even hx, shift_of_odd hy, shift_of_odd (hlow.mpr fun h => hx (h.mpr hy)),
      UInt32.shiftRight_xor]
    ac_rfl
  · rw [shift_of_even hx, shift_of_even hy,
      shift_of_even fun h => hlow.mp h (iff_of_false hx hy), UInt32.shiftRight_xor]

/-- Only the empty register is shifted to the empty one. -/
theorem eq_zero_of_shift_eq_zero {register : UInt32} (h : shift register = 0) : register = 0 := by
  have hlt : register.toNat < 2 ^ 32 := register.toNat_lt
  by_cases hodd : register.toNat % 2 = 1
  · -- Half a register is below the highest bit, which the polynomial has.
    rw [shift_of_odd hodd, UInt32.xor_eq_zero_iff] at h
    have hhalf := congrArg UInt32.toNat h
    rw [toNat_shiftRight_one] at hhalf
    have hpolynomial : polynomial.toNat = 0xEDB88320 := rfl
    omega
  · rw [shift_of_even hodd] at h
    have hhalf := congrArg UInt32.toNat h
    rw [toNat_shiftRight_one] at hhalf
    have hzero : (0 : UInt32).toNat = 0 := rfl
    apply UInt32.toNat_inj.mp
    omega

/-- Shifting loses nothing. -/
theorem shift_injective : Function.Injective shift := by
  intro x y h
  apply UInt32.xor_eq_zero_iff.mp
  apply eq_zero_of_shift_eq_zero
  rw [shift_xor, h, UInt32.xor_self]

/-! ## Many shifts -/

theorem iterate_shift_xor (n : Nat) (x y : UInt32) :
    shift^[n] (x ^^^ y) = shift^[n] x ^^^ shift^[n] y := by
  induction n generalizing x y with
  | zero => rfl
  | succ n ih => simp only [Function.iterate_succ_apply, shift_xor, ih]

/-- Zeros that are shifted out leave the other bits as they are. -/
theorem iterate_shift_ofNat {n m : Nat} (h : 2 ^ n * m < 2 ^ 32) :
    shift^[n] (UInt32.ofNat (2 ^ n * m)) = UInt32.ofNat m := by
  induction n generalizing m with
  | zero => simp
  | succ n ih =>
    rw [Nat.pow_succ, Nat.mul_assoc] at h ⊢
    have hdouble : 2 * m < 2 ^ 32 :=
      Nat.lt_of_le_of_lt (Nat.le_mul_of_pos_left _ (Nat.two_pow_pos n)) h
    have htoNat : (UInt32.ofNat (2 * m)).toNat = 2 * m := by
      rw [UInt32.toNat_ofNat', Nat.mod_eq_of_lt hdouble]
    rw [Function.iterate_succ_apply', ih h, shift_of_even (by omega)]
    apply UInt32.toNat_inj.mp
    rw [toNat_shiftRight_one, htoNat, UInt32.toNat_ofNat']
    omega

/-! ## Bytes -/

theorem absorb_eq (register : UInt32) (b : UInt8) :
    absorb register b = shift^[8] (register ^^^ b.toUInt32) := rfl

/-- The lowest digit of a number and the others have no bits in common. -/
theorem ofNat_digit_add {digit : Nat} (hdigit : digit < 256) (rest : Nat) :
    UInt32.ofNat (digit + 256 * rest) = UInt32.ofNat digit ^^^ UInt32.ofNat (2 ^ 8 * rest) := by
  have hbits : 2 ^ 8 * rest + digit = digit ^^^ 2 ^ 8 * rest := by
    apply Nat.eq_of_testBit_eq
    intro i
    rw [Nat.testBit_two_pow_mul_add rest hdigit, Nat.testBit_xor, Nat.testBit_two_pow_mul]
    rcases Nat.lt_or_ge i 8 with hi | hi
    · simp [hi, Nat.not_le.mpr hi]
    · have hlt : digit < 2 ^ i :=
        Nat.lt_of_lt_of_le hdigit (Nat.pow_le_pow_right (n := 2) (by decide) hi)
      simp [hi, Nat.not_lt.mpr hi, Nat.testBit_lt_two_pow hlt]
  calc UInt32.ofNat (digit + 256 * rest)
      = UInt32.ofNat (2 ^ 8 * rest + digit) := congrArg UInt32.ofNat (Nat.add_comm _ _)
    _ = UInt32.ofNat digit ^^^ UInt32.ofNat (2 ^ 8 * rest) := by rw [hbits, UInt32.ofNat_xor]

/-- Up to four bytes are fed to a register by adding their number to it and shifting. -/
theorem update_eq_iterate_shift {bytes : Bytes} (hfew : bytes.length ≤ 4) (register : UInt32) :
    update register bytes
      = shift^[8 * bytes.length] (register ^^^ UInt32.ofNat (LittleEndian.decode bytes)) := by
  induction bytes generalizing register with
  | nil => simp [update, LittleEndian.decode]
  | cons b rest ih =>
    have hrest : rest.length ≤ 3 := Nat.le_of_succ_le_succ hfew
    have hbound : LittleEndian.decode rest < 256 ^ 3 :=
      Nat.lt_of_lt_of_le (LittleEndian.decode_lt rest) (Nat.pow_le_pow_right (by decide) hrest)
    -- The later bytes are added above the first one, and come down while that is shifted out.
    have hdown : shift^[8] (UInt32.ofNat (2 ^ 8 * LittleEndian.decode rest))
        = UInt32.ofNat (LittleEndian.decode rest) := iterate_shift_ofNat (by omega)
    calc update register (b :: rest)
        = update (absorb register b) rest := rfl
      _ = shift^[8 * rest.length]
            (absorb register b ^^^ UInt32.ofNat (LittleEndian.decode rest)) := ih (by omega) _
      _ = shift^[8 * rest.length] (shift^[8] (register ^^^ b.toUInt32
            ^^^ UInt32.ofNat (2 ^ 8 * LittleEndian.decode rest))) := by
          rw [absorb_eq, iterate_shift_xor 8 (register ^^^ b.toUInt32), hdown]
      _ = shift^[8 * (b :: rest).length]
            (register ^^^ UInt32.ofNat (LittleEndian.decode (b :: rest))) := by
          rw [← Function.iterate_add_apply, LittleEndian.decode, ofNat_digit_add b.toNat_lt,
            UInt32.ofNat_uInt8ToNat, UInt32.xor_assoc]
          rfl

/-- Whatever is fed to different registers leaves them different. -/
theorem update_injective (bytes : Bytes) :
    Function.Injective fun register => update register bytes := by
  induction bytes with
  | nil => exact fun _ _ h => h
  | cons b rest ih =>
    intro x y h
    have habsorbed : absorb x b = absorb y b := ih h
    rw [absorb_eq, absorb_eq] at habsorbed
    exact (UInt32.xor_left_inj _).mp (shift_injective.iterate 8 habsorbed)

/-- A register tells up to four bytes that were fed to it apart. -/
theorem eq_of_update_eq {xs ys : Bytes} (hlen : xs.length = ys.length) (hfew : ys.length ≤ 4)
    {register : UInt32} (h : update register xs = update register ys) : xs = ys := by
  have hbound : LittleEndian.decode ys < 2 ^ 32 :=
    Nat.lt_of_lt_of_le (LittleEndian.decode_lt ys)
      (Nat.pow_le_pow_right (n := 256) (by decide) hfew)
  have hbound' : LittleEndian.decode xs < 2 ^ 32 :=
    Nat.lt_of_lt_of_le (LittleEndian.decode_lt xs)
      (Nat.pow_le_pow_right (n := 256) (by decide) (hlen ▸ hfew))
  rw [update_eq_iterate_shift hfew, update_eq_iterate_shift (hlen ▸ hfew), hlen] at h
  have hadded := (UInt32.xor_right_inj _).mp (shift_injective.iterate _ h)
  have hdecode := congrArg UInt32.toNat hadded
  rw [UInt32.toNat_ofNat', UInt32.toNat_ofNat', Nat.mod_eq_of_lt hbound,
    Nat.mod_eq_of_lt hbound'] at hdecode
  rw [← LittleEndian.encode_decode xs, hdecode, hlen, LittleEndian.encode_decode]

end Crc32

/-- **A burst shows in the checksum**: strings of one length that agree outside four adjacent
positions and have the same checksum are equal. -/
theorem eq_of_crc32_eq {xs ys : Bytes} {start : Nat} (hlen : xs.length = ys.length)
    (hagree : ∀ i, i < start ∨ start + 4 ≤ i → xs[i]? = ys[i]?) (h : crc32 xs = crc32 ys) :
    xs = ys := by
  have hbefore : xs.take start = ys.take start := by
    apply List.ext_getElem?
    intro i
    rw [List.getElem?_take, List.getElem?_take]
    split
    case isTrue hi => exact hagree i (.inl hi)
    case isFalse => rfl
  have hbehind : (xs.drop start).drop 4 = (ys.drop start).drop 4 := by
    apply List.ext_getElem?
    intro i
    rw [List.drop_drop, List.drop_drop, List.getElem?_drop, List.getElem?_drop]
    exact hagree _ (.inr (Nat.le_add_right _ i))
  have hregisters := (UInt32.xor_left_inj _).mp h
  rw [Crc32.update_take_drop start, Crc32.update_take_drop start _ ys, hbefore,
    Crc32.update_take_drop 4, Crc32.update_take_drop 4 _ (ys.drop start), hbehind] at hregisters
  have hwindow : (xs.drop start).take 4 = (ys.drop start).take 4 :=
    Crc32.eq_of_update_eq (by simp [hlen]) (List.length_take_le 4 _)
      (Crc32.update_injective _ hregisters)
  calc xs = xs.take start ++ ((xs.drop start).take 4 ++ (xs.drop start).drop 4) := by
        rw [List.take_append_drop, List.take_append_drop]
    _ = ys.take start ++ ((ys.drop start).take 4 ++ (ys.drop start).drop 4) := by
        rw [hbefore, hwindow, hbehind]
    _ = ys := by rw [List.take_append_drop, List.take_append_drop]

/-! ## Blanked stretches -/

/-- The bytes with zeros from position `start` up to `stop`. -/
def Bytes.blank (bytes : Bytes) (start stop : Nat) : Bytes :=
  bytes.take start ++ List.replicate (stop - start) 0 ++ bytes.drop stop

section

variable {bytes : Bytes} {start stop : Nat}

theorem Bytes.length_blank (hordered : start ≤ stop) (hinside : stop ≤ bytes.length) :
    (bytes.blank start stop).length = bytes.length := by
  simp only [blank, List.length_append, List.length_take, List.length_replicate, List.length_drop]
  omega

/-- Outside the stretch the bytes are as they were. -/
theorem Bytes.getElem?_blank (hordered : start ≤ stop) (hinside : stop ≤ bytes.length) (i : Nat) :
    (bytes.blank start stop)[i]? = if start ≤ i ∧ i < stop then some 0 else bytes[i]? := by
  have hbefore : (bytes.take start).length = start := List.length_take_of_le (by omega)
  rw [blank, List.append_assoc, List.getElem?_append, List.getElem?_append, hbefore,
    List.length_replicate]
  by_cases hstart : start ≤ i
  · rw [if_neg (Nat.not_lt.mpr hstart)]
    by_cases hstop : i < stop
    · rw [if_pos (Nat.sub_lt_sub_right hstart hstop), if_pos ⟨hstart, hstop⟩]
      simp only [List.getElem?_replicate, ite_eq_left_iff, reduceCtorEq, imp_false]
      omega
    · rw [if_neg (by omega), if_neg fun h => hstop h.2, List.getElem?_drop]
      congr 1
      omega
  · rw [if_pos (Nat.lt_of_not_le hstart), if_neg fun h => hstart h.1,
      List.getElem?_take_of_lt (Nat.lt_of_not_le hstart)]

/-- Bytes that have zeros in the stretch and are the same everywhere else are the blanked ones. -/
theorem Bytes.eq_blank {copy : Bytes} (hordered : start ≤ stop) (hinside : stop ≤ bytes.length)
    (hcopy : ∀ i, copy[i]? = if start ≤ i ∧ i < stop then some 0 else bytes[i]?) :
    copy = bytes.blank start stop := by
  apply List.ext_getElem?
  intro i
  rw [hcopy i, getElem?_blank hordered hinside]

/-- What was in the stretch makes no difference. -/
theorem Bytes.blank_congr {other : Bytes} (hordered : start ≤ stop) (hinside : stop ≤ bytes.length)
    (hlen : other.length = bytes.length)
    (hagree : ∀ i, i < start ∨ stop ≤ i → other[i]? = bytes[i]?) :
    other.blank start stop = bytes.blank start stop := by
  refine eq_blank hordered hinside fun i => ?_
  rw [getElem?_blank hordered (hlen ▸ hinside)]
  by_cases hi : start ≤ i ∧ i < stop
  · rw [if_pos hi, if_pos hi]
  · rw [if_neg hi, if_neg hi]
    exact hagree i (by omega)

/-- The same, where the bytes are given in parts. -/
theorem Bytes.blank_take_append {before hole behind : Bytes} {n : Nat}
    (hbefore : before.length = start) (hhole : (before ++ hole).length = stop) (hn : stop ≤ n) :
    Bytes.blank ((before ++ hole ++ behind).take n) start stop
      = before ++ List.replicate (stop - start) 0 ++ behind.take (n - stop) := by
  have htake : (before ++ hole ++ behind).take n = before ++ hole ++ behind.take (n - stop) := by
    rw [List.take_append, List.take_of_length_le (by omega), hhole]
  rw [htake, blank, ← hhole, List.drop_left, List.append_assoc before hole, ← hbefore,
    List.take_left]

/-- What the checksum with a stretch blanked is computed over. -/
theorem crc32Blanked_eq_ok_iff (hordered : start ≤ stop) (hinside : stop ≤ bytes.length)
    {crc : UInt32} :
    crc32Blanked bytes start stop = .ok crc ↔ crc = crc32 (bytes.blank start stop) := by
  rw [crc32Blanked_eq (Nat.le_trans hordered hinside) hinside, Except.ok.injEq, eq_comm,
    Bytes.blank]

end

/-- A checksum with a stretch blanked, computed in four parts: the registers behind the bytes before
the stretch, behind the zeros, and behind the next `count` bytes are written down, so that each part
is short enough to be evaluated. -/
theorem crc32Blanked_of_registers {bytes : Bytes} {start stop : Nat} (count : Nat)
    {before across behind crc : UInt32} (hinside : start ≤ bytes.length ∧ stop ≤ bytes.length)
    (hbefore : Crc32.update Crc32.initial (bytes.take start) = before)
    (hacross : Crc32.update before (List.replicate (stop - start) 0) = across)
    (hbehind : Crc32.update across ((bytes.drop stop).take count) = behind)
    (hcrc : Crc32.finish (Crc32.update behind ((bytes.drop stop).drop count)) = crc) :
    crc32Blanked bytes start stop = .ok crc := by
  rw [crc32Blanked, if_pos hinside]
  simp only [hbefore, hacross]
  rw [Crc32.update_take_drop count, hbehind, hcrc]

end VolumeScan

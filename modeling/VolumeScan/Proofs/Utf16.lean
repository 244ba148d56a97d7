/-
VolumeScan.Proofs.Utf16 — what decoding does to a string of units.

A surrogate is unpaired if it is neither the first nor the second unit of a pair. As no unit is both
high and low, pairs do not overlap, and whether a unit is paired depends on the units beside it only
(`unpairedAt_succ_iff`). So a string can be taken apart from the front: what is decoded and written
again is the string with its unpaired surrogates replaced, and nothing else changed
(`mends_encode_decode`). A text has no unpaired surrogates, and it is read back from its units
(`decode_encode`).
-/
import VolumeScan.Utf16

namespace VolumeScan

namespace Utf16

variable {unit high low : UInt16} {units rest mended : List UInt16} {i : Nat}

/-! ## Surrogates -/

/-- The unit is one half of a pair, or left over from one. -/
def IsSurrogate (unit : UInt16) : Prop := isHigh unit ∨ isLow unit

theorem isHigh_iff : isHigh unit ↔ 0xD800 ≤ unit.toNat ∧ unit.toNat < 0xDC00 := by
  simp [isHigh]

theorem isLow_iff : isLow unit ↔ 0xDC00 ≤ unit.toNat ∧ unit.toNat < 0xE000 := by
  simp [isLow]

theorem isSurrogate_iff : IsSurrogate unit ↔ 0xD800 ≤ unit.toNat ∧ unit.toNat < 0xE000 := by
  rw [IsSurrogate, isHigh_iff, isLow_iff]
  omega

theorem not_isHigh_of_isLow (h : isLow unit) : ¬isHigh unit := by
  rw [isHigh_iff]
  rw [isLow_iff] at h
  omega

/-- A high surrogate stands at the place, and a low one right behind it. -/
def PairAt (units : List UInt16) (i : Nat) : Prop :=
  ∃ high low, units[i]? = some high ∧ units[i + 1]? = some low ∧ isHigh high ∧ isLow low

/-- A surrogate stands at the place that belongs to no pair. -/
structure UnpairedAt (units : List UInt16) (i : Nat) : Prop where
  surrogate : ∃ unit, units[i]? = some unit ∧ IsSurrogate unit
  not_first : ¬PairAt units i
  not_second : ∀ j, j + 1 = i → ¬PairAt units j

/-- The second string is the first one with its unpaired surrogates replaced, and no other unit
changed. -/
structure Mends (units mended : List UInt16) : Prop where
  replaced : ∀ i, UnpairedAt units i → mended[i]? = some 0xFFFD
  kept : ∀ i, ¬UnpairedAt units i → mended[i]? = units[i]?

theorem pairAt_succ_iff : PairAt (unit :: rest) (i + 1) ↔ PairAt rest i := by
  simp [PairAt]

theorem not_pairAt_zero_of_not_isHigh (h : ¬isHigh unit) : ¬PairAt (unit :: rest) 0 := by
  intro hpair
  obtain ⟨high, low, hat, -, hhigh, -⟩ := hpair
  obtain rfl : unit = high := by simpa using hat
  exact h hhigh

/-- A unit in front of a string matters to the pairing of the first unit behind it only. -/
theorem unpairedAt_succ_iff (h : i = 0 → ¬PairAt (unit :: rest) 0) :
    UnpairedAt (unit :: rest) (i + 1) ↔ UnpairedAt rest i := by
  constructor
  · intro hunpaired
    refine ⟨by simpa using hunpaired.surrogate, ?_, ?_⟩
    · exact fun hpair => hunpaired.not_first (pairAt_succ_iff.mpr hpair)
    · intro j hj hpair
      exact hunpaired.not_second (j + 1) (by omega) (pairAt_succ_iff.mpr hpair)
  · intro hunpaired
    refine ⟨by simpa using hunpaired.surrogate, ?_, ?_⟩
    · exact fun hpair => hunpaired.not_first (pairAt_succ_iff.mp hpair)
    · intro j hj hpair
      obtain rfl : j = i := by omega
      cases j with
      | zero => exact h rfl hpair
      | succ j => exact hunpaired.not_second j rfl (pairAt_succ_iff.mp hpair)

/-! ## Strings taken apart from the front -/

theorem mends_nil : Mends [] [] := by
  constructor
  · intro i hunpaired
    obtain ⟨unit, hat, -⟩ := hunpaired.surrogate
    simp at hat
  · intro i _
    rfl

/-- In front of a string stands a unit that starts no pair. -/
theorem Mends.cons {unit' : UInt16} (h : Mends rest mended) (hpair : ¬PairAt (unit :: rest) 0)
    (hreplaced : IsSurrogate unit → unit' = 0xFFFD) (hkept : ¬IsSurrogate unit → unit' = unit) :
    Mends (unit :: rest) (unit' :: mended) := by
  constructor
  · intro i hunpaired
    cases i with
    | zero =>
      obtain ⟨found, hat, hsurrogate⟩ := hunpaired.surrogate
      obtain rfl : unit = found := by simpa using hat
      simp [hreplaced hsurrogate]
    | succ i => simpa using h.replaced i ((unpairedAt_succ_iff fun _ => hpair).mp hunpaired)
  · intro i hpaired
    cases i with
    | zero =>
      have hordinary : ¬IsSurrogate unit := by
        intro hsurrogate
        exact hpaired ⟨⟨unit, rfl, hsurrogate⟩, hpair, by omega⟩
      simp [hkept hordinary]
    | succ i => simpa using h.kept i (mt (unpairedAt_succ_iff fun _ => hpair).mpr hpaired)

/-- In front of a string stands a pair. -/
theorem Mends.pair (h : Mends rest mended) (hhigh : isHigh high) (hlow : isLow low) :
    Mends (high :: low :: rest) (high :: low :: mended) := by
  have hpair : PairAt (high :: low :: rest) 0 := ⟨high, low, rfl, rfl, hhigh, hlow⟩
  have hbehind : ¬PairAt (low :: rest) 0 :=
    not_pairAt_zero_of_not_isHigh (not_isHigh_of_isLow hlow)
  have hshift : ∀ i, UnpairedAt (high :: low :: rest) (i + 2) ↔ UnpairedAt rest i := by
    intro i
    rw [unpairedAt_succ_iff (by omega), unpairedAt_succ_iff fun _ => hbehind]
  constructor
  · intro i hunpaired
    match i with
    | 0 => exact absurd hpair hunpaired.not_first
    | 1 => exact absurd hpair (hunpaired.not_second 0 rfl)
    | i + 2 => simpa using h.replaced i ((hshift i).mp hunpaired)
  · intro i hpaired
    match i with
    | 0 => rfl
    | 1 => rfl
    | i + 2 => simpa using h.kept i (mt (hshift i).mpr hpaired)

/-! ## Characters and their units -/

/-- A number that a character may have is the number of the character made from it. -/
theorem toNat_char {n : Nat} (h : n.isValidChar) : (Char.ofNat n).toNat = n := by
  rw [Char.ofNat, dif_pos h]
  rfl

theorem toNat_pair (hhigh : isHigh high) (hlow : isLow low) :
    (pair high low).toNat = 0x10000 + 0x400 * (high.toNat - 0xD800) + (low.toNat - 0xDC00) := by
  rw [isHigh_iff] at hhigh
  rw [isLow_iff] at hlow
  exact toNat_char (Or.inr ⟨by omega, by omega⟩)

theorem encode_cons (c : Char) (text : List Char) :
    encode (c :: text) = encodeChar c ++ encode text := rfl

/-- A unit that is no surrogate is the only unit of its character. -/
theorem encodeChar_of_ordinary (h : ¬IsSurrogate unit) :
    encodeChar (Char.ofNat unit.toNat) = [unit] := by
  have hlt : unit.toNat < 0x10000 := unit.toNat_lt
  have hvalid : unit.toNat < 0xD800 ∨ 0xDFFF < unit.toNat ∧ unit.toNat < 0x110000 := by
    rw [isSurrogate_iff] at h
    omega
  rw [encodeChar, toNat_char hvalid, if_pos hlt, UInt16.ofNat_toNat]

/-- A pair is the units of its character. -/
theorem encodeChar_pair (hhigh : isHigh high) (hlow : isLow low) :
    encodeChar (pair high low) = [high, low] := by
  have hnumber := toNat_pair hhigh hlow
  rw [isHigh_iff] at hhigh
  rw [isLow_iff] at hlow
  have hfirst : 0xD800 + ((pair high low).toNat - 0x10000) / 0x400 = high.toNat := by omega
  have hsecond : 0xDC00 + ((pair high low).toNat - 0x10000) % 0x400 = low.toNat := by omega
  rw [encodeChar, if_neg (by omega)]
  simp only [hfirst, hsecond, UInt16.ofNat_toNat]

/-- The units of a character are one unit that is no surrogate, or a pair. -/
theorem encodeChar_cases (c : Char) :
    (∃ unit, encodeChar c = [unit] ∧ ¬IsSurrogate unit ∧ Char.ofNat unit.toNat = c)
      ∨ ∃ high low, encodeChar c = [high, low] ∧ isHigh high ∧ isLow low ∧ pair high low = c := by
  have hvalid : c.toNat < 0xD800 ∨ 0xDFFF < c.toNat ∧ c.toNat < 0x110000 := c.valid
  by_cases hsmall : c.toNat < 0x10000
  · left
    have hunit : (UInt16.ofNat c.toNat).toNat = c.toNat := UInt16.toNat_ofNat_of_lt hsmall
    refine ⟨UInt16.ofNat c.toNat, if_pos hsmall, ?_, by rw [hunit, Char.ofNat_toNat]⟩
    rw [isSurrogate_iff, hunit]
    omega
  · right
    let high := UInt16.ofNat (0xD800 + (c.toNat - 0x10000) / 0x400)
    let low := UInt16.ofNat (0xDC00 + (c.toNat - 0x10000) % 0x400)
    have hhigh : high.toNat = 0xD800 + (c.toNat - 0x10000) / 0x400 :=
      UInt16.toNat_ofNat_of_lt (by change _ < 0x10000; omega)
    have hlow : low.toNat = 0xDC00 + (c.toNat - 0x10000) % 0x400 :=
      UInt16.toNat_ofNat_of_lt (by change _ < 0x10000; omega)
    have hisHigh : isHigh high := isHigh_iff.mpr (by omega)
    have hisLow : isLow low := isLow_iff.mpr (by omega)
    refine ⟨high, low, if_neg hsmall, hisHigh, hisLow, ?_⟩
    apply Char.toNat_inj.mp
    rw [toNat_pair hisHigh hisLow]
    omega

/-- No unit of a text is zero, unless one of its characters is. -/
theorem ne_zero_of_mem_encode {text : List Char} (hnul : '\x00' ∉ text) (h : unit ∈ encode text) :
    unit ≠ 0 := by
  obtain ⟨c, hc, hunit⟩ := List.mem_flatMap.mp h
  rintro rfl
  rcases encodeChar_cases c with ⟨unit, hencode, -, hchar⟩ | ⟨high, low, hencode, hhigh, hlow, -⟩
  · obtain rfl : 0 = unit := by simpa [hencode] using hunit
    exact hnul (hchar ▸ hc)
  · rw [isHigh_iff] at hhigh
    rw [isLow_iff] at hlow
    have heither : 0 = high ∨ 0 = low := by simpa [hencode] using hunit
    rcases heither with rfl | rfl
    · exact absurd hhigh.1 (by decide)
    · exact absurd hlow.1 (by decide)

/-! ## Decoding, by what stands in front -/

theorem decode_of_ordinary (h : ¬IsSurrogate unit) (rest : List UInt16) :
    decode (unit :: rest) = Char.ofNat unit.toNat :: decode rest := by
  obtain ⟨hhigh, hlow⟩ := not_or.mp h
  cases rest with
  | nil => simp [decode, hhigh, hlow]
  | cons next rest => simp [decode, hhigh, hlow]

theorem decode_of_pair (hhigh : isHigh high) (hlow : isLow low) (rest : List UInt16) :
    decode (high :: low :: rest) = pair high low :: decode rest := by
  simp [decode, hhigh, hlow]

/-- A surrogate without a partner does not consume the unit behind it. -/
theorem decode_of_unpaired (h : IsSurrogate unit) (hpair : ¬PairAt (unit :: rest) 0) :
    decode (unit :: rest) = replacement :: decode rest := by
  cases rest with
  | nil =>
    have hsurrogate : (isHigh unit || isLow unit) = true := Bool.or_eq_true_iff.mpr h
    simp only [decode, if_pos hsurrogate]
  | cons next rest =>
    rw [decode]
    by_cases hhigh : isHigh unit
    · have hnext : ¬isLow next := fun hlow => hpair ⟨unit, next, rfl, rfl, hhigh, hlow⟩
      rw [if_pos hhigh, if_neg hnext]
    · rw [if_neg hhigh, if_pos (h.resolve_left hhigh)]

theorem mends_of_unpaired (h : IsSurrogate unit) (hpair : ¬PairAt (unit :: rest) 0)
    (ih : Mends rest (encode (decode rest))) :
    Mends (unit :: rest) (encode (decode (unit :: rest))) := by
  rw [decode_of_unpaired h hpair]
  exact ih.cons hpair (fun _ => rfl) (absurd h)

theorem mends_of_ordinary (h : ¬IsSurrogate unit) (ih : Mends rest (encode (decode rest))) :
    Mends (unit :: rest) (encode (decode (unit :: rest))) := by
  rw [decode_of_ordinary h, encode_cons, encodeChar_of_ordinary h]
  exact ih.cons (not_pairAt_zero_of_not_isHigh (not_or.mp h).1) (absurd · h) (fun _ => rfl)

theorem mends_of_pair (hhigh : isHigh high) (hlow : isLow low)
    (ih : Mends rest (encode (decode rest))) :
    Mends (high :: low :: rest) (encode (decode (high :: low :: rest))) := by
  rw [decode_of_pair hhigh hlow, encode_cons, encodeChar_pair hhigh hlow]
  exact ih.pair hhigh hlow

/-- **Decoding replaces the unpaired surrogates and changes nothing else.** -/
theorem mends_encode_decode (units : List UInt16) : Mends units (encode (decode units)) := by
  induction units using decode.induct with
  | case1 => exact mends_nil
  | case2 unit h => exact mends_of_unpaired (Bool.or_eq_true_iff.mp h) (by simp [PairAt]) mends_nil
  | case3 unit h => exact mends_of_ordinary (mt Bool.or_eq_true_iff.mpr h) mends_nil
  | case4 high low rest hhigh hlow ih => exact mends_of_pair hhigh hlow ih
  | case5 high next rest hhigh hnext ih =>
    refine mends_of_unpaired (.inl hhigh) ?_ ih
    intro hpair
    obtain ⟨-, low, -, hat, -, hlow⟩ := hpair
    obtain rfl : next = low := by simpa using hat
    exact hnext hlow
  | case6 low next rest hhigh hlow ih =>
    exact mends_of_unpaired (.inr hlow) (not_pairAt_zero_of_not_isHigh hhigh) ih
  | case7 unit next rest hhigh hlow ih => exact mends_of_ordinary (not_or.mpr ⟨hhigh, hlow⟩) ih

example : decode [0xD83D, 0xD83D, 0xDCBE, 0x41, 0xDCBE] = ['\uFFFD', '💾', 'A', '\uFFFD'] := by
  decide

/-! ## Texts -/

theorem decode_encodeChar_append (c : Char) (rest : List UInt16) :
    decode (encodeChar c ++ rest) = c :: decode rest := by
  rcases encodeChar_cases c with
    ⟨unit, hencode, hordinary, hchar⟩ | ⟨high, low, hencode, hhigh, hlow, hchar⟩
  · rw [hencode, List.singleton_append, decode_of_ordinary hordinary, hchar]
  · rw [hencode, List.cons_append, List.singleton_append, decode_of_pair hhigh hlow, hchar]

/-- **A text is read back from its units.** -/
theorem decode_encode (text : List Char) : decode (encode text) = text := by
  induction text with
  | nil => rfl
  | cons c rest ih => rw [encode_cons, decode_encodeChar_append, ih]

end Utf16

end VolumeScan

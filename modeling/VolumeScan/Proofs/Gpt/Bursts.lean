/-
VolumeScan.Proofs.Gpt.Bursts — damage to a few adjacent bytes does not go unnoticed.

`Bytes.Burst` says that bytes were changed, and that all the changed ones are among four adjacent
ones. An entry array is covered by its checksum as a whole, so with a burst in it an array is
rejected (`Header.admitArray_burst`).

The checksum of a header covers less: not itself, and nothing behind the announced length. But
behind that length there have to be zeros; and the checksum stands between two words that are known
as well, the announced length in front of it and the reserved word behind it, which has to be zero.
A burst that reaches the checksum is too short to reach over one of them. So either the checksum is
as it was, and what it covers has a burst in it, or the checksum is all that was changed
(`Header.WrittenIn.not_burst`). This takes for granted that the announced length is as it was;
another length may make the checksum cover other bytes.
-/
import VolumeScan.Proofs.Gpt.Encoding
import VolumeScan.Proofs.Gpt.Table

namespace VolumeScan

namespace Bytes

/-- Two strings have the same bytes at the positions from `start` on and before `stop`. -/
def AgreeOn (xs ys : Bytes) (start stop : Nat) : Prop :=
  ∀ i, start ≤ i → i < stop → xs[i]? = ys[i]?

/-- In front of position `limit` bytes were changed, one at least and all of them among four
adjacent ones. -/
structure Burst (bytes damaged : Bytes) (limit : Nat) : Prop where
  length_eq : damaged.length = bytes.length
  changed : damaged ≠ bytes
  confined : ∃ start, ∀ i, i < start ∨ start + 4 ≤ i → damaged[i]? = bytes[i]?
  kept : ∀ i, limit ≤ i → damaged[i]? = bytes[i]?

/-- One other byte is a burst. -/
theorem burst_set {bytes : Bytes} {i limit : Nat} {b : UInt8} (hlimit : i < limit)
    (hi : i < bytes.length) (hb : b ≠ bytes[i]) : Burst bytes (bytes.set i b) limit where
  length_eq := List.length_set
  changed := by
    intro h
    have hat := congrArg (·[i]?) h
    simp only [List.getElem?_set_self hi, List.getElem?_eq_getElem hi, Option.some.injEq] at hat
    exact hb hat
  confined := ⟨i, fun j hj => List.getElem?_set_ne (by omega)⟩
  kept := fun j hj => List.getElem?_set_ne (by omega)

variable {bytes damaged : Bytes} {limit : Nat}

/-- A checksum tells, if the bytes in the blanked stretch and behind the covered ones are as they
were. -/
theorem Burst.crc32_blank_ne (h : Burst bytes damaged limit) {start stop covered : Nat}
    (hordered : start ≤ stop) (hstop : stop ≤ covered) (hcovered : covered ≤ bytes.length)
    (hstretch : AgreeOn damaged bytes start stop)
    (hbehind : ∀ i, covered ≤ i → damaged[i]? = bytes[i]?) :
    crc32 (blank (damaged.take covered) start stop)
      ≠ crc32 (blank (bytes.take covered) start stop) := by
  intro hcrc
  obtain ⟨first, hconfined⟩ := h.confined
  have hlength : (bytes.take covered).length = covered := List.length_take_of_le hcovered
  have hlength' : (damaged.take covered).length = covered :=
    List.length_take_of_le (h.length_eq ▸ hcovered)
  have hat := getElem?_blank hordered (Nat.le_trans hstop (Nat.le_of_eq hlength.symm))
  have hat' := getElem?_blank hordered (Nat.le_trans hstop (Nat.le_of_eq hlength'.symm))
  have hagree : ∀ i, i < first ∨ first + 4 ≤ i →
      (blank (damaged.take covered) start stop)[i]?
        = (blank (bytes.take covered) start stop)[i]? := by
    intro i houtside
    rw [hat, hat', List.getElem?_take, List.getElem?_take, hconfined i houtside]
  have hsame := eq_of_crc32_eq
    (by rw [length_blank hordered (by omega), length_blank hordered (by omega), hlength, hlength'])
    hagree hcrc
  apply h.changed
  apply List.ext_getElem?
  intro i
  by_cases hi : start ≤ i ∧ i < stop
  · exact hstretch i hi.1 hi.2
  · rcases Nat.lt_or_ge i covered with hlt | hge
    · have hi' := congrArg (·[i]?) hsame
      simp only [hat, hat', if_neg hi, List.getElem?_take_of_lt hlt] at hi'
      exact hi'
    · exact hbehind i hge

/-- A checksum of all bytes in front of the limit tells. -/
theorem Burst.crc32_take_ne (h : Burst bytes damaged limit) (hlimit : limit ≤ bytes.length) :
    crc32 (damaged.take limit) ≠ crc32 (bytes.take limit) := by
  have hne := h.crc32_blank_ne (Nat.le_refl 0) (Nat.zero_le limit) hlimit
    (fun i _ hi => absurd hi (Nat.not_lt_zero i)) h.kept
  simpa [blank] using hne

/-- A burst that reaches a place between two stretches of four bytes that are as they were changes
nothing outside this place. -/
theorem Burst.eq_outside (h : Burst bytes damaged limit) {start stop i : Nat}
    (hbefore : AgreeOn damaged bytes start (start + 4))
    (hbehind : AgreeOn damaged bytes stop (stop + 4))
    (hbetween : ¬AgreeOn damaged bytes (start + 4) stop) (hi : ¬(start + 4 ≤ i ∧ i < stop)) :
    damaged[i]? = bytes[i]? := by
  obtain ⟨first, hconfined⟩ := h.confined
  obtain ⟨reached, hge, hlt, hne⟩ :
      ∃ j, start + 4 ≤ j ∧ j < stop ∧ damaged[j]? ≠ bytes[j]? := by
    simpa [AgreeOn] using hbetween
  have hinside : first ≤ reached ∧ reached < first + 4 := by
    by_contra houtside
    exact hne (hconfined reached (by omega))
  by_cases houtside : i < first ∨ first + 4 ≤ i
  · exact hconfined i houtside
  · rcases Nat.lt_or_ge i (start + 4) with hlow | hhigh
    · exact hbefore i (by omega) hlow
    · exact hbehind i (by omega) (by omega)

end Bytes

namespace Gpt

namespace Header

open Bytes

variable {header header' : Header} {buffer damaged extension extension' : Bytes}
  {slot : HeaderCopy} {sectorSize totalSectors : Nat}

/-! ## The array -/

/-- An accepted array is long enough and has the checksum that the header carries. -/
theorem crc_of_admitArray {table : Bytes} (h : header.admitArray table = .ok ()) :
    header.arrayLen ≤ table.length
      ∧ header.entriesCrc = crc32 (table.take header.arrayLen) := by
  unfold admitArray at h
  simp only [bind_eq_ok_iff, require_eq_ok_iff, exists_const] at h
  obtain ⟨hlength, array, harray, hcrc, -⟩ := h
  rw [slice_of_le (by omega), List.drop_zero, Except.ok.injEq] at harray
  exact ⟨hlength, harray ▸ hcrc⟩

/-- With a burst in it, it has another checksum. -/
theorem entriesCrc_ne_of_burst {table damaged : Bytes} (h : header.admitArray table = .ok ())
    (hburst : Burst table damaged header.arrayLen) :
    header.entriesCrc ≠ crc32 (damaged.take header.arrayLen) := by
  obtain ⟨hlength, hcrc⟩ := crc_of_admitArray h
  rw [hcrc]
  exact (hburst.crc32_take_ne hlength).symm

/-- **A burst in an entry array is noticed**: the array does not have its checksum any more. -/
theorem admitArray_burst {table damaged : Bytes} (h : header.admitArray table = .ok ())
    (hburst : Burst table damaged header.arrayLen) :
    header.admitArray damaged = .error (.invalid .tableChecksum) := by
  have hlength : header.arrayLen ≤ damaged.length := by
    rw [hburst.length_eq]
    exact (crc_of_admitArray h).1
  have hcrc := entriesCrc_ne_of_burst h hburst
  unfold admitArray
  rw [require_of_pos _ hlength, slice_of_le (by omega), List.drop_zero]
  show (require _ _ >>= fun _ => _) = _
  rw [require_of_neg _ hcrc]
  rfl

/-! ## The header -/

/-- The bytes of a field, where it stands. -/
theorem WrittenIn.getElem?_field (h : header.WrittenIn buffer extension sectorSize) (index : Nat)
    {start i : Nat} {field : Bytes} (hat : header.fields[index]? = some field)
    (hstart : fieldStart index = start) (hge : start ≤ i) (hlt : i < start + field.length) :
    buffer[i]? = field[i - start]? := by
  have hslice : slice (header.encode extension sectorSize) start field.length = .ok field :=
    slice_encode index hat hstart rfl
  rw [← h.sector_eq] at hslice
  have hfield := getElem?_of_slice hslice hge hlt
  rw [List.getElem?_take] at hfield
  split at hfield
  case isTrue => exact hfield
  case isFalse => exact absurd hfield.symm (by rw [List.getElem?_eq_none_iff]; omega)

/-- Behind the announced length there are zeros up to the end of the sector. -/
theorem WrittenIn.getElem?_tail (h : header.WrittenIn buffer extension sectorSize) {i : Nat}
    (hge : header.headerSize.toNat ≤ i) (hlt : i < sectorSize) : buffer[i]? = some 0 := by
  have hsize := h.extension_eq
  have hslice : slice (header.encode extension sectorSize) _ _ = _ :=
    header.slice_encode_tail (by omega)
  rw [← h.sector_eq, hsize] at hslice
  have hzero := getElem?_of_slice hslice hge (by omega)
  rwa [List.getElem?_take_of_lt hlt, List.getElem?_replicate_of_lt (by omega)] at hzero

/-- Two sectors agree in the place of a word exactly if they hold the same word there. -/
theorem WrittenIn.agreeOn_iff (h : header.WrittenIn buffer extension sectorSize)
    (h' : header'.WrittenIn damaged extension' sectorSize) (index : Nat) {start : Nat}
    {word word' : UInt32} (hat : header.fields[index]? = some (LittleEndian.encode 4 word.toNat))
    (hat' : header'.fields[index]? = some (LittleEndian.encode 4 word'.toNat))
    (hstart : fieldStart index = start) :
    AgreeOn damaged buffer start (start + 4) ↔ word' = word := by
  have hplace : ∀ i, start ≤ i → i < start + 4 →
      buffer[i]? = (LittleEndian.encode 4 word.toNat)[i - start]?
        ∧ damaged[i]? = (LittleEndian.encode 4 word'.toNat)[i - start]? :=
    fun i hge hlt => ⟨h.getElem?_field index hat hstart hge (by rwa [LittleEndian.length_encode]),
      h'.getElem?_field index hat' hstart hge (by rwa [LittleEndian.length_encode])⟩
  constructor
  · intro hagree
    apply LittleEndian.encode_inj32.mp
    apply List.ext_getElem?
    intro i
    rcases Nat.lt_or_ge i 4 with hlt | hge
    · obtain ⟨hbuffer, hdamaged⟩ := hplace (start + i) (by omega) (by omega)
      rw [Nat.add_sub_cancel_left] at hbuffer hdamaged
      rw [← hdamaged, ← hbuffer]
      exact hagree _ (by omega) (by omega)
    · rw [List.getElem?_eq_none (by rwa [LittleEndian.length_encode]),
        List.getElem?_eq_none (by rwa [LittleEndian.length_encode])]
  · rintro rfl i hge hlt
    obtain ⟨hbuffer, hdamaged⟩ := hplace i hge hlt
    rw [hbuffer, hdamaged]

/-- The checksum of a written header covers the place of the checksum. -/
theorem WrittenIn.crcStop_le (h : header.WrittenIn buffer extension sectorSize) :
    crcStop ≤ header.headerSize.toNat := by
  rw [← h.extension_eq]
  exact Nat.le_trans (by decide) (Nat.le_add_right minHeaderSize _)

/-- The bytes that the checksum of a written header is computed over. -/
theorem WrittenIn.getElem?_blank (h : header.WrittenIn buffer extension sectorSize)
    (hsize : header.headerSize.toNat ≤ sectorSize) (i : Nat) :
    (blank (buffer.take header.headerSize.toNat) crcStart crcStop)[i]?
      = if crcStart ≤ i ∧ i < crcStop then some 0
        else if i < header.headerSize.toNat then buffer[i]? else none := by
  have hinside : crcStop ≤ (buffer.take header.headerSize.toNat).length := by
    rw [List.length_take_of_le (Nat.le_trans hsize h.sector_le)]
    exact h.crcStop_le
  rw [Bytes.getElem?_blank (by decide) hinside, List.getElem?_take]

/-- **A burst leaves no written header**, unless it changes the announced length. -/
theorem WrittenIn.not_burst (h : header.WrittenIn buffer extension sectorSize)
    (h' : header'.WrittenIn damaged extension' sectorSize)
    (hsize : header.headerSize.toNat ≤ sectorSize)
    (hannounced : AgreeOn damaged buffer 0x0C 0x10) : ¬Burst buffer damaged sectorSize := by
  intro hburst
  have hsame : header'.headerSize = header.headerSize :=
    (h.agreeOn_iff h' 2 rfl rfl (by decide)).mp hannounced
  have hreserved : AgreeOn damaged buffer 0x14 0x18 :=
    (h.agreeOn_iff h' 4 rfl rfl (by decide)).mpr rfl
  have hchecksum : AgreeOn damaged buffer crcStart crcStop ↔ header'.headerCrc = header.headerCrc :=
    h.agreeOn_iff h' 3 rfl rfl (by decide)
  have htail : ∀ i, header.headerSize.toNat ≤ i → damaged[i]? = buffer[i]? := by
    intro i hge
    rcases Nat.lt_or_ge i sectorSize with hlt | hbehind
    · rw [h.getElem?_tail hge hlt, h'.getElem?_tail (hsame ▸ hge) hlt]
    · exact hburst.kept i hbehind
  have hcrc := h.headerCrc_eq
  have hcrc' := h'.headerCrc_eq
  rw [hsame] at hcrc'
  by_cases hkept : AgreeOn damaged buffer crcStart crcStop
  · -- The checksum is as it was, and so is what it is not computed over.
    apply hburst.crc32_blank_ne (by decide) h.crcStop_le (Nat.le_trans hsize h.sector_le) hkept
      htail
    rw [← hcrc, ← hcrc', hchecksum.mp hkept]
  · -- The checksum was changed, and nothing that it is computed over.
    apply hkept
    rw [hchecksum, hcrc, hcrc']
    congr 1
    apply List.ext_getElem?
    intro i
    have hat := h.getElem?_blank hsize i
    have hat' := h'.getElem?_blank (hsame ▸ hsize) i
    rw [hsame] at hat'
    rw [hat, hat']
    by_cases hi : crcStart ≤ i ∧ i < crcStop
    · rw [if_pos hi, if_pos hi]
    · rw [if_neg hi, if_neg hi, hburst.eq_outside hannounced hreserved hkept hi]

/-- **A burst in a header is noticed**, unless it changes the announced length. -/
theorem validate_burst (h : validate buffer slot sectorSize totalSectors = .ok header)
    (hburst : Burst buffer damaged sectorSize) (hannounced : AgreeOn damaged buffer 0x0C 0x10) :
    ∃ error, validate damaged slot sectorSize totalSectors = .error error := by
  cases hdamaged : validate damaged slot sectorSize totalSectors with
  | error error => exact ⟨error, rfl⟩
  | ok header' =>
    obtain ⟨_, hwritten⟩ := writtenIn_of_validate h
    obtain ⟨_, hwritten'⟩ := writtenIn_of_validate hdamaged
    exact absurd hburst (hwritten.not_burst hwritten' (validate_valid h).headerSize_le hannounced)

end Header

end Gpt

end VolumeScan

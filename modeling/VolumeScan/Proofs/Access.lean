/-
VolumeScan.Proofs.Access — the accesses to devices agree on what can be read.

Devices that are hosted are read by somebody else (`Device.Reader`), of whom no more is asked than
that a buffer is filled with the bytes of the device or not at all (`Device.Reader.Complete`).
Whoever that is, reading through a volume is reading with `Access.hosted`
(`Device.Reader.Complete.reporting_eq`). Compared with devices that are resident, nothing differs in
front of the device (`Disks.readBy_of_refused`), and on the device only two things do: what a read
of nothing behind its end comes to, and which error is reported (`Disks.hosted_and_resident_agree`).
-/
import Mathlib.Algebra.Group.Nat.Defs
import VolumeScan.Disks

namespace VolumeScan

/-! ## The two accesses -/

namespace Access

variable {device : Device} {pos len : Nat}

theorem read_hosted_of_fits (h : len = 0 ∨ pos + len ≤ device.size) :
    hosted.read device pos len = .ok (device.read pos len) := if_pos h

theorem read_hosted_of_short (hlen : len ≠ 0) (h : device.size < pos + len) :
    hosted.read device pos len = .error (.io pos) :=
  if_neg (not_or.mpr ⟨hlen, Nat.not_le.mpr h⟩)

theorem read_resident_of_fits (h : pos + len ≤ device.size) :
    resident.read device pos len = .ok (device.read pos len) := if_pos h

theorem read_resident_of_short (h : device.size < pos + len) :
    resident.read device pos len = .error (.read 0 pos len) := if_neg (Nat.not_le.mpr h)

end Access

/-! ## Devices that are read by somebody else -/

/-- A way of reading devices, with failures of its own kind. -/
abbrev Device.Reader (ε : Type) := (device : Device) → (pos len : Nat) → Except ε (Block len)

namespace Device.Reader

variable {ε : Type} {reader : Reader ε}

/-- The reader fills a buffer, or fails. -/
structure Complete (reader : Reader ε) : Prop where
  /-- A read of at least one byte succeeds exactly if it lies on the device. -/
  succeeds_iff : ∀ {device : Device} {pos len : Nat}, 0 < len →
    ((∃ block, reader device pos len = .ok block) ↔ pos + len ≤ device.size)
  /-- A read of nothing succeeds everywhere. -/
  succeeds_empty : ∀ (device : Device) (pos : Nat), ∃ block, reader device pos 0 = .ok block
  /-- What is read are the bytes of the device. -/
  block_eq : ∀ {device : Device} {pos len : Nat} {block : Block len},
    reader device pos len = .ok block → device.read pos len = block

/-- Report each failure with the position that was asked for. -/
def reporting (reader : Reader ε) (device : Device) (pos len : Nat) : Except Error (Block len) :=
  (reader device pos len).mapError fun _ => .io pos

/-- With its failures reported, every reader that fills buffers is the same. -/
theorem Complete.reporting_eq (h : reader.Complete) (device : Device) (pos len : Nat) :
    reader.reporting device pos len = Access.hosted.read device pos len := by
  have hserved : ∀ block, reader device pos len = .ok block →
      reader.reporting device pos len = .ok (device.read pos len) := by
    intro block hblock
    rw [reporting, hblock, h.block_eq hblock]
    rfl
  rcases Nat.eq_zero_or_pos len with rfl | hlen
  · obtain ⟨block, hblock⟩ := h.succeeds_empty device pos
    rw [hserved block hblock, Access.read_hosted_of_fits (.inl rfl)]
  rcases Nat.lt_or_ge device.size (pos + len) with hshort | hfits
  · rw [Access.read_hosted_of_short (Nat.ne_of_gt hlen) hshort]
    cases hanswer : reader device pos len with
    | error failure =>
      rw [reporting, hanswer]
      rfl
    | ok block =>
      exact absurd ((h.succeeds_iff hlen).mp ⟨block, hanswer⟩) (Nat.not_le.mpr hshort)
  · obtain ⟨block, hblock⟩ := (h.succeeds_iff hlen).mpr hfits
    rw [hserved block hblock, Access.read_hosted_of_fits (.inr hfits)]

end Device.Reader

/-! ## Reading through a volume -/

namespace Disks

section

/-- Read `len` bytes, starting `pos` bytes into a volume, from devices that are read by `serve`. -/
def readBy (serve : (device : Device) → (pos len : Nat) → Except Error (Block len))
    (devices : List Device) (volume : Volume) (pos len : Nat) : Except Error (Block len) :=
  match devices[volume.deviceId.toNat]? with
  | none => .error (.read volume.deviceId pos len)
  | some device =>
    if pos + len ≤ volume.byteLen ∧ volume.firstByte.toNat + pos < wordLimit then
      (serve device (volume.firstByte.toNat + pos) len).mapError (relabel volume pos)
    else .error (.read volume.deviceId pos len)

variable {serve : (device : Device) → (pos len : Nat) → Except Error (Block len)}
  {devices : List Device} {volume : Volume} {pos len : Nat}

/-- An access is one way of reading the devices. -/
theorem read_eq_readBy (disks : Disks) (volume : Volume) (pos len : Nat) :
    disks.read volume pos len = readBy disks.access.read disks.devices volume pos len := rfl

/-- A read that does not get as far as a device is refused as it was asked for. -/
theorem readBy_of_refused
    (h : devices[volume.deviceId.toNat]? = none ∨ volume.byteLen < pos + len
      ∨ wordLimit ≤ volume.firstByte.toNat + pos) :
    readBy serve devices volume pos len = .error (.read volume.deviceId pos len) := by
  unfold readBy
  cases hdevice : devices[volume.deviceId.toNat]? with
  | none => rfl
  | some device =>
    rw [hdevice] at h
    exact if_neg (by simp at h; omega)

/-- Other reads are served by the device of the volume. -/
theorem readBy_of_inside {device : Device} (hdevice : devices[volume.deviceId.toNat]? = some device)
    (hinside : pos + len ≤ volume.byteLen) (hword : volume.firstByte.toNat + pos < wordLimit) :
    readBy serve devices volume pos len
      = (serve device (volume.firstByte.toNat + pos) len).mapError (relabel volume pos) := by
  unfold readBy
  rw [hdevice]
  exact if_pos ⟨hinside, hword⟩

end

/-- **Hosted and resident devices agree.** Let hosted devices be read by anybody who fills buffers
or fails. A read of at least one byte, and a read of nothing up to the end of the device, succeeds
with the same bytes whether the devices are hosted or resident, or fails in both cases. It fails in
the same way if there is no such device, or if the read runs past the volume or past the last 64-bit
address. Otherwise the device serves it, and if that is too short, a hosted one reports the position
on the device, and a resident one is reported as the volume and the position in it. -/
theorem hosted_and_resident_agree {ε : Type} {reader : Device.Reader ε} (hreader : reader.Complete)
    (devices : List Device) (volume : Volume) (pos len : Nat) :
    let hosted := readBy reader.reporting devices volume pos len
    let resident := read ⟨.resident, devices⟩ volume pos len
    let refused : Except Error (Block len) := .error (.read volume.deviceId pos len)
    let start := volume.firstByte.toNat + pos
    hosted = read ⟨.hosted, devices⟩ volume pos len
      ∧ ((len ≠ 0 ∨ ∀ device, devices[volume.deviceId.toNat]? = some device → start ≤ device.size) →
        (∃ block, hosted = .ok block ∧ resident = .ok block)
          ∨ ∃ error error', hosted = .error error ∧ resident = .error error')
      ∧ (devices[volume.deviceId.toNat]? = none ∨ volume.byteLen < pos + len ∨ 2 ^ 64 - 1 < start →
        hosted = refused ∧ resident = refused)
      ∧ ∀ device, devices[volume.deviceId.toNat]? = some device → pos + len ≤ volume.byteLen →
        start ≤ 2 ^ 64 - 1 →
        (start + len ≤ device.size →
            hosted = .ok (device.read start len) ∧ resident = .ok (device.read start len))
          ∧ (device.size < start + len →
            (len ≠ 0 → hosted = .error (.io start)) ∧ resident = refused) := by
  intro hosted resident refused start
  have hserve : reader.reporting = Access.hosted.read := by
    funext device pos len
    exact hreader.reporting_eq device pos len
  have hrefused : devices[volume.deviceId.toNat]? = none ∨ volume.byteLen < pos + len
      ∨ 2 ^ 64 - 1 < start → hosted = refused ∧ resident = refused := by
    intro h
    have hword : 2 ^ 64 - 1 < start → wordLimit ≤ start := Nat.succ_le_of_lt
    have h' := h.imp_right (Or.imp_right hword)
    exact ⟨readBy_of_refused h', readBy_of_refused h'⟩
  have hserved : ∀ device, devices[volume.deviceId.toNat]? = some device →
      pos + len ≤ volume.byteLen → start ≤ 2 ^ 64 - 1 →
      (start + len ≤ device.size →
          hosted = .ok (device.read start len) ∧ resident = .ok (device.read start len))
        ∧ (device.size < start + len →
          (len ≠ 0 → hosted = .error (.io start)) ∧ resident = refused) := by
    intro device hdevice hinside hstart
    have hword : start < wordLimit := Nat.lt_succ_of_le hstart
    have hhosted : hosted
        = (Access.hosted.read device start len).mapError (relabel volume pos) := by
      rw [← hserve]
      exact readBy_of_inside hdevice hinside hword
    have hresident :
        resident = (Access.resident.read device start len).mapError (relabel volume pos) :=
      readBy_of_inside hdevice hinside hword
    rw [hhosted, hresident]
    refine ⟨fun hfits => ?_, fun hshort => ⟨fun hlen => ?_, ?_⟩⟩
    · rw [Access.read_hosted_of_fits (.inr hfits), Access.read_resident_of_fits hfits]
      exact ⟨rfl, rfl⟩
    · rw [Access.read_hosted_of_short hlen hshort]
      rfl
    · rw [Access.read_resident_of_short hshort]
      rfl
  refine ⟨by rw [read_eq_readBy, ← hserve], fun hcommon => ?_, hrefused, hserved⟩
  by_cases h : devices[volume.deviceId.toNat]? = none ∨ volume.byteLen < pos + len
      ∨ 2 ^ 64 - 1 < start
  · exact .inr ⟨_, _, hrefused h⟩
  · obtain ⟨hdevice, h⟩ := not_or.mp h
    obtain ⟨hinside, hstart⟩ := not_or.mp h
    obtain ⟨device, hat⟩ := Option.ne_none_iff_exists'.mp hdevice
    obtain ⟨hfits, hshort⟩ :=
      hserved device hat (Nat.le_of_not_lt hinside) (Nat.le_of_not_lt hstart)
    rcases Nat.lt_or_ge device.size (start + len) with hbeyond | hon
    · -- A read of nothing up to the end of the device is not too long for it.
      have hlen : len ≠ 0 := by
        rintro rfl
        have hup := hcommon.resolve_left (fun hne => hne rfl) device hat
        omega
      obtain ⟨hhosted, hresident⟩ := hshort hbeyond
      exact .inr ⟨_, _, hhosted hlen, hresident⟩
    · exact .inl ⟨_, hfits hon⟩

/-- A reader that does not say why it failed. -/
def terseReader : Device.Reader Unit := fun device pos len =>
  if len = 0 ∨ pos + len ≤ device.size then .ok (device.read pos len) else .error ()

theorem complete_terseReader : terseReader.Complete where
  succeeds_iff := by
    intro device pos len hlen
    by_cases hfits : pos + len ≤ device.size <;> simp [terseReader, hfits, Nat.ne_of_gt hlen]
  succeeds_empty := fun device pos => ⟨device.read pos 0, if_pos (.inl rfl)⟩
  block_eq := by
    intro device pos len block hblock
    by_cases hfits : len = 0 ∨ pos + len ≤ device.size
    · exact Except.ok.inj ((if_pos hfits).symm.trans hblock)
    · cases (if_neg hfits).symm.trans hblock

/-- A volume of 100 bytes from byte 4 of its device on. -/
def longVolume : Volume where
  method := .memory
  deviceId := 0
  partition := some 0
  alignment := 1
  sectorSize := 1
  mediaId := 0
  sectorCount := 100
  firstByte := 4
  kind := .unclassified

/-- The volume on a device of ten bytes: a read up to its last byte but one, and one that runs past
its end. -/
theorem longVolume_on_ten_bytes :
    let devices := [Device.ofArray #[0, 1, 2, 3, 4, 5, 6, 7, 8, 9]]
    terseReader.Complete
      ∧ readBy terseReader.reporting devices longVolume 2 3 = .ok ⟨[6, 7, 8], rfl⟩
      ∧ read ⟨.resident, devices⟩ longVolume 2 3 = .ok ⟨[6, 7, 8], rfl⟩
      ∧ readBy terseReader.reporting devices longVolume 5 3 = .error (.io 9)
      ∧ read ⟨.resident, devices⟩ longVolume 5 3 = .error (.read 0 5 3) := by
  intro devices
  obtain ⟨-, -, -, hinside⟩ := hosted_and_resident_agree complete_terseReader devices longVolume 2 3
  obtain ⟨-, -, -, hbeyond⟩ := hosted_and_resident_agree complete_terseReader devices longVolume 5 3
  obtain ⟨hserved, -⟩ := hinside _ rfl (by decide) (by decide)
  obtain ⟨-, hshort⟩ := hbeyond _ rfl (by decide) (by decide)
  obtain ⟨hhosted, hresident⟩ := hserved (by decide)
  obtain ⟨hhosted', hresident'⟩ := hshort (by decide)
  exact ⟨complete_terseReader, hhosted, hresident, hhosted' (by decide), hresident'⟩

end Disks

end VolumeScan

/-
VolumeScan.Proofs.Faults — reading and checking data is no fault, whatever the data are.

An access past the end of a buffer and a number that leaves its machine word are faults in the
definitions (`Error.fault`). A computation is `Faultless` if it gives a result or an error that can
be reported. There is one rule for each kind of step, and a sequence may use in its later steps what
its earlier checks have found out (`Faultless.bind`). So a header is checked without a fault in
every buffer (`Gpt.Header.faultless_validate`), an entry array under every header that was accepted,
and a legacy table on every volume; and devices are read without one
(`Environment.faultless_ofDisks`).
-/
import VolumeScan.Proofs.Scan.Table
import VolumeScan.Scan.Environment

namespace VolumeScan

/-- An error that says something about data, devices, memory or the registry: neither a fault nor a
length that is not a number. -/
def Error.Reportable (error : Error) : Prop := error ≠ .fault ∧ error ≠ .biggerThanMemory

theorem Error.reportable_invalid (defect : Defect) : (Error.invalid defect).Reportable :=
  ⟨nofun, nofun⟩

/-- The computation gives a result, or an error that can be reported. -/
def Faultless {α : Type} (x : Except Error α) : Prop :=
  ∀ error, x = .error error → error.Reportable

namespace Faultless

variable {α β : Type}

theorem ok (a : α) : Faultless (.ok a) := nofun

theorem of_eq_ok {x : Except Error α} {a : α} (h : x = .ok a) : Faultless x := by
  rw [h]
  exact ok a

theorem error {error : Error} (h : error.Reportable) : Faultless (.error error : Except Error α) :=
  fun _ heq => Except.error.inj heq ▸ h

/-- A step may rely on what the steps before it have found out. -/
theorem bind {x : Except Error α} {f : α → Except Error β} (h : Faultless x)
    (hf : ∀ a, x = .ok a → Faultless (f a)) : Faultless (x >>= f) := by
  cases hx : x with
  | ok a => exact hf a hx
  | error error => exact Faultless.error (h error hx)

theorem require (p : Prop) [Decidable p] (defect : Defect) :
    Faultless (VolumeScan.require p defect) := by
  by_cases hp : p
  · exact of_eq_ok (require_of_pos defect hp)
  · rw [require_of_neg defect hp]
    exact error (Error.reportable_invalid defect)

/-- A choice between a result and an error. -/
theorem ite (p : Prop) [Decidable p] (a : α) {error : Error} (h : error.Reportable) :
    Faultless (if p then .ok a else .error error) := by
  by_cases hp : p
  · rw [if_pos hp]
    exact ok a
  · rw [if_neg hp]
    exact Faultless.error h

theorem mapError {x : Except Error α} {f : Error → Error} (h : Faultless x)
    (hf : ∀ error, error.Reportable → (f error).Reportable) : Faultless (x.mapError f) := by
  cases hx : x with
  | ok a => exact ok a
  | error error => exact Faultless.error (hf error (h error hx))

theorem forM {check : α → Except Error Unit} {xs : List α} (h : ∀ x ∈ xs, Faultless (check x)) :
    Faultless (xs.forM check) := by
  induction xs with
  | nil => exact ok ()
  | cons x rest ih =>
    have hstep : (x :: rest).forM check = check x >>= fun _ => rest.forM check := rfl
    rw [hstep]
    exact bind (h x List.mem_cons_self) fun _ _ => ih fun y hy => h y (List.mem_cons_of_mem _ hy)

/-! ## Fields of a buffer -/

variable {bytes : Bytes} {start : Nat}

theorem slice {len : Nat} (h : start + len ≤ bytes.length) :
    Faultless (Bytes.slice bytes start len) := of_eq_ok (Bytes.slice_of_le h)

theorem word32 (h : start + 4 ≤ bytes.length) : Faultless (Bytes.word32 bytes start) := by
  unfold Bytes.word32
  rw [Bytes.slice_of_le h]
  exact ok _

theorem word64 (h : start + 8 ≤ bytes.length) : Faultless (Bytes.word64 bytes start) := by
  unfold Bytes.word64
  rw [Bytes.slice_of_le h]
  exact ok _

theorem crc32Blanked {stop : Nat} (hstart : start ≤ bytes.length) (hstop : stop ≤ bytes.length) :
    Faultless (VolumeScan.crc32Blanked bytes start stop) := of_eq_ok (crc32Blanked_eq hstart hstop)

end Faultless

/-! ## The registry -/

namespace Registry

theorem faultless_volume (registry : Registry) (index : Nat) :
    Faultless (registry.volume index) := by
  unfold Registry.volume
  cases registry.get? index with
  | none => exact .error ⟨nofun, nofun⟩
  | some volume => exact .ok volume

theorem faultless_classify (registry : Registry) (index : Nat) (kind : VolumeKind) :
    Faultless (registry.classify index kind) :=
  .bind (registry.faultless_volume index) fun _ _ => .bind (.require _ _) fun _ _ => .ok _

theorem faultless_seed (registry : Registry) (volume : Volume) :
    Faultless (registry.seed volume) := by
  refine .bind (.require _ _) fun _ _ => .bind (.require _ _) fun _ _ => ?_
  cases registry.append volume with
  | none => exact .error ⟨nofun, nofun⟩
  | some grown => exact .ok _

end Registry

/-! ## Legacy tables -/

namespace Mbr

/-- A table can be read from every sector of 512 bytes. -/
theorem faultless_ofSector {sector : Bytes} (h : sector.length = sectorSize) :
    Faultless (ofSector sector) := by
  obtain ⟨_, hmbr⟩ := exists_ofSector h
  exact .of_eq_ok hmbr

theorem Entry.faultless_check (entry : Entry) (volume : Volume) :
    Faultless (entry.check volume) := by
  unfold Entry.check
  refine .bind (.require _ _) fun _ _ => ?_
  cases entry.byteExtent? volume.sectorSize.toNat with
  | none => exact .error (Error.reportable_invalid _)
  | some range =>
    exact .bind (.require _ _) fun _ _ => .bind (.require _ _) fun _ _ => .require _ _

/-- A table is checked without a fault, whatever it says. -/
theorem faultless_validate (mbr : Mbr) (volume : Volume) : Faultless (mbr.validate volume) := by
  unfold validate
  refine .bind (.require _ _) fun _ _ => .bind (.require _ _) fun _ _ => ?_
  refine .bind (.forM fun entry _ => entry.faultless_check volume) fun _ _ => ?_
  split
  · exact .error ⟨nofun, nofun⟩
  · exact .ok ()

end Mbr

/-! ## GPTs -/

namespace Gpt

/-- A header is checked without a fault, whatever the buffer and the sizes are. -/
theorem Header.faultless_validate (buffer : Bytes) (slot : HeaderCopy)
    (sectorSize totalSectors : Nat) :
    Faultless (Header.validate buffer slot sectorSize totalSectors) := by
  unfold Header.validate
  refine .bind (.require _ _) fun _ hlong => ?_
  obtain ⟨hbuffer, hminimum⟩ := require_eq_ok_iff.mp hlong
  refine .bind (.slice (by omega)) fun sector hsector => ?_
  have hlength : sector.length = sectorSize := Bytes.length_of_slice hsector
  unfold minHeaderSize at hminimum
  refine .bind (.slice (by omega)) fun _ _ => .bind (.require _ _) fun _ _ => ?_
  refine .bind (.word32 (by omega)) fun _ _ => .bind (.require _ _) fun _ _ => ?_
  refine .bind (.word32 (by omega)) fun headerSize _ => .bind (.require _ _) fun _ hshortest => ?_
  refine .bind (.require _ _) fun _ hlongest => ?_
  have hheader := require_eq_ok_iff.mp hshortest
  have hfits := require_eq_ok_iff.mp hlongest
  unfold minHeaderSize at hheader
  -- The checksum leaves out a field that lies inside every header of the least size.
  refine .bind (.word32 (by unfold crcStart; omega)) fun _ _ => ?_
  refine .bind (.slice (by omega)) fun checked hchecked => ?_
  have hchecked := Bytes.length_of_slice hchecked
  refine .bind (.crc32Blanked (by unfold crcStart; omega) (by unfold crcStop; omega)) fun _ _ => ?_
  refine .bind (.require _ _) fun _ _ => ?_
  refine .bind (.word32 (by omega)) fun _ _ => .bind (.require _ _) fun _ _ => ?_
  refine .bind (.require _ _) fun _ _ => ?_
  refine .bind (.word64 (by omega)) fun _ _ => .bind (.require _ _) fun _ _ => ?_
  refine .bind (.word64 (by omega)) fun _ _ => .bind (.require _ _) fun _ _ => ?_
  refine .bind (.word64 (by omega)) fun _ _ => .bind (.word64 (by omega)) fun _ _ => ?_
  refine .bind (.require _ _) fun _ _ => .bind (.require _ _) fun _ _ => ?_
  refine .bind (.require _ _) fun _ _ => .bind (.slice (by omega)) fun _ _ => ?_
  refine .bind (.word64 (by omega)) fun _ _ => .bind (.require _ _) fun _ _ => ?_
  refine .bind (.word32 (by omega)) fun _ _ => .bind (.require _ _) fun _ _ => ?_
  refine .bind (.word32 (by omega)) fun _ _ => .bind (.require _ _) fun _ _ => ?_
  refine .bind (.word32 (by omega)) fun _ _ => .bind (.slice (by omega)) fun _ _ => ?_
  exact .bind (.require _ _) fun _ _ => .ok _

/-- Neither copy of a header is a fault, and neither is the reason to reject the first one. -/
theorem faultless_chooseHeader (primary backup : Bytes) (sectorSize totalSectors : Nat) :
    Faultless (chooseHeader primary backup sectorSize totalSectors).1 := by
  unfold chooseHeader
  cases Header.validate primary .primary sectorSize totalSectors with
  | ok header => exact .ok _
  | error rejected =>
    cases hbackup : Header.validate backup .backup sectorSize totalSectors with
    | ok header => exact .ok _
    | error error => exact .error (Header.faultless_validate _ _ _ _ error hbackup)

theorem faultless_byteOf (lba sectorSize : Nat) : Faultless (byteOf lba sectorSize) :=
  .bind (.require _ _) fun _ _ => .ok _

/-- The sectors of an array have a length, since two 32-bit factors are small. -/
theorem faultless_wholeSectors (header : Header) {sectorSize : Nat} (hsize : 0 < sectorSize)
    (hword : sectorSize < 2 ^ 32) : Faultless (wholeSectors header.arrayLen sectorSize) := by
  have hlen := header.arrayLen_add_lt (Nat.lt_of_le_of_lt (Nat.sub_le sectorSize 1) hword)
  unfold wholeSectors
  refine .bind (.of_eq_ok (exactSub_of_le hsize)) fun slack hslack => ?_
  rw [exactSub_of_le hsize] at hslack
  cases hslack
  rw [if_pos hlen]
  exact .ok _

/-- An array of the announced length is checked without a fault, whatever it holds. -/
theorem Header.faultless_admitArray {header : Header} {array : Bytes}
    (hlength : array.length = header.arrayLen) (hsize : minEntrySize ≤ header.entrySize.toNat) :
    Faultless (header.admitArray array) := by
  unfold admitArray
  refine .bind (.require _ _) fun _ _ => .bind (.slice (by omega)) fun found hfound => ?_
  refine .bind (.require _ _) fun _ _ => .bind ?_ fun _ _ => .require _ _
  exact .of_eq_ok (entries_eq (Bytes.length_of_slice hfound) hsize)

end Gpt

/-! ## Devices -/

theorem Error.reportable_read (device : UInt32) (pos len : Nat) :
    (Error.read device pos len).Reportable := ⟨nofun, nofun⟩

theorem Access.faultless_read (access : Access) (device : Device) (pos len : Nat) :
    Faultless (access.read device pos len) := by
  cases access with
  | hosted => exact .ite _ _ ⟨nofun, nofun⟩
  | resident => exact .ite _ _ (Error.reportable_read _ _ _)
  | metered =>
    unfold Access.read
    by_cases hempty : device.size = 0
    · rw [if_pos hempty]
      exact .error ⟨nofun, nofun⟩
    · rw [if_neg hempty]
      exact .ite _ _ (Error.reportable_read _ _ _)

/-- Devices do not answer with a fault. -/
theorem Disks.faultless_read (disks : Disks) (volume : Volume) (pos len : Nat) :
    Faultless (disks.read volume pos len) := by
  have hrelabel : ∀ error : Error, error.Reportable → (relabel volume pos error).Reportable := by
    intro error h
    cases error with
    | read device pos len => exact Error.reportable_read _ _ _
    | _ => exact h
  unfold Disks.read
  cases disks.devices[volume.deviceId.toNat]? with
  | none => exact .error (Error.reportable_read _ _ _)
  | some device =>
    dsimp only
    by_cases hinside : pos + len ≤ volume.byteLen ∧ volume.firstByte.toNat + pos < wordLimit
    · rw [if_pos hinside]
      exact (Access.faultless_read _ _ _ _).mapError hrelabel
    · rw [if_neg hinside]
      exact .error (Error.reportable_read _ _ _)

/-- Whichever places are broken. -/
theorem Environment.faultless_ofDisks {σ : Type} (disks : Disks) (broken : List (UInt32 × Nat))
    (scratch : Allocator σ) (state : σ) (volume : Volume) (pos len : Nat) :
    Faultless ((Environment.ofDisks disks broken scratch).read state volume pos len).1 := by
  unfold Environment.ofDisks
  dsimp only
  by_cases hbroken : (volume.deviceId, pos) ∈ broken
  · rw [if_pos hbroken]
    exact .error (Error.reportable_read _ _ _)
  · rw [if_neg hbroken]
    exact disks.faultless_read volume pos len

end VolumeScan

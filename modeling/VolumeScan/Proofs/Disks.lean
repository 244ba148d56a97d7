/-
VolumeScan.Proofs.Disks — which reads succeed, and with what.

The accesses to a device differ in the errors they report and in what they say to a read of nothing.
Otherwise they agree: a read succeeds exactly if it stays on the device, and gives the bytes that
are there (`Access.read_eq_ok_iff`). A read through a volume succeeds exactly if it stays inside the
volume and, moved by the volume's first byte, on its device (`Disks.read_eq_ok_iff`).
-/
import VolumeScan.Disks

namespace VolumeScan

variable {device : Device} {pos len : Nat} {block : Block len}

theorem Access.read_eq_ok_iff {access : Access} (hlen : 0 < len) :
    access.read device pos len = .ok block ↔
      pos + len ≤ device.size ∧ device.read pos len = block := by
  have hiff : ∀ {p : Prop} [Decidable p] {error : Error}, (p ↔ pos + len ≤ device.size) →
      ((if p then Except.ok (device.read pos len) else .error error) = .ok block ↔
        pos + len ≤ device.size ∧ device.read pos len = block) := by
    intro p _ error hp
    by_cases h : p <;> simp [h, ← hp]
  cases access with
  | hosted => exact hiff (or_iff_right (Nat.ne_of_gt hlen))
  | resident => exact hiff Iff.rfl
  | metered =>
    show (if device.size = 0 then _ else _) = _ ↔ _
    by_cases hempty : device.size = 0
    · rw [if_pos hempty]
      simp
      omega
    · rw [if_neg hempty]
      exact hiff (by omega)

theorem Disks.read_eq_ok_iff {disks : Disks} {volume : Volume} (hlen : 0 < len) :
    disks.read volume pos len = .ok block ↔
      ∃ device, disks.devices[volume.deviceId.toNat]? = some device
        ∧ (pos + len ≤ volume.byteLen ∧ volume.firstByte.toNat + pos < wordLimit)
        ∧ volume.firstByte.toNat + pos + len ≤ device.size
        ∧ device.read (volume.firstByte.toNat + pos) len = block := by
  rw [Disks.read]
  cases disks.devices[volume.deviceId.toNat]? with
  | none => simp
  | some device =>
    dsimp only
    by_cases hinside : pos + len ≤ volume.byteLen ∧ volume.firstByte.toNat + pos < wordLimit
    · rw [if_pos hinside, mapError_eq_ok_iff, Access.read_eq_ok_iff hlen]
      simp [hinside]
    · simp [hinside]

end VolumeScan

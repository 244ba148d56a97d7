/-
VolumeScan.Disks — a set of devices, and reads through the volumes on them.

A read names a volume and a position in it. It is served by the device with the number of the
volume, at the position moved by the volume's first byte, and only if it lies inside the volume
(`Disks.read`). Whatever a device says about a refused read, the volume's device and the position in
the volume are reported.
-/
import VolumeScan.Device
import VolumeScan.Volume

namespace VolumeScan

/-- A set of devices, numbered from zero, and how they answer reads. -/
structure Disks where
  access : Access
  devices : List Device

namespace Disks

/-- Report a refused read as a read of `volume` at `pos`; other errors stay as they are. -/
def relabel (volume : Volume) (pos : Nat) : Error → Error
  | .read _ _ len => .read volume.deviceId pos len
  | other => other

/-- Read `len` bytes, starting `pos` bytes into a volume. -/
def read (disks : Disks) (volume : Volume) (pos len : Nat) : Except Error (Block len) :=
  match disks.devices[volume.deviceId.toNat]? with
  | none => .error (.read volume.deviceId pos len)
  | some device =>
    if pos + len ≤ volume.byteLen ∧ volume.firstByte.toNat + pos < wordLimit then
      (disks.access.read device (volume.firstByte.toNat + pos) len).mapError (relabel volume pos)
    else .error (.read volume.deviceId pos len)

end Disks

end VolumeScan

/-
VolumeScan.Chs — sectors addressed by cylinder, head and sector.

A legacy partition entry keeps such addresses in three packed bytes. Their linear addresses follow
from one fixed geometry, whatever the device; sectors count from one, so an address with sector zero
is taken for the first sector of its track. `Chs.ofLba` and `Chs.pack` go the other way.
-/
import VolumeScan.Bytes

namespace VolumeScan

/-- An address of a sector by cylinder, head and sector; the sector counts from one. -/
structure Chs where
  cylinder : UInt16
  head : UInt8
  sector : UInt8
deriving DecidableEq, Repr

namespace Chs

/-- The heads of a cylinder, for every device. -/
def heads : Nat := 255

/-- The sectors of a track, for every device. -/
def sectorsPerTrack : Nat := 63

/-- The address packed in three bytes: the head; the sector in six bits, above them the two highest
bits of the cylinder; the eight lower bits of the cylinder. -/
def ofPacked (b0 b1 b2 : UInt8) : Chs where
  cylinder := UInt16.ofNat (b1.toNat / 64 * 256 + b2.toNat)
  head := b0
  sector := UInt8.ofNat (b1.toNat % 64)

/-- The three bytes of an address. Bits that have no room in the packed form are dropped. -/
def pack (chs : Chs) : Bytes :=
  [chs.head,
   UInt8.ofNat (chs.sector.toNat % 64 + 64 * (chs.cylinder.toNat / 256 % 4)),
   UInt8.ofNat chs.cylinder.toNat]

/-- The linear address, counted from zero. -/
def lba (chs : Chs) : Nat :=
  (chs.cylinder.toNat * heads + chs.head.toNat) * sectorsPerTrack + (chs.sector.toNat - 1)

/-- The address whose linear address is `n`, for an `n` that the geometry reaches. -/
def ofLba (n : Nat) : Chs where
  cylinder := UInt16.ofNat (n / sectorsPerTrack / heads)
  head := UInt8.ofNat (n / sectorsPerTrack % heads)
  sector := UInt8.ofNat (n % sectorsPerTrack + 1)

/-- No address is as large as 2^30. -/
theorem lba_lt (chs : Chs) : chs.lba < 0x40000000 := by
  have hc : chs.cylinder.toNat < 65536 := chs.cylinder.toNat_lt
  have hh : chs.head.toNat < 256 := chs.head.toNat_lt
  have hs : chs.sector.toNat < 256 := chs.sector.toNat_lt
  unfold lba heads sectorsPerTrack
  omega

end Chs

end VolumeScan

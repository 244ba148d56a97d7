/-
VolumeScan.Volume — a whole device, or one partition of it.

A volume says where its bytes are (device, first byte, sectors of a size) and what is known about
them (`VolumeKind`). Its length in bytes is the exact product of sector count and sector size, cut
off at the largest 64-bit number (`Volume.byteLen`).
-/
import VolumeScan.Bytes

namespace VolumeScan

/-- The service that reads the device of a volume. -/
inductive AccessMethod where
  /-- The disk services of a legacy firmware. -/
  | bios
  /-- The block protocol of a newer firmware. -/
  | uefi
  /-- An image that is in memory already. -/
  | memory
deriving DecidableEq, Repr

/-- The name of an access method. -/
def AccessMethod.name : AccessMethod → String
  | .bios => "bios"
  | .uefi => "uefi"
  | .memory => "memory"

/-- What is known about the contents of a volume. -/
inductive VolumeKind where
  /-- Not looked at yet, or nothing to tell. -/
  | unknown
  /-- A device with a legacy partition table. -/
  | mbrContainer
  /-- A device with a GPT. -/
  | gptContainer
  /-- A partition for a FAT file system. -/
  | fat
  /-- A partition for data. -/
  | basicData
  /-- A partition of a type that is not known here. -/
  | unclassified
deriving DecidableEq, Repr

/-- The name of a kind. -/
def VolumeKind.name : VolumeKind → String
  | .unknown => "unknown"
  | .mbrContainer => "mbr"
  | .gptContainer => "gpt"
  | .fat => "fat"
  | .basicData => "basic-data"
  | .unclassified => "unclassified"

/-- A whole device, or one partition inside it. -/
structure Volume where
  method : AccessMethod
  deviceId : UInt32
  /-- The place in the partition table of the device, and nothing for the whole device. -/
  partition : Option UInt32
  /-- The alignment in bytes that transfer buffers need. -/
  alignment : UInt32
  sectorSize : UInt32
  mediaId : UInt32
  sectorCount : UInt64
  /-- Where the volume starts on its device. -/
  firstByte : UInt64
  kind : VolumeKind
deriving DecidableEq, Repr

namespace Volume

/-- Whether the volume is a partition. -/
def isPartition (volume : Volume) : Bool := volume.partition.isSome

/-- The exact number of bytes that the sectors of a volume have. -/
def exactLen (volume : Volume) : Nat := volume.sectorCount.toNat * volume.sectorSize.toNat

/-- The length in bytes, at most the largest 64-bit number. -/
def byteLen (volume : Volume) : Nat := min volume.exactLen (wordLimit - 1)

/-- A partition of `parent` that starts `offset` bytes into it. What belongs to the device is taken
from the parent. -/
def partitionAt (parent : Volume) (index : UInt32) (offset sectorCount : UInt64)
    (kind : VolumeKind) : Volume :=
  { parent with
    partition := some index
    sectorCount := sectorCount
    firstByte := parent.firstByte + offset
    kind := kind }

/-- No length is as large as 2^64. -/
theorem byteLen_lt (volume : Volume) : volume.byteLen < wordLimit := by
  unfold byteLen wordLimit
  omega

end Volume

end VolumeScan

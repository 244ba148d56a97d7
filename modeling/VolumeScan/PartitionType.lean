/-
VolumeScan.PartitionType — the kind of a partition by the type its table declares.

A legacy table declares one byte, a GPT declares a GUID. Nothing inside the partition is looked at.
-/
import VolumeScan.Guid
import VolumeScan.Volume

namespace VolumeScan

namespace TypeCode

/-- The code of an entry that is not in use. -/
def empty : UInt8 := 0x00

/-- The code of the entry that protects a GPT from programs that do not know it. -/
def protective : UInt8 := 0xEE

/-- The codes of FAT file systems of all sizes and addressings, and of system partitions. -/
def fat : List UInt8 := [0x01, 0x04, 0x06, 0x0B, 0x0C, 0x0E, 0xEF]

end TypeCode

/-- The kind that the type code of a legacy entry declares. -/
def VolumeKind.ofTypeCode (code : UInt8) : VolumeKind :=
  if code ∈ TypeCode.fat then .fat
  else if code = TypeCode.empty ∨ code = TypeCode.protective then .unknown
  else .unclassified

/-- The kind that the type GUID of a GPT entry declares. -/
def VolumeKind.ofTypeGuid (guid : Guid) : VolumeKind :=
  if guid = Guid.efiSystem then .fat
  else if guid = Guid.microsoftBasicData ∨ guid = Guid.linuxFilesystemData then .basicData
  else .unclassified

end VolumeScan

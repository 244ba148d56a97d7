/-
VolumeScan.Scan.Record — what a scan writes to the log.

Each constructor is one kind of record with the data it speaks of; `Record.level` and
`Record.message` are its level and its wording.
-/
import VolumeScan.Gpt.Table
import VolumeScan.Mbr

namespace VolumeScan

/-- How important a record is. -/
inductive Level where
  | error
  | warn
  | info
  | debug
deriving DecidableEq, Repr

/-- The name of a level. -/
def Level.name : Level → String
  | .error => "error"
  | .warn => "warn"
  | .info => "info"
  | .debug => "debug"

/-- The two kinds of partition tables. -/
inductive Scheme where
  | mbr
  | gpt
deriving DecidableEq, Repr

/-- The name of a kind of partition tables. -/
def Scheme.name : Scheme → String
  | .mbr => "mbr"
  | .gpt => "gpt"

/-- The kind of a device with such a table. -/
def Scheme.container : Scheme → VolumeKind
  | .mbr => .mbrContainer
  | .gpt => .gptContainer

/-- A record of the log. -/
inductive Record where
  /-- There is nothing to scan. -/
  | noVolumes
  /-- The first sector of a volume could not be read. -/
  | unreadable (index : Nat) (error : Error)
  /-- The first sector of a volume is no partition table for it. -/
  | noTable (index : Nat) (error : Error)
  /-- The partition table of a volume was not used. -/
  | tableUnused (index : Nat) (error : Error)
  /-- A volume was added. -/
  | found (index : Nat) (volume : Volume)
  /-- A pass that could read something is over. -/
  | finished (volumes : Nat)
  /-- A pass that could read nothing is over. -/
  | nothingReadable (volumes : Nat)
  /-- The first copy of a header is not valid. -/
  | primaryRejected (error : Error)
  /-- The second copy of a header is used. -/
  | backupUsed (lba : UInt64)
  /-- A GPT is used. -/
  | gptDisk (slot : Gpt.HeaderCopy) (header : Gpt.Header)
  /-- An entry of a GPT was added. -/
  | gptEntry (index : Nat) (entry : Gpt.Entry)
  /-- An entry of a legacy table was added. -/
  | mbrEntry (index : Nat) (entry : Mbr.Entry)
  /-- The rest of a table is left out. -/
  | registryFull (capacity : Nat) (scheme : Scheme)
  /-- A buffer was not accepted back. -/
  | releaseRefused (size : Nat)
deriving DecidableEq, Repr

namespace Record

/-- The level of a record. -/
def level : Record → Level
  | .noVolumes | .nothingReadable _ => .error
  | .unreadable _ _ | .tableUnused _ _ | .primaryRejected _ | .backupUsed _ | .registryFull _ _
  | .releaseRefused _ => .warn
  | .found _ _ | .finished _ => .info
  | .noTable _ _ | .gptDisk _ _ | .gptEntry _ _ | .mbrEntry _ _ => .debug

/-- The wording of a volume: who reads it, its place, its kind and its size. A whole device counts
as partition 4294967295. -/
def describe (volume : Volume) : String :=
  volume.method.name ++ " device " ++ toString volume.deviceId.toNat
    ++ " partition " ++ toString (volume.partition.getD 0xFFFFFFFF).toNat
    ++ " " ++ volume.kind.name
    ++ ": " ++ toString volume.sectorCount.toNat
    ++ " sectors of " ++ toString volume.sectorSize.toNat
    ++ " bytes, " ++ toString volume.byteLen
    ++ " bytes at " ++ toString volume.firstByte.toNat

/-- The wording of a record. -/
def message : Record → String
  | .noVolumes => "no volumes to scan"
  | .unreadable index error =>
    "volume " ++ toString index ++ ": unreadable, skipping: " ++ error.message
  | .noTable index error =>
    "volume " ++ toString index ++ ": no partition table: " ++ error.message
  | .tableUnused index error =>
    "volume " ++ toString index ++ ": partition table not used: " ++ error.message
  | .found index volume => "volume " ++ toString index ++ ": " ++ describe volume
  | .finished volumes => "ok: " ++ toString volumes ++ " volumes after discovery"
  | .nothingReadable volumes => "none of the " ++ toString volumes ++ " volumes could be read"
  | .primaryRejected error => "primary GPT header rejected: " ++ error.message
  | .backupUsed lba => "using backup GPT header at lba " ++ toString lba.toNat
  | .gptDisk slot header =>
    "gpt disk " ++ toString header.diskGuid ++ " from " ++ slot.name ++ " header: "
      ++ toString header.entryCount.toNat ++ " entries of " ++ toString header.entrySize.toNat
      ++ " bytes"
  | .gptEntry index entry =>
    "gpt entry " ++ toString index ++ ": type " ++ toString entry.typeGuid
      ++ " \"" ++ entry.label ++ "\" lba " ++ toString entry.firstLba.toNat
      ++ "..=" ++ toString entry.lastLba.toNat
  | .mbrEntry index entry =>
    "mbr entry " ++ toString index ++ ": type 0x"
      ++ String.ofList (Hex.digits Hex.lowerDigit 2 entry.typeCode.toNat)
      ++ (if entry.isBootable then " (boot)" else "")
      ++ " lba " ++ toString entry.sectorExtent.start
      ++ "+" ++ toString (entry.sectorExtent.stop - entry.sectorExtent.start)
  | .registryFull capacity scheme =>
    "volume registry full (" ++ toString capacity ++ " entries); ignoring the rest of the "
      ++ scheme.name
  | .releaseRefused size =>
    "scratch allocator refused to release " ++ toString size ++ " bytes"

end Record

end VolumeScan

/-
VolumeScan.Mbr — the legacy partition table in the last 66 bytes of a device's first sector.

A table is four entries of sixteen bytes and a signature (`Mbr.ofSector`, `Mbr.encode`). An entry
describes its sectors by a linear address and a count; if the count is zero, it describes them by
the addresses of the first and the last one by cylinder, head and sector. `Mbr.validate` says
whether a table can be trusted to describe a volume.
-/
import VolumeScan.Chs
import VolumeScan.PartitionType

namespace VolumeScan

/-- A range of sectors or of bytes, without its end. -/
structure Extent where
  start : Nat
  stop : Nat
deriving DecidableEq, Repr

namespace Mbr

/-- An entry of the table. -/
structure Entry where
  status : UInt8
  firstChs : Chs
  typeCode : UInt8
  lastChs : Chs
  firstLba : UInt32
  sectors : UInt32
deriving DecidableEq, Repr

namespace Entry

/-- The entry whose sixteen bytes start at position `start`. -/
def ofBytes (bytes : Bytes) (start : Nat) : Except Error Entry := do
  let status ← Bytes.byte bytes start
  let first0 ← Bytes.byte bytes (start + 1)
  let first1 ← Bytes.byte bytes (start + 2)
  let first2 ← Bytes.byte bytes (start + 3)
  let typeCode ← Bytes.byte bytes (start + 4)
  let last0 ← Bytes.byte bytes (start + 5)
  let last1 ← Bytes.byte bytes (start + 6)
  let last2 ← Bytes.byte bytes (start + 7)
  let firstLba ← Bytes.word32 bytes (start + 8)
  let sectors ← Bytes.word32 bytes (start + 12)
  return {
    status := status
    firstChs := Chs.ofPacked first0 first1 first2
    typeCode := typeCode
    lastChs := Chs.ofPacked last0 last1 last2
    firstLba := firstLba
    sectors := sectors }

/-- The sixteen bytes of an entry. -/
def encode (entry : Entry) : Bytes :=
  [entry.status] ++ entry.firstChs.pack ++ [entry.typeCode] ++ entry.lastChs.pack
    ++ LittleEndian.encode 4 entry.firstLba.toNat ++ LittleEndian.encode 4 entry.sectors.toNat

/-- Whether the entry is not in use. -/
def isEmpty (entry : Entry) : Bool := entry.typeCode = TypeCode.empty

/-- Whether the entry announces a GPT. -/
def isProtective (entry : Entry) : Bool := entry.typeCode = TypeCode.protective

/-- Whether the entry is marked as the one to boot from. -/
def isBootable (entry : Entry) : Bool := entry.status = 0x80

/-- The sectors of the entry. The linear fields win if they count any sectors; the last address by
cylinder, head and sector is inclusive. -/
def sectorExtent (entry : Entry) : Extent :=
  if entry.sectors = 0 then ⟨entry.firstChs.lba, entry.lastChs.lba + 1⟩
  else ⟨entry.firstLba.toNat, entry.firstLba.toNat + entry.sectors.toNat⟩

/-- The bytes of the entry, if both ends have a 64-bit address. -/
def byteExtent? (entry : Entry) (sectorSize : Nat) : Option Extent :=
  let range := entry.sectorExtent
  if range.start * sectorSize < wordLimit ∧ range.stop * sectorSize < wordLimit then
    some ⟨range.start * sectorSize, range.stop * sectorSize⟩
  else none

/-- Check that a used entry describes a part of `volume` behind the table. A protective entry may
reach over the end, since it only has to be there. -/
def check (entry : Entry) (volume : Volume) : Except Error Unit := do
  require (entry.status = 0x00 ∨ entry.status = 0x80) .badStatus
  match entry.byteExtent? volume.sectorSize.toNat with
  | none => .error (.invalid .unaddressablePartition)
  | some range =>
    require (range.start ≠ 0) .partitionCoversTable
    require (range.stop ≤ volume.byteLen ∨ entry.isProtective) .partitionPastEnd
    require (range.start < range.stop) .partitionBackwards

end Entry

end Mbr

/-- A legacy partition table. -/
structure Mbr where
  entries : Vector Mbr.Entry 4
  signature : UInt16
deriving DecidableEq, Repr

namespace Mbr

/-- The size of the sector that a table is the end of. -/
def sectorSize : Nat := 512

/-- Where the first entry starts. -/
def firstEntry : Nat := 446

/-- The signature of a table. -/
def bootSignature : UInt16 := 0xAA55

/-- The table at the end of a sector of 512 bytes. -/
def ofSector (sector : Bytes) : Except Error Mbr := do
  let entry0 ← Entry.ofBytes sector firstEntry
  let entry1 ← Entry.ofBytes sector (firstEntry + 16)
  let entry2 ← Entry.ofBytes sector (firstEntry + 32)
  let entry3 ← Entry.ofBytes sector (firstEntry + 48)
  let signature ← Bytes.word16 sector (firstEntry + 64)
  return ⟨#v[entry0, entry1, entry2, entry3], signature⟩

/-- The 66 bytes of a table. -/
def encode (mbr : Mbr) : Bytes :=
  mbr.entries.toList.flatMap Entry.encode ++ LittleEndian.encode 2 mbr.signature.toNat

/-- The place of the first entry that announces a GPT. -/
def protectiveIndex? (mbr : Mbr) : Option Nat := mbr.entries.toList.findIdx? (·.isProtective)

/-- The entries in use. -/
def usedEntries (mbr : Mbr) : List Entry := mbr.entries.toList.filter (!·.isEmpty)

/-- Check that the table describes `volume`. Four entries that are not in use are no table. -/
def validate (mbr : Mbr) (volume : Volume) : Except Error Unit := do
  require (mbr.signature = bootSignature) .missingBootSignature
  require (volume.partition = none) .nestedTable
  mbr.usedEntries.forM (·.check volume)
  if mbr.usedEntries.isEmpty then .error .notFound else .ok ()

end Mbr

end VolumeScan

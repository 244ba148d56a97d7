/-
VolumeScan.Gpt.Header — the header of a GPT, of which a disk has two copies.

A header says where it stands, where its twin stands, which sectors partitions may use and what the
entry array is like; it carries the checksum of the array and, computed with zeros in its own place,
the checksum of itself. `Header.validate` reads the header out of a sector and checks it against the
place it was read from; `Header.encode` writes the sector of a header.
-/
import VolumeScan.Crc32
import VolumeScan.Guid

namespace VolumeScan

namespace Gpt

/-- The two places of a header: sector one, and the last sector of the disk. -/
inductive HeaderCopy where
  | primary
  | backup
deriving DecidableEq, Repr

/-- The name of a place. -/
def HeaderCopy.name : HeaderCopy → String
  | .primary => "Primary"
  | .backup => "Backup"

/-- The sector of the header copy on a disk of so many sectors, and the sector of its twin. -/
def HeaderCopy.lbas (slot : HeaderCopy) (totalSectors : Nat) : Nat × Nat :=
  match slot with
  | .primary => (1, totalSectors - 1)
  | .backup => (totalSectors - 1, 1)

/-- The fields of a header. -/
structure Header where
  revision : UInt32
  headerSize : UInt32
  headerCrc : UInt32
  myLba : UInt64
  alternateLba : UInt64
  firstUsableLba : UInt64
  lastUsableLba : UInt64
  diskGuid : Guid
  entriesLba : UInt64
  entryCount : UInt32
  entrySize : UInt32
  entriesCrc : UInt32
deriving DecidableEq, Repr

namespace Header

/-- The eight bytes that a header starts with, "EFI PART". -/
def signature : Bytes := [0x45, 0x46, 0x49, 0x20, 0x50, 0x41, 0x52, 0x54]

/-- The first revision of the format. -/
def minRevision : Nat := 0x10000

/-- The length of all fields of a header. -/
def minHeaderSize : Nat := 92

/-- The length of all fields of an entry. -/
def minEntrySize : Nat := 128

/-- Where the checksum of the header starts. -/
def crcStart : Nat := 0x10

/-- Where the checksum of the header ends. -/
def crcStop : Nat := 0x14

/-- Read the header in `buffer`, which starts with one sector read from `slot`, and check it. Every
check is made before the fields behind it are looked at. -/
def validate (buffer : Bytes) (slot : HeaderCopy) (sectorSize totalSectors : Nat) :
    Except Error Header := do
  require (sectorSize ≤ buffer.length ∧ minHeaderSize ≤ sectorSize) .shortHeaderBuffer
  let sector ← Bytes.slice buffer 0 sectorSize
  let start ← Bytes.slice sector 0x00 8
  require (start = signature) .badHeaderSignature
  let revision ← Bytes.word32 sector 0x08
  require (minRevision ≤ revision.toNat) .oldRevision
  let headerSize ← Bytes.word32 sector 0x0C
  require (minHeaderSize ≤ headerSize.toNat) .headerTooShort
  require (headerSize.toNat ≤ sectorSize) .headerTooLong
  let headerCrc ← Bytes.word32 sector crcStart
  let checked ← Bytes.slice sector 0 headerSize.toNat
  let crc ← crc32Blanked checked crcStart crcStop
  require (headerCrc = crc) .headerChecksum
  let reserved ← Bytes.word32 sector 0x14
  require (reserved = 0) .reservedWord
  require (1 ≤ totalSectors) .diskTooSmall
  let myLba ← Bytes.word64 sector 0x18
  require (myLba.toNat = (slot.lbas totalSectors).1) .headerMisplaced
  let alternateLba ← Bytes.word64 sector 0x20
  require (alternateLba.toNat = (slot.lbas totalSectors).2) .alternateMisplaced
  let firstUsableLba ← Bytes.word64 sector 0x28
  let lastUsableLba ← Bytes.word64 sector 0x30
  require (firstUsableLba ≤ lastUsableLba) .usableBackwards
  require (lastUsableLba.toNat ≤ (wordLimit - 1) / sectorSize) .usableUnaddressable
  let lower := min myLba.toNat alternateLba.toNat
  let upper := max myLba.toNat alternateLba.toNat
  require (lastUsableLba.toNat < upper) .usableMeetsBackup
  let diskGuid ← Bytes.slice sector 0x38 16
  let entriesLba ← Bytes.word64 sector 0x48
  require (lower < entriesLba.toNat ∧ entriesLba.toNat < upper) .arrayMisplaced
  let entryCount ← Bytes.word32 sector 0x50
  require (entryCount ≠ 0) .noEntries
  let entrySize ← Bytes.word32 sector 0x54
  require (minEntrySize ≤ entrySize.toNat ∧ entrySize.toNat % 8 = 0) .badEntrySize
  let entriesCrc ← Bytes.word32 sector 0x58
  let rest ← Bytes.slice sector headerSize.toNat (sectorSize - headerSize.toNat)
  require (rest.all (· = 0)) .tailNotEmpty
  return {
    revision := revision
    headerSize := headerSize
    headerCrc := headerCrc
    myLba := myLba
    alternateLba := alternateLba
    firstUsableLba := firstUsableLba
    lastUsableLba := lastUsableLba
    diskGuid := Guid.ofBytes diskGuid
    entriesLba := entriesLba
    entryCount := entryCount
    entrySize := entrySize
    entriesCrc := entriesCrc }

/-- The sector of a header: its fields, the extension behind them, and zeros up to its end. -/
def encode (header : Header) (extension : Bytes) (sectorSize : Nat) : Bytes :=
  let fields := signature
    ++ LittleEndian.encode 4 header.revision.toNat
    ++ LittleEndian.encode 4 header.headerSize.toNat
    ++ LittleEndian.encode 4 header.headerCrc.toNat
    ++ LittleEndian.encode 4 0
    ++ LittleEndian.encode 8 header.myLba.toNat
    ++ LittleEndian.encode 8 header.alternateLba.toNat
    ++ LittleEndian.encode 8 header.firstUsableLba.toNat
    ++ LittleEndian.encode 8 header.lastUsableLba.toNat
    ++ header.diskGuid.toBytes
    ++ LittleEndian.encode 8 header.entriesLba.toNat
    ++ LittleEndian.encode 4 header.entryCount.toNat
    ++ LittleEndian.encode 4 header.entrySize.toNat
    ++ LittleEndian.encode 4 header.entriesCrc.toNat
    ++ extension
  fields ++ List.replicate (sectorSize - fields.length) 0

/-- The length of the entry array in bytes. -/
def arrayLen (header : Header) : Nat := header.entryCount.toNat * header.entrySize.toNat

end Header

end Gpt

end VolumeScan

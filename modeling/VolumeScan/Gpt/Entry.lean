/-
VolumeScan.Gpt.Entry — one entry of the entry array of a GPT.

An entry has the type and the identity of a partition, its first and its last sector, attributes and
a label of 36 UTF-16 units, which ends at the first unit that is zero. `Entry.ofBytes` reads an
entry and `Entry.encode` writes one.
-/
import VolumeScan.Guid
import VolumeScan.PartitionType
import VolumeScan.Utf16

namespace VolumeScan

namespace Gpt

/-- An entry of the entry array. The last sector belongs to the partition. -/
structure Entry where
  typeGuid : Guid
  partitionGuid : Guid
  firstLba : UInt64
  lastLba : UInt64
  attributes : UInt64
  units : Vector UInt16 36
deriving DecidableEq, Repr

namespace Entry

/-- The entry at the start of a string of at least 128 bytes. -/
def ofBytes (bytes : Bytes) : Except Error Entry := do
  let units ← Bytes.slice bytes 0x38 72
  let typeGuid ← Bytes.slice bytes 0x00 16
  let partitionGuid ← Bytes.slice bytes 0x10 16
  let firstLba ← Bytes.word64 bytes 0x20
  let lastLba ← Bytes.word64 bytes 0x28
  let attributes ← Bytes.word64 bytes 0x30
  return {
    typeGuid := Guid.ofBytes typeGuid
    partitionGuid := Guid.ofBytes partitionGuid
    firstLba := firstLba
    lastLba := lastLba
    attributes := attributes
    units := Vector.ofFn fun i =>
      UInt16.ofNat (LittleEndian.decode ((units.drop (2 * i)).take 2)) }

/-- The 128 bytes of an entry. -/
def encode (entry : Entry) : Bytes :=
  entry.typeGuid.toBytes
    ++ entry.partitionGuid.toBytes
    ++ LittleEndian.encode 8 entry.firstLba.toNat
    ++ LittleEndian.encode 8 entry.lastLba.toNat
    ++ LittleEndian.encode 8 entry.attributes.toNat
    ++ entry.units.toList.flatMap fun unit => LittleEndian.encode 2 unit.toNat

/-- Whether the entry describes a partition. -/
def isUsed (entry : Entry) : Bool := !entry.typeGuid.isUnused

/-- The number of sectors, at most the largest 64-bit number. An entry that ends before it starts
counts for one sector. -/
def sectors (entry : Entry) : UInt64 :=
  UInt64.ofNat (min (entry.lastLba.toNat - entry.firstLba.toNat + 1) (wordLimit - 1))

/-- The characters of the label. -/
def name (entry : Entry) : List Char :=
  Utf16.decode (entry.units.toList.takeWhile (· ≠ 0))

/-- The label as text. -/
def label (entry : Entry) : String := String.ofList entry.name

/-- The kind of the partition. -/
def kind (entry : Entry) : VolumeKind := VolumeKind.ofTypeGuid entry.typeGuid

end Entry

end Gpt

end VolumeScan

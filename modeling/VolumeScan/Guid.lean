/-
VolumeScan.Guid — the sixteen-byte identifiers of disks, partitions and partition types.

A GUID is its sixteen stored bytes, and two of them are equal if these are. The first three groups
of its text are numbers stored little-endian, the other eight bytes stand in the text as they are
stored (`Guid.ofFields`, `Guid.text`); `Guid.ofText?` reads the text again.
-/
import VolumeScan.Bytes
import VolumeScan.Hex

namespace VolumeScan

/-- A GUID as stored. -/
structure Guid where
  bytes : Vector UInt8 16
deriving DecidableEq, Repr

namespace Guid

/-- The GUID stored in the first sixteen bytes; bytes that are missing count as zero. -/
def ofBytes (bytes : Bytes) : Guid := ⟨Vector.ofFn fun i => bytes.getD i 0⟩

/-- The stored bytes. -/
def toBytes (guid : Guid) : Bytes := guid.bytes.toList

@[simp] theorem length_toBytes (guid : Guid) : guid.toBytes.length = 16 := by
  simp [toBytes]

/-- The stored bytes are read back. -/
theorem ofBytes_toBytes (guid : Guid) : ofBytes guid.toBytes = guid := by
  obtain ⟨bytes⟩ := guid
  simp only [ofBytes, toBytes, Guid.mk.injEq]
  ext i hi
  simp

/-- The GUID with these groups: three numbers and eight bytes. -/
def ofFields (timeLow : UInt32) (timeMid timeHigh : UInt16) (tail : Vector UInt8 8) : Guid :=
  ofBytes (LittleEndian.encode 4 timeLow.toNat ++ LittleEndian.encode 2 timeMid.toNat
    ++ LittleEndian.encode 2 timeHigh.toNat ++ tail.toList)

/-- The GUID of a partition entry that is not in use. -/
def unused : Guid := ⟨Vector.replicate 16 0⟩

/-- The type of a system partition, C12A7328-F81F-11D2-BA4B-00A0C93EC93B. -/
def efiSystem : Guid :=
  ofFields 0xC12A7328 0xF81F 0x11D2 #v[0xBA, 0x4B, 0x00, 0xA0, 0xC9, 0x3E, 0xC9, 0x3B]

/-- The type of a basic data partition, EBD0A0A2-B9E5-4433-87C0-68B6B72699C7. -/
def microsoftBasicData : Guid :=
  ofFields 0xEBD0A0A2 0xB9E5 0x4433 #v[0x87, 0xC0, 0x68, 0xB6, 0xB7, 0x26, 0x99, 0xC7]

/-- The type of a data partition, 0FC63DAF-8483-4772-8E79-3D69D8477DE4. -/
def linuxFilesystemData : Guid :=
  ofFields 0x0FC63DAF 0x8483 0x4772 #v[0x8E, 0x79, 0x3D, 0x69, 0xD8, 0x47, 0x7D, 0xE4]

/-- Whether this is the GUID of an entry that is not in use. -/
def isUnused (guid : Guid) : Bool := guid = unused

/-- The first group of the text. -/
def timeLow (guid : Guid) : UInt32 := UInt32.ofNat (LittleEndian.decode (guid.toBytes.take 4))

/-- The second group of the text. -/
def timeMid (guid : Guid) : UInt16 :=
  UInt16.ofNat (LittleEndian.decode ((guid.toBytes.drop 4).take 2))

/-- The third group of the text. -/
def timeHigh (guid : Guid) : UInt16 :=
  UInt16.ofNat (LittleEndian.decode ((guid.toBytes.drop 6).take 2))

/-- The last two groups of the text: two bytes, and six bytes. -/
def tail (guid : Guid) : Vector UInt8 8 := Vector.ofFn fun i => guid.toBytes.getD (8 + i) 0

/-- Bytes in hexadecimal, in order. -/
def hexBytes (bytes : Bytes) : List Char :=
  bytes.flatMap fun b => Hex.digits Hex.upperDigit 2 b.toNat

/-- The text of a GUID: groups of 8, 4, 4, 4 and 12 hexadecimal digits in upper case. -/
def text (guid : Guid) : List Char :=
  Hex.digits Hex.upperDigit 8 guid.timeLow.toNat ++ ['-']
    ++ Hex.digits Hex.upperDigit 4 guid.timeMid.toNat ++ ['-']
    ++ Hex.digits Hex.upperDigit 4 guid.timeHigh.toNat ++ ['-']
    ++ hexBytes (guid.tail.toList.take 2) ++ ['-']
    ++ hexBytes (guid.tail.toList.drop 2)

/-- The GUID that a text of the form above stands for. -/
def ofText? (cs : List Char) : Option Guid := do
  let group (start len : Nat) := Hex.value? ((cs.drop start).take len)
  let timeLow ← group 0 8
  let timeMid ← group 9 4
  let timeHigh ← group 14 4
  let upper ← group 19 4
  let lower ← group 24 12
  let digits := (LittleEndian.encode 2 upper).reverse ++ (LittleEndian.encode 6 lower).reverse
  return ofFields (UInt32.ofNat timeLow) (UInt16.ofNat timeMid) (UInt16.ofNat timeHigh)
    (Vector.ofFn fun i => digits.getD i 0)

instance : ToString Guid := ⟨fun guid => String.ofList guid.text⟩

end Guid

end VolumeScan

/-
VolumeScan.Scan.Partition — from a checked partition table to the volumes of its partitions.

An entry of a table gives a partition: the volume to register and the record to log for it
(`Gpt.Entry.partition`, `Mbr.Entry.partition`). The arithmetic here is not checked again: on an
entry that was checked it stays inside 64 bits, and otherwise it is a fault.
-/
import VolumeScan.Scan.Record

namespace VolumeScan

/-- A partition that a table describes: the volume it becomes, and what is logged about it. -/
structure Partition where
  volume : Volume
  record : Record
deriving DecidableEq, Repr

/-- The partition of an entry of a GPT on `parent`. -/
def Gpt.Entry.partition (entry : Gpt.Entry) (parent : Volume) (index : Nat) :
    Except Error Partition := do
  let number ← exact32 index
  let offset ← exact64 (entry.firstLba.toNat * parent.sectorSize.toNat)
  return {
    volume := Volume.partitionAt parent number offset entry.sectors entry.kind
    record := .gptEntry index entry }

/-- The partition of an entry of a legacy table on `parent`. -/
def Mbr.Entry.partition (entry : Mbr.Entry) (parent : Volume) (index : Nat) :
    Except Error Partition := do
  let range := entry.sectorExtent
  let number ← exact32 index
  let offset ← exact64 (range.start * parent.sectorSize.toNat)
  let count ← exactSub range.stop range.start
  let sectors ← exact64 count
  return {
    volume := Volume.partitionAt parent number offset sectors (VolumeKind.ofTypeCode entry.typeCode)
    record := .mbrEntry index entry }

/-- The entries of a legacy table that become partitions, each with its place: those in use that do
not protect a GPT. -/
def Mbr.partitionEntries (mbr : Mbr) : List (Nat × Mbr.Entry) :=
  (mbr.entries.toList.zipIdx.map fun (entry, index) => (index, entry)).filter fun (_, entry) =>
    !entry.isEmpty && !entry.isProtective

end VolumeScan

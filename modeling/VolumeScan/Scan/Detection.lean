/-
VolumeScan.Scan.Detection — reading the partition table of one volume into the registry.

`Scanner.detect` takes the legacy table found in a volume's first sector. If that announces a GPT,
the GPT is read and used; otherwise the legacy table itself is used. A table is used as a whole or
not at all, so everything that could be wrong with it is checked before the first of its partitions
is registered (`Scanner.enlistAll`).
-/
import VolumeScan.Scan.Action
import VolumeScan.Scan.Partition

namespace VolumeScan

/-- Which legacy tables are read. -/
inductive MbrPolicy where
  /-- All of them. -/
  | modern
  /-- None, so that only a GPT gives partitions. -/
  | never
deriving DecidableEq, Repr

/-- Which GPTs are read. -/
inductive GptPolicy where
  /-- Those of revision one and later. -/
  | revisionOne
  /-- None, so that an entry that announces a GPT gives no partition. -/
  | never
deriving DecidableEq, Repr

/-- Which partition tables are read. -/
structure Options where
  mbr : MbrPolicy := .modern
  gpt : GptPolicy := .revisionOne
deriving DecidableEq, Repr

/-- What the detection of a partition table added to the registry: the volumes from index `first`
on, `added` of them. -/
structure Detection where
  first : Nat
  added : Nat
  /-- The kind of the table, as recorded for its device. -/
  kind : VolumeKind
  /-- The copy of the header that a GPT was read with. -/
  header : Option Gpt.HeaderCopy
  /-- Whether the registry had no room for all partitions. -/
  truncated : Bool
deriving DecidableEq, Repr

/-- How the partitions of a table were registered. -/
structure Enlisted where
  scheme : Scheme
  header : Option Gpt.HeaderCopy
  truncated : Bool
deriving DecidableEq, Repr

namespace Gpt

/-- Decide which copy of the header to trust: the first one if it is valid, and otherwise the second
one. -/
def chooseHeader (primary backup : Bytes) (sectorSize totalSectors : Nat) :
    Except Error (HeaderCopy × Header) × List Record :=
  match Header.validate primary .primary sectorSize totalSectors with
  | .ok header => (.ok (.primary, header), [])
  | .error rejected =>
    match Header.validate backup .backup sectorSize totalSectors with
    | .ok header =>
      (.ok (.backup, header), [.primaryRejected rejected, .backupUsed header.myLba])
    | .error error => (.error error, [.primaryRejected rejected])

/-- The byte at which a sector starts. -/
def byteOf (lba sectorSize : Nat) : Except Error Nat := do
  require (lba * sectorSize < wordLimit) .unaddressableSector
  return lba * sectorSize

/-- The number of bytes in the sectors that hold `len` bytes. -/
def wholeSectors (len sectorSize : Nat) : Except Error Nat := do
  let slack ← exactSub sectorSize 1
  if len + slack < wordLimit then return (len + slack) / sectorSize * sectorSize
  else .error .biggerThanMemory

end Gpt

/-- Reads partition tables in an environment. -/
structure Scanner (σ : Type) where
  env : Environment σ
  options : Options

namespace Scanner

variable {σ : Type}

/-- Read both headers of the GPT on `parent`, choose one and hand it on. The headers stay in memory
until that is over. -/
def withHeader {α : Type} (scanner : Scanner σ) (parent : Volume)
    (body : Gpt.HeaderCopy → Gpt.Header → Action σ α) : Action σ α := do
  let sectorSize := parent.sectorSize.toNat
  let totalSectors := parent.sectorCount.toNat
  require (1 ≤ totalSectors) .diskTooSmall
  Action.withBuffer scanner.env sectorSize fun primaryBuffer =>
    Action.withBuffer scanner.env sectorSize fun backupBuffer => do
      let primary ← Action.fill scanner.env primaryBuffer parent sectorSize sectorSize
      let backupByte ← Gpt.byteOf (totalSectors - 1) sectorSize
      let backup ← Action.fill scanner.env backupBuffer parent backupByte sectorSize
      let (chosen, records) := Gpt.chooseHeader primary backup sectorSize totalSectors
      Action.log records
      let (slot, header) ← chosen
      body slot header

/-- Read the entry array that `header` announces, check it and hand it on. -/
def withTable {α : Type} (scanner : Scanner σ) (parent : Volume) (header : Gpt.Header)
    (body : Bytes → Action σ α) : Action σ α := do
  let sectorSize := parent.sectorSize.toNat
  let readLen ← Gpt.wholeSectors header.arrayLen sectorSize
  Action.withBuffer scanner.env readLen fun buffer => do
    let entriesByte ← Gpt.byteOf header.entriesLba.toNat sectorSize
    let array ← Action.fill scanner.env buffer parent entriesByte readLen
    let table ← Bytes.slice array 0 header.arrayLen
    header.admitArray table
    body table

/-- Register the partitions that the items of a table describe, in order and as long as there is
room. The result says whether some were left out. -/
def enlistAll {α : Type} (scheme : Scheme) (describe : α → Except Error Partition) :
    List α → Action σ Bool
  | [] => return false
  | item :: rest => do
    let partition ← describe item
    if ← Action.append partition.volume then
      Action.log [partition.record]
      enlistAll scheme describe rest
    else
      let registry ← Action.current
      Action.log [.registryFull registry.capacity scheme]
      return true

/-- Register the partitions of the GPT on `parent`. -/
def enlistGpt (scanner : Scanner σ) (parent : Volume) : Action σ Enlisted :=
  scanner.withHeader parent fun slot header =>
    scanner.withTable parent header fun table => do
      Action.log [.gptDisk slot header]
      let used ← header.entries table
      let truncated ← enlistAll .gpt (fun (index, entry) => entry.partition parent index) used
      return ⟨.gpt, some slot, truncated⟩

/-- Register the partitions of a legacy table on `parent`. -/
def enlistMbr (scanner : Scanner σ) (mbr : Mbr) (parent : Volume) : Action σ Enlisted := do
  if scanner.options.mbr = .never then
    Action.ofExcept (.error .notFound)
  else
    mbr.validate parent
    let truncated ← enlistAll .mbr (fun (index, entry) => entry.partition parent index)
      mbr.partitionEntries
    return ⟨.mbr, none, truncated⟩

/-- Register the partitions of the table on `parent` that `mbr` announces. -/
def enlist (scanner : Scanner σ) (mbr : Mbr) (parent : Volume) : Action σ Enlisted :=
  if scanner.options.gpt = .revisionOne ∧ mbr.protectiveIndex?.isSome then
    scanner.enlistGpt parent
  else scanner.enlistMbr mbr parent

/-- Read the partition table announced by `mbr`, the table in the first sector of the volume at
index `parent`, register its partitions, and record the kind of the table. -/
def detect (scanner : Scanner σ) (mbr : Mbr) (parent : Nat) : Action σ Detection := do
  let before ← Action.current
  let volume ← before.volume parent
  require (volume.partition = none ∧ volume.kind = .unknown) .alreadyScanned
  let enlisted ← scanner.enlist mbr volume
  Action.classify parent enlisted.scheme.container
  let after ← Action.current
  let added ← exactSub after.size before.size
  return {
    first := before.size
    added := added
    kind := enlisted.scheme.container
    header := enlisted.header
    truncated := enlisted.truncated }

/-- Detect as above, but only log what went wrong. The result is the index of the first volume that
was added, if any was. -/
def detectOrLog (scanner : Scanner σ) (mbr : Mbr) (parent : Nat) (registry : Registry)
    (state : σ) : Pass σ Nat :=
  let pass := (scanner.detect mbr parent).run registry state
  match pass.result with
  | .ok _ => ⟨registry.size, pass.registry, pass.state, pass.events⟩
  | .error error =>
    ⟨registry.size, pass.registry, pass.state,
      pass.events ++ [.log (.tableUnused parent error)]⟩

end Scanner

end VolumeScan

/-
VolumeScan.Gpt.Table — the entry array of a GPT under its header.

The array is cut into entries of the size that the header announces; the used ones keep their place
in the array (`Header.entries`). `Header.admitArray` accepts an array only as a whole: its checksum
is the announced one, and every used entry lies inside the usable area.
-/
import VolumeScan.Gpt.Entry
import VolumeScan.Gpt.Header

namespace VolumeScan

namespace Gpt

/-- The first `count` pieces of `size` bytes. -/
def pieces (size : Nat) : Nat → Bytes → List Bytes
  | 0, _ => []
  | count + 1, bytes => bytes.take size :: pieces size count (bytes.drop size)

namespace Header

/-- The size by which the array is cut: the announced one, but never less than an entry's fields. -/
def stride (header : Header) : Nat := max header.entrySize.toNat minEntrySize

/-- The entries of the array, used or not: as many as are announced, or as are there whole. -/
def slots (header : Header) (table : Bytes) : Except Error (List Entry) :=
  (pieces header.stride (min header.entryCount.toNat (table.length / header.stride)) table).mapM
    Entry.ofBytes

/-- The used entries of the array, each with its place in the array. -/
def entries (header : Header) (table : Bytes) : Except Error (List (Nat × Entry)) := do
  let slots ← header.slots table
  return (slots.zipIdx.map fun (entry, index) => (index, entry)).filter (·.2.isUsed)

/-- Whether an entry lies inside the usable area. -/
def Admits (header : Header) (entry : Entry) : Prop :=
  header.firstUsableLba ≤ entry.firstLba ∧ entry.firstLba ≤ entry.lastLba
    ∧ entry.lastLba ≤ header.lastUsableLba

instance (header : Header) (entry : Entry) : Decidable (header.Admits entry) :=
  inferInstanceAs (Decidable (_ ∧ _))

/-- Check the entry array at the start of `table`. Nothing in it is trusted unless all of it is. -/
def admitArray (header : Header) (table : Bytes) : Except Error Unit := do
  require (header.arrayLen ≤ table.length) .truncatedTable
  let array ← Bytes.slice table 0 header.arrayLen
  require (header.entriesCrc = crc32 array) .tableChecksum
  let used ← header.entries array
  require (∀ item ∈ used, header.Admits item.2) .entryOutOfRange

end Header

end Gpt

end VolumeScan

/-
VolumeScan.Error — why a volume, a partition table or a read is refused.

`Defect` lists what can be wrong with data or with a request; `Error` adds the failures of devices,
of scratch memory and of the registry. Causes are data, and each has one wording (`Defect.message`,
`Error.message`). A check on data is a `require`: it passes exactly if its condition holds
(`require_eq_ok_iff`), so a chain of checks passes exactly if all conditions do
(`bind_eq_ok_iff`).
-/

namespace VolumeScan

/-- What is wrong with a volume, a partition table or the data in it. -/
inductive Defect where
  /-- A partition was offered where a whole device is needed. -/
  | seededPartition
  /-- A device cannot have sectors of no bytes. -/
  | zeroSectorSize
  /-- The kind of a volume is recorded once. -/
  | alreadyClassified
  /-- The partition table of a volume is read once. -/
  | alreadyScanned
  /-- The first sector does not end in the boot signature. -/
  | missingBootSignature
  /-- A partition holds no partition table of its own. -/
  | nestedTable
  /-- The status byte of a legacy entry is neither "inactive" nor "active". -/
  | badStatus
  /-- A legacy entry describes bytes that have no 64-bit address. -/
  | unaddressablePartition
  /-- A legacy entry starts on the sector that holds the table. -/
  | partitionCoversTable
  /-- A legacy entry ends behind the end of its device. -/
  | partitionPastEnd
  /-- A legacy entry is empty or ends before it starts. -/
  | partitionBackwards
  /-- A buffer does not hold one sector, or a sector does not hold a header. -/
  | shortHeaderBuffer
  /-- The header does not start with its signature. -/
  | badHeaderSignature
  /-- The header is older than revision one. -/
  | oldRevision
  /-- The header says that it is shorter than its own fields. -/
  | headerTooShort
  /-- The header says that it is longer than the sector it stands in. -/
  | headerTooLong
  /-- The header does not have the checksum it carries. -/
  | headerChecksum
  /-- The reserved word of the header is in use. -/
  | reservedWord
  /-- There is no room for two headers. -/
  | diskTooSmall
  /-- The header names another sector than the one it was read from. -/
  | headerMisplaced
  /-- The header does not name the other end of the disk as the place of its twin. -/
  | alternateMisplaced
  /-- The usable area ends before it starts. -/
  | usableBackwards
  /-- The usable area reaches sectors that have no 64-bit byte address. -/
  | usableUnaddressable
  /-- The usable area reaches the header at the end of the disk. -/
  | usableMeetsBackup
  /-- The entry array does not start between the two headers. -/
  | arrayMisplaced
  /-- The entry array has no entries. -/
  | noEntries
  /-- Entries are shorter than their fields, or not a multiple of eight bytes. -/
  | badEntrySize
  /-- The sector has something behind the header. -/
  | tailNotEmpty
  /-- There are fewer bytes than the header announces for the entry array. -/
  | truncatedTable
  /-- The entry array does not have the checksum that the header carries. -/
  | tableChecksum
  /-- A used entry lies outside the usable area, or ends before it starts. -/
  | entryOutOfRange
  /-- A sector has no 64-bit byte address. -/
  | unaddressableSector
deriving DecidableEq, Repr

/-- The wording of a defect. -/
def Defect.message : Defect → String
  | .seededPartition => "only whole devices can be seeded"
  | .zeroSectorSize => "sector size must be non-zero"
  | .alreadyClassified => "volume has already been classified"
  | .alreadyScanned => "volume has already been scanned"
  | .missingBootSignature => "missing boot signature"
  | .nestedTable => "partitions can't contain partition tables"
  | .badStatus => "invalid status code in partition entry"
  | .unaddressablePartition => "partition is beyond addressable space"
  | .partitionCoversTable => "partition overlaps the partition table"
  | .partitionPastEnd => "partition extends past the end of the disk"
  | .partitionBackwards => "partition ends before it starts"
  | .shortHeaderBuffer => "header buffer is smaller than a sector"
  | .badHeaderSignature => "bad EFI signature"
  | .oldRevision => "unsupported revision"
  | .headerTooShort => "header too short"
  | .headerTooLong => "header larger than a sector"
  | .headerChecksum => "header checksum mismatch"
  | .reservedWord => "unsupported data in reserved field 0x14"
  | .diskTooSmall => "disk too small for a GPT"
  | .headerMisplaced => "header is not where it claims to be"
  | .alternateMisplaced => "alternate header is not at the other end of the disk"
  | .usableBackwards => "usable lbas are backwards?!"
  | .usableUnaddressable => "everything must be below the 2^64 point (~ eighteen million TB)"
  | .usableMeetsBackup => "usable area runs into the backup header"
  | .arrayMisplaced => "entry array is not between the headers"
  | .noEntries => "no partition entries"
  | .badEntrySize => "entry size is implausible"
  | .tailNotEmpty => "reserved header tail is not all empty"
  | .truncatedTable => "entry array is truncated"
  | .tableChecksum => "table crc invalid"
  | .entryOutOfRange => "partition entry is out of range"
  | .unaddressableSector => "address is beyond 2^64 bytes"

/-- Why an operation gives no result. -/
inductive Error where
  /-- A device ended before a read that starts at its byte `pos` was served. -/
  | io (pos : Nat)
  /-- A read of `len` bytes at byte `pos` was refused. -/
  | read (device : UInt32) (pos len : Nat)
  /-- The scratch allocator did not provide `size` bytes. -/
  | outOfScratch (size : Nat)
  /-- The registry has no volume at `index`. -/
  | noSuchVolume (index : Nat)
  /-- The registry has no room left. -/
  | registryFull
  /-- There is no partition table here. -/
  | notFound
  /-- A length is not a 64-bit number. -/
  | biggerThanMemory
  /-- The data or the request has a defect. -/
  | invalid (defect : Defect)
  /-- An access past the end of a buffer, or a number that leaves its machine word: what a caller
  must rule out before the operation, because it has no result and no wording. -/
  | fault
deriving DecidableEq, Repr

/-- The wording of an error. -/
def Error.message : Error → String
  | .io pos => "I/O error at byte " ++ toString pos ++ ": failed to fill whole buffer"
  | .read device pos len =>
    "reading " ++ toString len ++ " bytes at byte " ++ toString pos ++ " of device "
      ++ toString device.toNat ++ " failed"
  | .outOfScratch size => "scratch allocator could not provide " ++ toString size ++ " bytes"
  | .noSuchVolume index => "no volume at index " ++ toString index
  | .registryFull => "RegistryFull"
  | .notFound => "NotFound"
  | .biggerThanMemory => "BiggerThanMemory"
  | .invalid defect => defect.message
  | .fault => ""

/-- Go on if `p` holds, and refuse with the defect otherwise. -/
def require (p : Prop) [Decidable p] (defect : Defect) : Except Error Unit :=
  if p then .ok () else .error (.invalid defect)

theorem require_of_pos {p : Prop} [Decidable p] (defect : Defect) (h : p) :
    require p defect = .ok () := if_pos h

theorem require_of_neg {p : Prop} [Decidable p] (defect : Defect) (h : ¬p) :
    require p defect = .error (.invalid defect) := if_neg h

/-- A check passes exactly if its condition holds. -/
@[simp] theorem require_eq_ok_iff {p : Prop} [Decidable p] {defect : Defect} {u : Unit} :
    require p defect = .ok u ↔ p := by
  by_cases h : p <;> simp [require, h]

/-- A chain gives a result exactly if each of its steps does. -/
@[simp] theorem bind_eq_ok_iff {α β : Type} {x : Except Error α} {f : α → Except Error β} {b : β} :
    (x >>= f) = .ok b ↔ ∃ a, x = .ok a ∧ f a = .ok b := by
  cases x <;> simp [bind, Except.bind]

/-- Behind a step that gives a result, a chain goes on with it. -/
theorem ok_bind {α β : Type} (a : α) (f : α → Except Error β) : (Except.ok a >>= f) = f a := rfl

/-- A chain ends with the first error. -/
theorem error_bind {α β : Type} (error : Error) (f : α → Except Error β) :
    (Except.error error >>= f) = .error error := rfl

/-- A value that was computed from a result. -/
theorem map_eq_ok_iff {α β : Type} {x : Except Error α} {f : α → β} {b : β} :
    x.map f = .ok b ↔ ∃ a, x = .ok a ∧ f a = b := by
  cases x <;> simp [Except.map]

@[simp] theorem pure_eq_ok_iff {α : Type} {a b : α} :
    (pure a : Except Error α) = .ok b ↔ a = b := by
  simp [pure, Except.pure]

/-- Relabelling errors makes no difference to results. -/
@[simp] theorem mapError_eq_ok_iff {α : Type} {x : Except Error α} {f : Error → Error} {a : α} :
    x.mapError f = .ok a ↔ x = .ok a := by
  cases x with
  | error error =>
    show Except.error (f error) = .ok a ↔ _
    simp
  | ok value => rfl

theorem toOption_eq_some_iff {α : Type} {x : Except Error α} {a : α} :
    x.toOption = some a ↔ x = .ok a := by
  cases x <;> simp [Except.toOption]

/-- A list is worked through exactly if each of its items is. -/
theorem mapM_eq_ok_iff {α β : Type} {f : α → Except Error β} {xs : List α} {ys : List β} :
    xs.mapM f = .ok ys ↔ xs.map f = ys.map .ok := by
  induction xs generalizing ys with
  | nil => cases ys <;> simp
  | cons x xs ih =>
    simp only [List.mapM_cons, bind_eq_ok_iff, ih, pure_eq_ok_iff, List.map_cons]
    constructor
    · intro h
      obtain ⟨y, hy, rest, hrest, rfl⟩ := h
      simp [hy, hrest]
    · intro h
      cases ys with
      | nil => simp at h
      | cons y rest =>
        simp only [List.map_cons, List.cons.injEq] at h
        exact ⟨y, h.1, rest, h.2, rfl⟩

/-- A list whose items can all be worked through can be worked through. -/
theorem exists_mapM_eq_ok {α β : Type} {f : α → Except Error β} {xs : List α}
    (h : ∀ x ∈ xs, ∃ y, f x = .ok y) : ∃ ys, xs.mapM f = .ok ys := by
  induction xs with
  | nil => exact ⟨[], rfl⟩
  | cons x xs ih =>
    obtain ⟨y, hy⟩ := h x List.mem_cons_self
    obtain ⟨ys, hys⟩ := ih fun x hx => h x (List.mem_cons_of_mem _ hx)
    refine ⟨y :: ys, mapM_eq_ok_iff.mpr ?_⟩
    rw [List.map_cons, List.map_cons, hy, mapM_eq_ok_iff.mp hys]

/-- A check on every item of a list passes exactly if it passes on each of them. -/
theorem forM_eq_ok_iff {α : Type} {check : α → Except Error Unit} {xs : List α} {u : Unit} :
    xs.forM check = .ok u ↔ ∀ x ∈ xs, check x = .ok () := by
  induction xs with
  | nil => exact ⟨fun _ x hx => absurd hx List.not_mem_nil, fun _ => rfl⟩
  | cons x rest ih =>
    have hstep : (x :: rest).forM check = check x >>= fun _ => rest.forM check := rfl
    rw [hstep, List.forall_mem_cons]
    cases hx : check x with
    | ok _ => exact ih.trans (by simp)
    | error error => simp [bind, Except.bind]

end VolumeScan

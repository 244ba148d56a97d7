/-
VolumeScan.Registry — the volumes found so far, in order, up to a capacity.

Volumes are addressed by their index; new ones go to the end (`Registry.append`) and none is ever
removed. The only change to a volume that is already there is `Registry.classify`, which records
once what a whole device contains.
-/
import VolumeScan.Error
import VolumeScan.Volume

namespace VolumeScan

/-- A list of volumes that holds at most `capacity` of them. -/
structure Registry where
  capacity : Nat
  volumes : List Volume
deriving DecidableEq, Repr

namespace Registry

/-- A registry without volumes. -/
def empty (capacity : Nat) : Registry := ⟨capacity, []⟩

/-- The number of volumes. -/
def size (registry : Registry) : Nat := registry.volumes.length

/-- Whether there is no volume. -/
def isEmpty (registry : Registry) : Bool := registry.volumes.isEmpty

/-- The number of volumes that can still be appended. -/
def room (registry : Registry) : Nat := registry.capacity - registry.size

/-- Whether nothing can be appended. -/
def isFull (registry : Registry) : Bool := registry.room = 0

/-- The volume at an index. -/
def get? (registry : Registry) (index : Nat) : Option Volume := registry.volumes[index]?

/-- The volume at an index, or an error that names the index. -/
def volume (registry : Registry) (index : Nat) : Except Error Volume :=
  match registry.get? index with
  | some volume => .ok volume
  | none => .error (.noSuchVolume index)

/-- Append a volume, if there is room. Its index is the size that the registry had. -/
def append (registry : Registry) (volume : Volume) : Option Registry :=
  if registry.isFull then none
  else some { registry with volumes := registry.volumes ++ [volume] }

/-- Append a whole device. The result has its index. -/
def seed (registry : Registry) (volume : Volume) : Except Error (Nat × Registry) := do
  require (volume.partition = none) .seededPartition
  require (volume.sectorSize ≠ 0) .zeroSectorSize
  match registry.append volume with
  | some grown => .ok (registry.size, grown)
  | none => .error .registryFull

/-- Record what a whole device contains. This is possible once. -/
def classify (registry : Registry) (index : Nat) (kind : VolumeKind) : Except Error Registry := do
  let volume ← registry.volume index
  require (volume.partition = none ∧ volume.kind = .unknown) .alreadyClassified
  return { registry with volumes := registry.volumes.set index { volume with kind := kind } }

end Registry

end VolumeScan

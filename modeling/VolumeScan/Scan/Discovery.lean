/-
VolumeScan.Scan.Discovery — one pass over all volumes of a registry.

`Scanner.discover` reads the first sector of every volume that is registered when the pass starts,
and registers the partitions of those that hold a partition table. Volumes added by the pass are not
scanned themselves, and a volume that cannot be read does not stop the pass.
-/
import VolumeScan.Scan.Detection

namespace VolumeScan

namespace Scanner

variable {σ : Type}

/-- Read the table in the first sector of a volume. At least as much is read as a table takes. -/
def readBootSector (scanner : Scanner σ) (volume : Volume) : Action σ Mbr :=
  let readLen := max volume.sectorSize.toNat Mbr.sectorSize
  Action.withBuffer scanner.env readLen fun buffer => do
    let bytes ← Action.fill scanner.env buffer volume 0 readLen
    let sector ← Bytes.slice bytes 0 Mbr.sectorSize
    Mbr.ofSector sector

/-- The records about the volumes from index `first` on. -/
def reports (registry : Registry) (first : Nat) : List Record :=
  (registry.volumes.zipIdx.drop first).map fun (volume, index) => .found index volume

/-- Look for a partition table on the volume at an index. The result says whether the volume could
be read. -/
def visit (scanner : Scanner σ) (registry : Registry) (index : Nat) (state : σ) : Pass σ Bool :=
  match registry.get? index with
  | none => ⟨false, registry, state, []⟩
  | some volume =>
    match (scanner.readBootSector volume).run registry state with
    | ⟨.error error, registry, state, events⟩ =>
      ⟨false, registry, state, events ++ [.log (.unreadable index error)]⟩
    | ⟨.ok mbr, registry, state, events⟩ =>
      match mbr.validate volume with
      | .error error => ⟨true, registry, state, events ++ [.log (.noTable index error)]⟩
      | .ok () =>
        let pass := scanner.detectOrLog mbr index registry state
        ⟨true, pass.registry, pass.state,
          events ++ pass.events ++ (reports pass.registry pass.result).map .log⟩

/-- Visit the volumes at these indices in order. The result says whether any could be read. -/
def visitAll (scanner : Scanner σ) : List Nat → Registry → σ → Pass σ Bool
  | [], registry, state => ⟨false, registry, state, []⟩
  | index :: rest, registry, state =>
    let here := scanner.visit registry index state
    let further := scanner.visitAll rest here.registry here.state
    ⟨here.result || further.result, further.registry, further.state, here.events ++ further.events⟩

/-- Look for partition tables on all volumes registered so far. The result says whether any volume
could be read, whatever was found on it. -/
def discover (scanner : Scanner σ) (registry : Registry) (state : σ) : Pass σ Bool :=
  if registry.size = 0 then ⟨false, registry, state, [.log .noVolumes]⟩
  else
    let pass := scanner.visitAll (List.range registry.size) registry state
    let summary : Record :=
      if pass.result then .finished pass.registry.size else .nothingReadable registry.size
    { pass with events := pass.events ++ [.log summary] }

end Scanner

end VolumeScan

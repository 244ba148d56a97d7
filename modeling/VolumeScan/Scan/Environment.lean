/-
VolumeScan.Scan.Environment — what a scan runs on: a block reader and a scratch allocator.

An environment is a record of functions on a type of states, so that a statement about every
environment speaks of every reader and every allocator, whatever they remember. A successful read
gives exactly the bytes asked for. `Environment.ofDisks` reads from a set of devices, of which
chosen reads can be made to fail.
-/
import VolumeScan.Disks
import VolumeScan.Scratch.Allocator

namespace VolumeScan

/-- A block reader and a scratch allocator with a common state. -/
structure Environment (σ : Type) where
  /-- Read so many bytes at a position of a volume. -/
  read : σ → Volume → Nat → (len : Nat) → Except Error (Block len) × σ
  /-- The source of scratch memory. -/
  scratch : Allocator σ

/-- An environment over devices. A read at one of the `broken` places, each a device and a position
relative to the volume, is refused before anything else is looked at. -/
def Environment.ofDisks {σ : Type} (disks : Disks) (broken : List (UInt32 × Nat))
    (scratch : Allocator σ) : Environment σ where
  read := fun state volume pos len =>
    if (volume.deviceId, pos) ∈ broken then (.error (.read volume.deviceId pos len), state)
    else (disks.read volume pos len, state)
  scratch := scratch

end VolumeScan

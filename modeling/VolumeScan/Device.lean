/-
VolumeScan.Device — block devices, and how they answer a read that goes past their end.

A device is a size and a byte for every position; it may be far larger than memory, so its bytes are
only ever made for the range that is read (`Device.read`). `Device.ofChunks` builds a device of
zeros with pieces laid over them. The access to a device decides which reads succeed and which error
the others give (`Access.read`).
-/
import VolumeScan.Bytes

namespace VolumeScan

/-- A device of `size` bytes. Positions from `size` on are not part of it. -/
structure Device where
  size : Nat
  byteAt : Nat → UInt8

/-- A piece of a device: bytes that start at `offset` and are repeated `copies` times. -/
structure Chunk where
  offset : Nat
  bytes : Array UInt8
  copies : Nat
deriving DecidableEq, Repr

/-- The byte that a chunk puts at a position, if it covers the position. -/
def Chunk.byteAt? (chunk : Chunk) (pos : Nat) : Option UInt8 :=
  if chunk.offset ≤ pos ∧ pos < chunk.offset + chunk.bytes.size * chunk.copies then
    chunk.bytes[(pos - chunk.offset) % chunk.bytes.size]?
  else none

namespace Device

/-- A device that holds exactly these bytes. -/
def ofArray (bytes : Array UInt8) : Device := ⟨bytes.size, fun pos => bytes.getD pos 0⟩

/-- A device of zeros with chunks laid over them in order, so that later ones hide earlier ones. -/
def ofChunks (size : Nat) (chunks : List Chunk) : Device :=
  let uppermost := chunks.reverse
  ⟨size, fun pos => (uppermost.findSome? (·.byteAt? pos)).getD 0⟩

/-- The bytes at `len` positions from `pos` on. -/
def read (device : Device) (pos len : Nat) : Block len :=
  ⟨(List.range len).map fun i => device.byteAt (pos + i), by simp⟩

/-- All bytes of a device. -/
def contents (device : Device) : Bytes := device.read 0 device.size

end Device

/-- How a device answers reads. -/
inductive Access where
  /-- A read that runs past the end is an I/O error. A read of nothing always succeeds. -/
  | hosted
  /-- A read that is not inside the device is refused as it was asked for, also one of nothing. -/
  | resident
  /-- A device of the caller's own, which stands for all that answer reads otherwise than the two
  above. A read that runs past the end is refused with the number of bytes that there are, and an
  empty device refuses everything. -/
  | metered
deriving DecidableEq, Repr

/-- Read `len` bytes at position `pos` of a device. A device does not know its own number, so it
reports number zero. -/
def Access.read (access : Access) (device : Device) (pos len : Nat) : Except Error (Block len) :=
  match access with
  | .hosted =>
    if len = 0 ∨ pos + len ≤ device.size then .ok (device.read pos len)
    else .error (.io pos)
  | .resident =>
    if pos + len ≤ device.size then .ok (device.read pos len)
    else .error (.read 0 pos len)
  | .metered =>
    if device.size = 0 then .error .notFound
    else if len ≤ device.size - pos then .ok (device.read pos len)
    else .error (.read 0 pos (device.size - pos))

end VolumeScan

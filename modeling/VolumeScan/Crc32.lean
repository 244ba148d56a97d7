/-
VolumeScan.Crc32 — the cyclic redundancy check that GPT headers and entry arrays carry.

The register is shifted one bit at a time over the reflected polynomial; it starts with all bits set
and is complemented at the end. `Crc32.update` feeds bytes to a register, so a checksum over several
pieces is a chain of updates (`Crc32.update_append`), and `crc32Blanked` is such a chain with zeros
in the place of a stretch of the data (`crc32Blanked_eq`).
-/
import VolumeScan.Bytes

namespace VolumeScan

namespace Crc32

/-- The polynomial x^32 + x^26 + … + x + 1 with its bits in reverse order. -/
def polynomial : UInt32 := 0xEDB88320

/-- Shift the register by one bit, and subtract the polynomial if the bit shifted out is set. -/
def shift (register : UInt32) : UInt32 :=
  if register &&& 1 = 1 then (register >>> 1) ^^^ polynomial else register >>> 1

/-- Feed one byte to the register, the least significant bit first. -/
def absorb (register : UInt32) (b : UInt8) : UInt32 :=
  shift (shift (shift (shift (shift (shift (shift (shift (register ^^^ b.toUInt32))))))))

/-- Feed a string of bytes to the register. -/
def update (register : UInt32) (bytes : Bytes) : UInt32 := bytes.foldl absorb register

/-- The register before the first byte. -/
def initial : UInt32 := 0xFFFFFFFF

/-- The checksum that a register stands for after the last byte. -/
def finish (register : UInt32) : UInt32 := register ^^^ 0xFFFFFFFF

/-- Feeding two strings is feeding the one and then the other. -/
theorem update_append (register : UInt32) (xs ys : Bytes) :
    update register (xs ++ ys) = update (update register xs) ys := List.foldl_append

/-- A string can be fed in two parts. -/
theorem update_take_drop (n : Nat) (register : UInt32) (bytes : Bytes) :
    update register bytes = update (update register (bytes.take n)) (bytes.drop n) := by
  rw [← update_append, List.take_append_drop]

end Crc32

/-- The checksum of a string of bytes. -/
def crc32 (bytes : Bytes) : UInt32 := Crc32.finish (Crc32.update Crc32.initial bytes)

/-- The checksum of the bytes before `start`, one zero for every position from `start` up to `stop`,
and the bytes from `stop` on. Both positions must lie inside the data; they may be reversed, and
then there are no zeros. -/
def crc32Blanked (bytes : Bytes) (start stop : Nat) : Except Error UInt32 :=
  if start ≤ bytes.length ∧ stop ≤ bytes.length then
    let before := Crc32.update Crc32.initial (bytes.take start)
    let across := Crc32.update before (List.replicate (stop - start) 0)
    .ok (Crc32.finish (Crc32.update across (bytes.drop stop)))
  else .error .fault

/-- The checksum with a stretch blanked is the checksum of the data with zeros there. -/
theorem crc32Blanked_eq {bytes : Bytes} {start stop : Nat}
    (hstart : start ≤ bytes.length) (hstop : stop ≤ bytes.length) :
    crc32Blanked bytes start stop
      = .ok (crc32 (bytes.take start ++ List.replicate (stop - start) 0 ++ bytes.drop stop)) := by
  simp [crc32Blanked, crc32, Crc32.update_append, hstart, hstop]

end VolumeScan

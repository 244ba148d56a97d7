/-
VolumeScan.Utf16 — text in 16-bit units.

A unit outside the surrogate ranges is a character; a high surrogate and the low surrogate behind it
are one character; any other surrogate is read as the replacement character. `Utf16.encode` writes
the units of a text, and `Utf16.decode` reads them back.
-/

namespace VolumeScan

namespace Utf16

/-- What an unpaired surrogate is read as. -/
def replacement : Char := '\uFFFD'

/-- The first unit of a pair. -/
def isHigh (unit : UInt16) : Bool := 0xD800 ≤ unit.toNat && unit.toNat < 0xDC00

/-- The second unit of a pair. -/
def isLow (unit : UInt16) : Bool := 0xDC00 ≤ unit.toNat && unit.toNat < 0xE000

/-- The character that a pair of units stands for. -/
def pair (high low : UInt16) : Char :=
  Char.ofNat (0x10000 + 0x400 * (high.toNat - 0xD800) + (low.toNat - 0xDC00))

/-- The text that a string of units stands for. A high surrogate without a low one behind it does
not consume the unit behind it. -/
def decode : List UInt16 → List Char
  | [] => []
  | [unit] =>
    if isHigh unit || isLow unit then [replacement] else [Char.ofNat unit.toNat]
  | unit :: next :: rest =>
    if isHigh unit then
      if isLow next then pair unit next :: decode rest
      else replacement :: decode (next :: rest)
    else if isLow unit then replacement :: decode (next :: rest)
    else Char.ofNat unit.toNat :: decode (next :: rest)

/-- The units of a character: one below 0x10000, and otherwise a pair. -/
def encodeChar (c : Char) : List UInt16 :=
  if c.toNat < 0x10000 then [UInt16.ofNat c.toNat]
  else
    let rest := c.toNat - 0x10000
    [UInt16.ofNat (0xD800 + rest / 0x400), UInt16.ofNat (0xDC00 + rest % 0x400)]

/-- The units of a text. -/
def encode (text : List Char) : List UInt16 := text.flatMap encodeChar

end Utf16

end VolumeScan

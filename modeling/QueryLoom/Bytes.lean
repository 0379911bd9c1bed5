import QueryLoom.Text.Hex

/-!
# Byte strings

Binary data as a list of bytes, its hexadecimal text, and the big-endian form of numbers.

## Main definitions

* `Bytes.hex`, `Bytes.ofHex?`: two lower-case digits for each byte, and back.
* `Bytes.ofNat`, `Bytes.toNat`: a number as a given count of bytes, the highest first, and back.
* `Bytes.ofInt`, `Bytes.toInt`: the same for integers, in two's complement.
-/

namespace QueryLoom

/-- Binary data. -/
abbrev Bytes := List UInt8

namespace Bytes

/-! ## Hexadecimal text -/

/-- Two digits for each byte. -/
def hexChars (bytes : Bytes) : List Char :=
  bytes.flatMap fun b => [Hex.digit (b.toNat / 16), Hex.digit (b.toNat % 16)]

/-- The hexadecimal text of bytes. -/
def hex (bytes : Bytes) : String :=
  String.ofList (hexChars bytes)

/-- The bytes that pairs of digits spell. -/
def ofHexChars? : List Char → Option Bytes
  | [] => some []
  | [_] => none
  | a :: b :: rest => do
    let high ← Hex.value? a
    let low ← Hex.value? b
    let more ← ofHexChars? rest
    pure (UInt8.ofNat (high * 16 + low) :: more)

/-- The bytes that a hexadecimal text spells. -/
def ofHex? (text : String) : Option Bytes :=
  ofHexChars? text.toList

/-! ## Big-endian numbers -/

/-- The lowest `width` bytes of a number, the highest of them first. -/
def ofNat : Nat → Nat → Bytes
  | 0, _ => []
  | width + 1, n => ofNat width (n / 256) ++ [UInt8.ofNat (n % 256)]

/-- The number that bytes spell, the highest first. -/
def toNat (bytes : Bytes) : Nat :=
  bytes.foldl (fun n b => n * 256 + b.toNat) 0

/-- The lowest `width` bytes of an integer in two's complement. -/
def ofInt (width : Nat) (n : Int) : Bytes :=
  ofNat width (n % Nat.pow 256 width).toNat

/-- The integer that bytes spell in two's complement. -/
def toInt (bytes : Bytes) : Int :=
  Int.bmod (toNat bytes) (Nat.pow 256 bytes.length)

/-! ## Text -/

/-- The UTF-8 form of a text. -/
def ofText (text : String) : Bytes :=
  text.toUTF8.data.toList

/-- The text whose UTF-8 form is given. -/
def text? (bytes : Bytes) : Option String :=
  String.fromUTF8? ⟨bytes.toArray⟩

end Bytes

end QueryLoom

import QueryLoom.Json
import QueryLoom.Number.Shortest
import QueryLoom.Text.Hex

/-!
# Compact JSON text

A document is written without blanks.  Strings escape the quote, the backslash and control
characters only; a double is written with the fewest digits that read back, positionally between
`0.00001` and `10 ^ 16` and always with a fraction, otherwise with a signed exponent.

## Main definitions

* `Json.compact`: the text of a document.
-/

namespace QueryLoom.Json

/-- A character inside a string. -/
def escape (c : Char) : List Char :=
  if c = '"' then ['\\', '"']
  else if c = '\\' then ['\\', '\\']
  else if c = '\x08' then ['\\', 'b']
  else if c = '\t' then ['\\', 't']
  else if c = '\n' then ['\\', 'n']
  else if c = '\x0c' then ['\\', 'f']
  else if c = '\r' then ['\\', 'r']
  else if c.toNat < 32 then
    ['\\', 'u', '0', '0', Hex.digit (c.toNat / 16), Hex.digit (c.toNat % 16)]
  else [c]

/-- A string with its quotes. -/
def quotedText (s : String) : String :=
  String.ofList ('"' :: s.toList.flatMap escape ++ ['"'])

/-- A run of zeros. -/
def zeros (n : Nat) : String := String.ofList (List.replicate n '0')

/-- Decimal digits with a point or an exponent, given the digits and the power of ten of the last
one. -/
def decimalText (digits : Nat) (k : Int) : String :=
  let ds := Nat.toDigits 10 digits
  let length : Int := ds.length
  let lead := k + length - 1
  if -5 ≤ lead && lead ≤ 15 then
    if 0 ≤ k then String.ofList ds ++ zeros k.toNat ++ ".0"
    else if 0 ≤ lead then
      String.ofList (ds.take (lead.toNat + 1)) ++ "." ++ String.ofList (ds.drop (lead.toNat + 1))
    else "0." ++ zeros (-lead - 1).toNat ++ String.ofList ds
  else
    let point := if ds.length = 1 then "" else "."
    let sign := if lead < 0 then "e-" else "e+"
    String.ofList (ds.take 1) ++ point ++ String.ofList (ds.drop 1) ++ sign ++ toString lead.natAbs

/-- The text of a double; what is no finite number is written as null. -/
def doubleText (x : Double) : String :=
  if x.isNaN || x.isInfinite then "null"
  else
    let sign := if x.isNegative then "-" else ""
    if x.isZero then sign ++ "0.0"
    else sign ++ decimalText (Shortest.decimal x).1 (Shortest.decimal x).2

mutual

/-- The text of a document, without blanks. -/
def compact : Json → String
  | .null => "null"
  | .bool true => "true"
  | .bool false => "false"
  | .int n => toString n
  | .float x => doubleText x
  | .text s => quotedText s
  | .array items => "[" ++ compactItems items ++ "]"
  | .object members => "\x7b" ++ compactMembers members ++ "\x7d"

/-- The items of an array, separated by commas. -/
def compactItems : List Json → String
  | [] => ""
  | [item] => compact item
  | item :: rest => compact item ++ "," ++ compactItems rest

/-- The members of an object, separated by commas. -/
def compactMembers : List (String × Json) → String
  | [] => ""
  | [(key, item)] => quotedText key ++ ":" ++ compact item
  | (key, item) :: rest => quotedText key ++ ":" ++ compact item ++ "," ++ compactMembers rest

end

end QueryLoom.Json

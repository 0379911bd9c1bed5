import QueryLoom.Bytes

/-!
# Unique identifiers

An identifier of sixteen bytes.  It is written in lower case with hyphens and read in four forms:
32 digits, with hyphens, with hyphens in braces, and with hyphens behind `urn:uuid:`.  Reading does
not tell upper case from lower case.

## Main definitions

* `Uuid`: identifiers.
* `Uuid.text`, `Uuid.parse?`: the written form, and reading.
-/

namespace QueryLoom

/-- A unique identifier. -/
structure Uuid where
  bytes : Bytes
  size : bytes.length = 16
  deriving DecidableEq

namespace Uuid

/-- The identifier of sixteen bytes. -/
def ofBytes? (bytes : Bytes) : Option Uuid :=
  if h : bytes.length = 16 then some ⟨bytes, h⟩ else none

/-- The positions of the hyphens among 36 characters. -/
def hyphens : List Nat := [8, 13, 18, 23]

/-- The written form: groups of 8, 4, 4, 4 and 12 digits. -/
def text (u : Uuid) : String :=
  let ds := Bytes.hexChars u.bytes
  String.ofList (ds.take 8 ++ '-' :: (ds.drop 8).take 4 ++ '-' :: (ds.drop 12).take 4 ++
    '-' :: (ds.drop 16).take 4 ++ '-' :: ds.drop 20)

/-- Read 32 digits. -/
def ofDigits? (cs : List Char) : Option Uuid := do
  let bytes ← Bytes.ofHexChars? cs
  ofBytes? bytes

/-- Read 36 characters with hyphens at their places. -/
def ofHyphenated? (cs : List Char) : Option Uuid :=
  if cs.length = 36 && hyphens.all fun i => cs[i]? == some '-' then
    ofDigits? (cs.take 8 ++ (cs.drop 9).take 4 ++ (cs.drop 14).take 4 ++ (cs.drop 19).take 4 ++
      cs.drop 24)
  else none

/-- What stands in front of an identifier that is written as a resource name. -/
def resourceName : List Char := "urn:uuid:".toList

/-- Read an identifier in one of its four forms. -/
def parse? (text : String) : Option Uuid :=
  match text.toList with
  | '\x7b' :: rest =>
    if rest.getLast? = some '\x7d' then ofHyphenated? rest.dropLast else none
  | cs =>
    if cs.length = 32 then ofDigits? cs
    else if (cs.take 9).map Char.toLower = resourceName then ofHyphenated? (cs.drop 9)
    else ofHyphenated? cs

end Uuid

end QueryLoom

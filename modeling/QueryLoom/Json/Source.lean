import QueryLoom.Json
import QueryLoom.Text.Hex

/-!
# Reading JSON

Reading has two steps.  The first finds the structure of a text and keeps numbers and strings as
they are spelled.  The second gives the spelling its value, and refuses what has none: a number
beyond the range of doubles, half of a surrogate pair, or nesting that is too deep.  A reader that
skips a member needs only the first step.

A number without fraction and exponent is an integer if 64 bits hold it.  Every other number is a
double: its leading digits, as many as 64 bits hold, are rounded to a double, which is then scaled
by powers of ten up to `10 ^ 308`, each of them and each product or quotient rounded to a double.

## Main definitions

* `Json.Source`: the structure of a text.
* `Json.Source.ofText?`: the structure, if the text has one.
* `Json.parse?`: the document that a text spells.
-/

namespace QueryLoom.Json

/-! ## Structure -/

/-- The spelling of a number; the fraction is empty when there is none. -/
structure Numeral where
  negative : Bool
  whole : List Nat
  fraction : List Nat
  exponent : Option (Bool × List Nat)
  deriving Repr

/-- One element of a string's spelling: a character, or the code unit of a numeric escape. -/
inductive Glyph where
  | char (c : Char)
  | unit (code : Nat)
  deriving Repr

/-- The structure of a JSON text. -/
inductive Source where
  | null
  | bool (b : Bool)
  | number (n : Numeral)
  | text (s : List Glyph)
  | array (items : List Source)
  | object (members : List (List Glyph × Source))
  deriving Repr

namespace Source

/-- Blanks may stand around every token. -/
def isBlank (c : Char) : Bool :=
  c == ' ' || c == '\t' || c == '\n' || c == '\r'

/-- A text without the blanks at its start. -/
def skipBlanks (cs : List Char) : List Char :=
  cs.dropWhile isBlank

/-- The value of a decimal digit. -/
def digit? (c : Char) : Option Nat :=
  if c.isDigit then some (c.toNat - 48) else none

/-- The digits at the start of a text, and what follows them. -/
def digits : List Char → List Nat × List Char
  | [] => ([], [])
  | c :: rest => match digit? c with
    | some d => (d :: (digits rest).1, (digits rest).2)
    | none => ([], c :: rest)

/-- The exponent part of a number, if the text starts with one; `none` when its digits are
missing. -/
def exponentPart? (cs : List Char) : Option (Option (Bool × List Nat) × List Char) :=
  match cs with
  | c :: rest =>
    if c = 'e' || c = 'E' then
      let (negative, rest) := match rest with
        | '-' :: rest => (true, rest)
        | '+' :: rest => (false, rest)
        | rest => (false, rest)
      match digits rest with
      | ([], _) => none
      | (ds, rest) => some (some (negative, ds), rest)
    else some (none, cs)
  | [] => some (none, [])

/-- A number without its sign.  Only a lone zero may start with zero, and a point needs digits on
both sides. -/
def magnitude? (negative : Bool) (cs : List Char) : Option (Numeral × List Char) :=
  match digits cs with
  | ([], _) => none
  | (0 :: _ :: _, _) => none
  | (whole, '.' :: rest) => match digits rest with
    | ([], _) => none
    | (fraction, rest) => do
      let (exponent, rest) ← exponentPart? rest
      pure (⟨negative, whole, fraction, exponent⟩, rest)
  | (whole, rest) => do
    let (exponent, rest) ← exponentPart? rest
    pure (⟨negative, whole, [], exponent⟩, rest)

/-- The code unit that four hexadecimal digits spell. -/
def codeUnit? (a b c d : Char) : Option Nat := do
  let a ← Hex.value? a
  let b ← Hex.value? b
  let c ← Hex.value? c
  let d ← Hex.value? d
  pure (a * 4096 + b * 256 + c * 16 + d)

/-- The rest of a string after its opening quote, up to and without the closing one.  Control
characters have to be escaped. -/
def string? : List Char → Option (List Glyph × List Char)
  | [] => none
  | '"' :: rest => some ([], rest)
  | '\\' :: 'u' :: a :: b :: c :: d :: rest => do
    let code ← codeUnit? a b c d
    let (more, rest) ← string? rest
    pure (.unit code :: more, rest)
  | '\\' :: c :: rest => do
    let plain ← match c with
      | '"' => some '"'
      | '\\' => some '\\'
      | '/' => some '/'
      | 'b' => some '\x08'
      | 'f' => some '\x0c'
      | 'n' => some '\n'
      | 'r' => some '\r'
      | 't' => some '\t'
      | _ => none
    let (more, rest) ← string? rest
    pure (.char plain :: more, rest)
  | c :: rest =>
    if c = '\\' || c.toNat < 32 then none
    else do
      let (more, rest) ← string? rest
      pure (.char c :: more, rest)

mutual

/-- A value at the start of a text, and what follows it. -/
def value? : Nat → List Char → Option (Source × List Char)
  | 0, _ => none
  | fuel + 1, cs => match skipBlanks cs with
    | 'n' :: 'u' :: 'l' :: 'l' :: rest => some (.null, rest)
    | 't' :: 'r' :: 'u' :: 'e' :: rest => some (.bool true, rest)
    | 'f' :: 'a' :: 'l' :: 's' :: 'e' :: rest => some (.bool false, rest)
    | '"' :: rest => do
      let (s, rest) ← string? rest
      pure (.text s, rest)
    | '[' :: rest => match skipBlanks rest with
      | ']' :: rest => some (.array [], rest)
      | rest => do
        let (items, rest) ← items? fuel rest
        pure (.array items, rest)
    | '\x7b' :: rest => match skipBlanks rest with
      | '\x7d' :: rest => some (.object [], rest)
      | rest => do
        let (members, rest) ← members? fuel rest
        pure (.object members, rest)
    | '-' :: rest => do
      let (n, rest) ← magnitude? true rest
      pure (.number n, rest)
    | rest => do
      let (n, rest) ← magnitude? false rest
      pure (.number n, rest)

/-- The items of an array up to its closing bracket; there is at least one. -/
def items? : Nat → List Char → Option (List Source × List Char)
  | 0, _ => none
  | fuel + 1, cs => do
    let (item, rest) ← value? fuel cs
    match skipBlanks rest with
    | ',' :: rest => do
      let (more, rest) ← items? fuel rest
      pure (item :: more, rest)
    | ']' :: rest => pure ([item], rest)
    | _ => none

/-- The members of an object up to its closing brace; there is at least one. -/
def members? : Nat → List Char → Option (List (List Glyph × Source) × List Char)
  | 0, _ => none
  | fuel + 1, cs => match skipBlanks cs with
    | '"' :: rest => do
      let (key, rest) ← string? rest
      match skipBlanks rest with
      | ':' :: rest => do
        let (item, rest) ← value? fuel rest
        match skipBlanks rest with
        | ',' :: rest => do
          let (more, rest) ← members? fuel rest
          pure ((key, item) :: more, rest)
        | '\x7d' :: rest => pure ([(key, item)], rest)
        | _ => none
      | _ => none
    | _ => none

end

/-- The structure of a whole text.  Every second step reads a character, so twice the length of the
text bounds the steps. -/
def ofText? (text : String) : Option Source :=
  let cs := text.toList
  match value? (2 * cs.length + 2) cs with
  | some (source, rest) => if (skipBlanks rest).isEmpty then some source else none
  | none => none

end Source

/-! ## Numbers -/

namespace Numeral

/-- The integers that 64 bits hold, with or without sign. -/
def maxNatural : Nat := 0xFFFFFFFFFFFFFFFF

/-- Read digits onto a number for as long as 64 bits hold it: the number, and how many digits were
left over. -/
def readDigits (start : Nat) : List Nat → Nat × Nat
  | [] => (start, 0)
  | d :: rest =>
    if start * 10 + d ≤ maxNatural then readDigits (start * 10 + d) rest
    else (start, rest.length + 1)

/-- The value of digits, clamped so that a long exponent stays small. -/
def clamped (bound : Nat) (ds : List Nat) : Nat :=
  ds.foldl (fun n d => min bound (n * 10 + d)) 0

/-- The integer a numeral spells, if it has neither fraction nor exponent and 64 bits hold it.  A
negative zero is no integer. -/
def integer? (n : Numeral) : Option Int :=
  match n.fraction, n.exponent, readDigits 0 n.whole with
  | [], none, (magnitude, 0) =>
    if n.negative then
      if magnitude = 0 || 0x8000000000000000 < magnitude then none else some (-(magnitude : Int))
    else some magnitude
  | _, _, _ => none

/-- The greatest power of ten that a double holds. -/
def greatestPower : Nat := 308

/-- The double nearest to a power of ten. -/
def powerOfTen (k : Nat) : Double := .ofRatio false (Nat.pow 10 k) 1

/-- A double times a double, both positive and finite, rounded. -/
def product (x y : Double) : Double :=
  .ofRatio false (x.ratio.1 * y.ratio.1) (x.ratio.2 * y.ratio.2)

/-- A double by a double, both positive and finite, rounded. -/
def quotient (x y : Double) : Double :=
  .ofRatio false (x.ratio.1 * y.ratio.2) (x.ratio.2 * y.ratio.1)

/-- Divide by a power of ten, in steps that a double can hold. -/
def scaleDown (x : Double) (k : Nat) : Double :=
  if x.isZero then x
  else if k ≤ greatestPower then quotient x (powerOfTen k)
  else scaleDown (quotient x (powerOfTen greatestPower)) (k - greatestPower)
termination_by k
decreasing_by simp [greatestPower] at *; omega

/-- A double scaled by a power of ten; `none` beyond the range of doubles. -/
def scale? (x : Double) : Int → Option Double
  | .ofNat k =>
    if k ≤ greatestPower then
      let y := product x (powerOfTen k)
      if y.isInfinite then none else some y
    else if x.isZero then some x else none
  | .negSucc k => some (scaleDown x (k + 1))

/-- An exponent that no number of digits can bring back into range. -/
def farExponent : Nat := 1000000000

/-- The double a numeral spells; `none` beyond the range of doubles. -/
def double? (n : Numeral) : Option Double :=
  let (whole, skipped) := readDigits 0 n.whole
  let (significand, unread) := readDigits whole n.fraction
  let read : Int := (skipped : Int) - ((n.fraction.length : Int) - unread)
  let start := Double.ofInt significand
  let scaled := match n.exponent with
    | none => scale? start read
    | some (negative, ds) =>
      let e := clamped farExponent ds
      if e = farExponent then
        if significand ≠ 0 && !negative then none else some (.ofInt 0)
      else scale? start (if negative then read - e else read + e)
  scaled.map fun x => ⟨if n.negative then x.bits + (0x8000000000000000 : UInt64) else x.bits⟩

/-- The number a numeral spells. -/
def json? (n : Numeral) : Option Json :=
  match n.integer? with
  | some i => some (.int i)
  | none => n.double?.map .float

end Numeral

/-! ## Values -/

/-- The characters that a string spells; a surrogate has to be one of a pair. -/
def Glyph.decode? : List Glyph → Option (List Char)
  | [] => some []
  | .char c :: rest => (decode? rest).map (c :: ·)
  | .unit high :: .unit low :: rest =>
    if 0xD800 ≤ high && high < 0xDC00 then
      if 0xDC00 ≤ low && low < 0xE000 then
        (decode? rest).map (Char.ofNat (0x10000 + (high - 0xD800) * 1024 + (low - 0xDC00)) :: ·)
      else none
    else if 0xDC00 ≤ high && high < 0xE000 then none
    else (decode? (.unit low :: rest)).map (Char.ofNat high :: ·)
  | .unit code :: rest =>
    if 0xD800 ≤ code && code < 0xE000 then none
    else (decode? rest).map (Char.ofNat code :: ·)

/-- The string that glyphs spell. -/
def Glyph.string? (s : List Glyph) : Option String :=
  (Glyph.decode? s).map String.ofList

namespace Source

mutual

/-- The document of a structure, if no array or object is nested deeper than `depth`. -/
def json? (depth : Nat) : Source → Option Json
  | .null => some .null
  | .bool b => some (.bool b)
  | .number n => n.json?
  | .text s => (Glyph.string? s).map .text
  | .array items => match depth with
    | 0 => none
    | depth + 1 => (jsonItems? depth items).map .array
  | .object members => match depth with
    | 0 => none
    | depth + 1 => (jsonMembers? depth members).map Json.ofMembers

/-- The documents of an array's items. -/
def jsonItems? (depth : Nat) : List Source → Option (List Json)
  | [] => some []
  | item :: rest => do
    let item ← json? depth item
    let rest ← jsonItems? depth rest
    pure (item :: rest)

/-- The documents of an object's members. -/
def jsonMembers? (depth : Nat) : List (List Glyph × Source) → Option (List (String × Json))
  | [] => some []
  | (key, item) :: rest => do
    let key ← Glyph.string? key
    let item ← json? depth item
    let rest ← jsonMembers? depth rest
    pure ((key, item) :: rest)

end

end Source

/-- The deepest nesting of arrays and objects that is read. -/
def depthLimit : Nat := 127

/-- The document that a text spells. -/
def parse? (text : String) : Option Json := do
  let source ← Source.ofText? text
  source.json? depthLimit

end QueryLoom.Json

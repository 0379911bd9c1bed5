import QueryLoom.Session

/-!
# Condition templates

The text of a condition is a template in which `{column}` stands for the column, `?` for one bound
value and `{?}` for one placeholder per value of a list.

## Main definitions

* `Template.parse`: the parts of a template's source.
* `Template.apply`: the text for a column, binding values.
* `Template.applyInline`: the text for a column compared with another column.
-/

namespace QueryLoom

/-- A part of a template. -/
inductive Part where
  /-- Text that stands as it is. -/
  | text (s : String)
  /-- The column. -/
  | column
  /-- One bound value. -/
  | param
  /-- All values of a list. -/
  | params
  deriving DecidableEq, Repr

/-- A template: its source and its parts. -/
structure Template where
  source : String
  parts : List Part
  deriving DecidableEq, Repr

namespace Template

/-- The part for the text read so far, if there is any. -/
def pending (text : List Char) : List Part :=
  if text.isEmpty then [] else [.text (String.ofList text)]

/-- The parts of a source, where `text` is what has been read since the last part. -/
def scan (text : List Char) : List Char → List Part
  | '\x7b' :: 'c' :: 'o' :: 'l' :: 'u' :: 'm' :: 'n' :: '\x7d' :: rest =>
    pending text ++ .column :: scan [] rest
  | '\x7b' :: '?' :: '\x7d' :: rest => pending text ++ .params :: scan [] rest
  | '?' :: rest => pending text ++ .param :: scan [] rest
  | c :: rest => scan (text ++ [c]) rest
  | [] => pending text

/-- The template of a source. -/
def parse (source : String) : Template := ⟨source, scan [] source.toList⟩

/-- The number of values that are bound one by one. -/
def fixed (template : Template) : Nat :=
  template.parts.countP (· == .param)

/-- Whether the template takes a list of values. -/
def variadic (template : Template) : Bool :=
  template.parts.contains .params

/-- Whether a template takes a number of values: those bound one by one, or else a list of at least
one. -/
def accepts (template : Template) (count : Nat) : Bool :=
  if template.variadic then template.fixed == 0 && count != 0 else count == template.fixed

/-- A number of placeholders, separated by commas. -/
def placeholders : Nat → String
  | 0 => ""
  | 1 => "?"
  | n + 1 => "?, " ++ placeholders n

/-- The text of parts and the values that it binds, given the values that are left. -/
def fill (column : String) : List Part → List Value → String × List Value
  | [], _ => ("", [])
  | .text s :: rest, values =>
    let (text, bound) := fill column rest values
    (s ++ text, bound)
  | .column :: rest, values =>
    let (text, bound) := fill column rest values
    (column ++ text, bound)
  | .param :: rest, [] =>
    let (text, bound) := fill column rest []
    ("?" ++ text, bound)
  | .param :: rest, value :: values =>
    let (text, bound) := fill column rest values
    ("?" ++ text, value :: bound)
  | .params :: rest, values =>
    let (text, bound) := fill column rest []
    (placeholders values.length ++ text, values ++ bound)

/-- The text for a column; the values are bound in the order of their placeholders.  A template
that does not take that many values binds none. -/
def apply (template : Template) (column : String) (values : List Value) : Render String :=
  if template.accepts values.length then do
    let (text, bound) := fill column template.parts values
    Render.bind bound
    pure text
  else throw (.validation (.parameterCount template.source values.length))

/-- The text of parts with another column in place of the bound value. -/
def inline (column other : String) : List Part → String
  | [] => ""
  | .text s :: rest => s ++ inline column other rest
  | .column :: rest => column ++ inline column other rest
  | .param :: rest => other ++ inline column other rest
  | .params :: rest => other ++ inline column other rest

/-- The text for a column compared with another column; only a template that binds exactly one
value has one. -/
def applyInline (template : Template) (column other : String) : Except Error String :=
  if template.variadic || template.fixed != 1 then
    .error (.validation (.columnOperand template.source))
  else .ok (inline column other template.parts)

end Template

end QueryLoom

/-!
# Attributes of declarations

A declaration and its fields carry attributes that say how they are stored.  Such an attribute is a
list of items separated by commas: `skip`, `table = "name"` or `column = "name"`, where one comma
may follow the last item.  Several attributes on one thing count as one list.

## Main definitions

* `Derive.Token`: the tokens of an attribute.
* `Derive.Attribute`: what a list of items says.
* `Derive.Attribute.parse`: reading a list.
* `Derive.Attribute.merge`: reading all attributes of a thing.
-/

namespace QueryLoom.Derive

/-- Why nothing can be derived. -/
inductive Fault where
  | emptyName
  | unknownItem (name : String)
  | expectedName
  /-- An item is named by a word that the language of declarations keeps for itself. -/
  | reservedName (word : String)
  | expectedEquals
  | expectedText
  | unexpectedToken
  | missingArguments
  | onlyTable
  | tableOnField
  | generic
  | unnamedFields (derivation : String)
  | noStruct (derivation : String)
  | nothingStored
  /-- No constant can be named after the property. -/
  | noConstant (property : String)
  deriving DecidableEq, Repr

/-- What is reported. -/
def Fault.message : Fault → String
  | .emptyName => "name must not be empty"
  | .unknownItem name => "unknown fluent attribute \x60" ++ name ++ "\x60"
  | .expectedName => "expected identifier"
  | .reservedName word => "expected identifier, found keyword \x60" ++ word ++ "\x60"
  | .expectedEquals => "expected \x60=\x60"
  | .expectedText => "expected string literal"
  | .unexpectedToken => "unexpected token"
  | .missingArguments => "expected attribute arguments in parentheses: #[fluent(...)]"
  | .onlyTable => "only \x60table\x60 is allowed on the struct"
  | .tableOnField => "\x60table\x60 is only allowed on the struct"
  | .generic => "Entity cannot be derived for generic structs"
  | .unnamedFields derivation =>
    derivation ++ " can only be derived for structs with named fields"
  | .noStruct derivation => derivation ++ " can only be derived for structs"
  | .nothingStored => "Entity requires at least one persisted field"
  | .noConstant property => "no constant can be named after \x60" ++ property ++ "\x60"

/-- A token inside an attribute. -/
inductive Token where
  | name (name : String)
  | equals
  | comma
  /-- A string literal, by its content. -/
  | text (s : String)
  /-- Any other token. -/
  | other
  deriving DecidableEq, Repr

/-- The words that the language of declarations keeps for itself, so that they name no item. -/
def reservedWords : List String :=
  ["_", "abstract", "as", "async", "await", "become", "box", "break", "const", "continue", "crate",
   "do", "dyn", "else", "enum", "extern", "false", "final", "fn", "for", "if", "impl", "in", "let",
   "loop", "macro", "match", "mod", "move", "mut", "override", "priv", "pub", "ref", "return",
   "Self", "self", "static", "struct", "super", "trait", "true", "try", "type", "typeof", "unsafe",
   "unsized", "use", "virtual", "where", "while", "yield"]

/-- What a list of items says: the last table, the last column, and whether to skip. -/
structure Attribute where
  table : Option String := none
  column : Option String := none
  skip : Bool := false
  deriving DecidableEq, Repr

namespace Attribute

/-- Add the items of a token list to what has been read.  An item is followed by a comma or by the
end of the list. -/
def parseItems (read : Attribute) : List Token → Except Fault Attribute
  | [] => .ok read
  | .name "skip" :: rest => match rest with
    | [] => .ok { read with skip := true }
    | .comma :: rest => parseItems { read with skip := true } rest
    | _ :: _ => .error .unexpectedToken
  | .name "table" :: rest => match rest with
    | .equals :: .text s :: rest =>
      if s.isEmpty then .error .emptyName
      else match rest with
        | [] => .ok { read with table := some s }
        | .comma :: rest => parseItems { read with table := some s } rest
        | _ :: _ => .error .unexpectedToken
    | .equals :: _ => .error .expectedText
    | _ => .error .expectedEquals
  | .name "column" :: rest => match rest with
    | .equals :: .text s :: rest =>
      if s.isEmpty then .error .emptyName
      else match rest with
        | [] => .ok { read with column := some s }
        | .comma :: rest => parseItems { read with column := some s } rest
        | _ :: _ => .error .unexpectedToken
    | .equals :: _ => .error .expectedText
    | _ => .error .expectedEquals
  | .name name :: _ =>
    if name ∈ reservedWords then .error (.reservedName name) else .error (.unknownItem name)
  | _ :: _ => .error .expectedName

/-- Read a list of items. -/
def parse (tokens : List Token) : Except Fault Attribute :=
  parseItems {} tokens

end Attribute

/-- An attribute as it is written on a declaration or a field. -/
inductive Annotation where
  /-- A list of items. -/
  | items (tokens : List Token)
  /-- The name of such a list without the list. -/
  | bare
  /-- An attribute that is none of ours. -/
  | foreign
  deriving DecidableEq, Repr

namespace Attribute

/-- Add what a later list says: its table and its column count if it has them. -/
def followedBy (earlier later : Attribute) : Attribute where
  table := later.table.or earlier.table
  column := later.column.or earlier.column
  skip := earlier.skip || later.skip

/-- Read all attributes of a thing, in order. -/
def mergeOnto (read : Attribute) : List Annotation → Except Fault Attribute
  | [] => .ok read
  | .foreign :: rest => mergeOnto read rest
  | .bare :: _ => .error .missingArguments
  | .items tokens :: rest => do
    let said ← parse tokens
    mergeOnto (read.followedBy said) rest

/-- What all attributes of a thing say. -/
def merge (annotations : List Annotation) : Except Fault Attribute :=
  mergeOnto {} annotations

/-- The table that a declaration names; a declaration takes nothing else. -/
def ofDeclaration (annotations : List Annotation) : Except Fault (Option String) := do
  let said ← merge annotations
  if said.column.isSome || said.skip then .error .onlyTable else .ok said.table

/-- What the attributes of a field say; a field takes no table. -/
def ofField (annotations : List Annotation) : Except Fault Attribute := do
  let said ← merge annotations
  if said.table.isSome then .error .tableOnField else .ok said

end Attribute

end QueryLoom.Derive

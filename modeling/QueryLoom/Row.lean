import QueryLoom.FromValue

/-!
# Result rows

A row has column labels and values, in the order of the select list.  Labels may repeat; a label
stands for the first column that has it.

## Main definitions

* `Row`: rows.
* `Row.tryGet`, `Row.tryGetAny`, `Row.tryGetIndex`: typed access.
* `RowDecoder`: reading a whole row.
* `FieldReader`, `Row.readRecord`: reading the fields of a record by their labels.
-/

namespace QueryLoom

/-- One result row. -/
structure Row where
  columns : List String
  values : List Value

namespace Row

/-- A row with the given labels; values beyond them are dropped. -/
def ofColumns (columns : List String) (values : List Value) : Row :=
  ⟨columns, values.take columns.length⟩

/-- A row of labelled values. -/
def ofPairs (pairs : List (String × Value)) : Row :=
  ⟨pairs.map (·.1), pairs.map (·.2)⟩

/-- The number of values. -/
def length (row : Row) : Nat := row.values.length

/-- Whether there are no values. -/
def isEmpty (row : Row) : Bool := row.values.isEmpty

/-- Equality of rows; values compare as values. -/
def equal (a b : Row) : Bool :=
  a.columns == b.columns && Value.equalAll a.values b.values

/-- The position of the first column with a label. -/
def position? (row : Row) (column : String) : Option Nat :=
  row.columns.findIdx? (· == column)

/-- The value of the first column with a label. -/
def get? (row : Row) (column : String) : Option Value := do
  let i ← row.position? column
  row.values[i]?

/-- The value at a position. -/
def getIndex? (row : Row) (i : Nat) : Option Value :=
  row.values[i]?

/-! ## Reading -/

/-- Blame a column for a fault. -/
def blame {α : Type} (column : String) : Except DecodeFault α → Except Error α
  | .ok a => .ok a
  | .error fault => .error (.decode column fault)

/-- Read the column with a label. -/
def read {α : Type} (row : Row) (reader : Value → Except DecodeFault α) (column : String) :
    Except Error α :=
  match row.get? column with
  | some value => blame column (reader value)
  | none => .error (.decode column .missing)

/-- Read the column with the first of the labels that is present.  If none is, the column counts as
NULL, and one that cannot be read from NULL is missing under its first label. -/
def readAny {α : Type} (row : Row) (reader : Value → Except DecodeFault α)
    (labels : List String) : Except Error α :=
  match labels.find? fun label => (row.get? label).isSome with
  | some label => row.read reader label
  | none => match reader .null with
    | .ok a => .ok a
    | .error _ => .error (.decode (labels.head?.getD "") .missing)

/-- Read the column at a position. -/
def readIndex {α : Type} (row : Row) (reader : Value → Except DecodeFault α) (i : Nat) :
    Except Error α :=
  let label := row.columns[i]?.getD ("#" ++ toString i)
  match row.values[i]? with
  | some value => blame label (reader value)
  | none => .error (.decode label .outOfRow)

/-- The typed value of the column with a label. -/
def tryGet (α : Type) [FromValue α] (row : Row) (column : String) : Except Error α :=
  row.read fromValue column

/-- The typed value of the column with the first of the labels that is present. -/
def tryGetAny (α : Type) [FromValue α] (row : Row) (labels : List String) : Except Error α :=
  row.readAny fromValue labels

/-- The typed value of the column at a position. -/
def tryGetIndex (α : Type) [FromValue α] (row : Row) (i : Nat) : Except Error α :=
  row.readIndex fromValue i

end Row

/-! ## Rows as records -/

/-- Reads one field of a record: under the first of its labels that is present, or not at all, in
which case the field takes its default. -/
structure FieldReader (α : Type) where
  labels : Option (List String)
  reader : Value → Except DecodeFault α
  default : α

/-- Read one field. -/
def Row.readField {α : Type} (row : Row) (field : FieldReader α) : Except Error α :=
  match field.labels with
  | none => .ok field.default
  | some labels => row.readAny field.reader labels

/-- Read the fields of a record, in order. -/
def Row.readRecord {α : Type} (row : Row) (fields : List (FieldReader α)) :
    Except Error (List α) :=
  fields.mapM row.readField

/-- How the rows of a statement are read, with the name under which their type is reported. -/
structure RowDecoder (α : Type) where
  name : String
  decode : Row → Except Error α

namespace RowDecoder

/-- A single value is read from the first column. -/
def scalar {α : Type} (name : String) (reader : Value → Except DecodeFault α) : RowDecoder α :=
  ⟨name, fun row => row.readIndex reader 0⟩

end RowDecoder

end QueryLoom

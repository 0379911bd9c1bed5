import QueryLoom.Bytes
import QueryLoom.Calendar
import QueryLoom.Json
import QueryLoom.Uuid

/-!
# Bound values

Every `?` of a rendered statement stands for one value of the statement's parameter list, in the
same order.  Decoded columns hold values of the same type.

## Main definitions

* `Value`: values.
* `Value.isAbsent`: the values that count as nothing to compare with or to assign.
* `ToValue`: the types that can be bound.
-/

namespace QueryLoom

/-- A bound parameter, or the content of a column. -/
inductive Value where
  | null
  | bool (b : Bool)
  | smallInt (n : Int16)
  | int (n : Int32)
  | bigInt (n : Int64)
  | float (x : Single)
  | double (x : Double)
  | text (s : String)
  | bytes (data : Bytes)
  | uuid (u : Uuid)
  | date (d : Date)
  | dateTime (t : DateTime)
  | timestamp (t : Timestamp)
  | json (doc : Json)

namespace Value

/-- Whether the value is SQL's NULL. -/
def isNull : Value → Bool
  | .null => true
  | _ => false

/-- NULL and the empty text are absent.  Everything else, zero and `false` included, is present. -/
def isAbsent : Value → Bool
  | .null => true
  | .text s => s.isEmpty
  | _ => false

/-- The name of a value's kind. -/
def kind : Value → String
  | .null => "null"
  | .bool _ => "bool"
  | .smallInt _ => "smallint"
  | .int _ => "int"
  | .bigInt _ => "bigint"
  | .float _ => "float"
  | .double _ => "double"
  | .text _ => "text"
  | .bytes _ => "bytes"
  | .uuid _ => "uuid"
  | .date _ => "date"
  | .dateTime _ => "datetime"
  | .timestamp _ => "timestamp"
  | .json _ => "json"

/-- Equality of values: values of two kinds differ, and floating-point numbers compare as
numbers. -/
def equal : Value → Value → Bool
  | .null, .null => true
  | .bool a, .bool b => a == b
  | .smallInt a, .smallInt b => a == b
  | .int a, .int b => a == b
  | .bigInt a, .bigInt b => a == b
  | .float a, .float b => a.equal b
  | .double a, .double b => a.equal b
  | .text a, .text b => a == b
  | .bytes a, .bytes b => a == b
  | .uuid a, .uuid b => a == b
  | .date a, .date b => a == b
  | .dateTime a, .dateTime b => a == b
  | .timestamp a, .timestamp b => a == b
  | .json a, .json b => a.equal b
  | _, _ => false

/-- Equality of lists of values, item by item. -/
def equalAll : List Value → List Value → Bool
  | [], [] => true
  | x :: xs, y :: ys => x.equal y && equalAll xs ys
  | _, _ => false

end Value

/-! ## Types that can be bound -/

/-- Types whose values can be bound as parameters. -/
class ToValue (α : Type) where
  toValue : α → Value

export ToValue (toValue)

instance : ToValue Value := ⟨id⟩
instance : ToValue Bool := ⟨.bool⟩
instance : ToValue Int8 := ⟨fun n => .smallInt n.toInt16⟩
instance : ToValue UInt8 := ⟨fun n => .smallInt (.ofNat n.toNat)⟩
instance : ToValue Int16 := ⟨.smallInt⟩
instance : ToValue UInt16 := ⟨fun n => .int (.ofNat n.toNat)⟩
instance : ToValue Int32 := ⟨.int⟩
instance : ToValue UInt32 := ⟨fun n => .bigInt (.ofNat n.toNat)⟩
instance : ToValue Int64 := ⟨.bigInt⟩
instance : ToValue Single := ⟨.float⟩
instance : ToValue Double := ⟨.double⟩
instance : ToValue String := ⟨.text⟩
instance : ToValue Bytes := ⟨.bytes⟩
instance : ToValue Uuid := ⟨.uuid⟩
instance : ToValue Date := ⟨.date⟩
instance : ToValue DateTime := ⟨.dateTime⟩
instance : ToValue Timestamp := ⟨.timestamp⟩
instance : ToValue Json := ⟨.json⟩

/-- A missing value is bound as NULL. -/
instance {α : Type} [ToValue α] : ToValue (Option α) :=
  ⟨fun x => x.elim .null toValue⟩

end QueryLoom

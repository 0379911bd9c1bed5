import QueryLoom.Error
import QueryLoom.Json.Source
import QueryLoom.Value

/-!
# Reading values

A decoded value is read as a type that its kind fits.  Integers of every width are read as every
integer type, as long as the number is in range; other kinds are converted only where nothing is
lost or where the text of a value is read.

## Main definitions

* `FromValue`: the types that values can be read as.
-/

namespace QueryLoom

/-- Types that values can be read as. -/
class FromValue (α : Type) where
  fromValue : Value → Except DecodeFault α

export FromValue (fromValue)

namespace Value

/-- A value of another kind than expected. -/
def mismatch {α : Type} (expected : String) (value : Value) : Except DecodeFault α :=
  .error (.mismatch expected value.kind)

/-- The number of an integer value. -/
def integer? : Value → Option Int
  | .smallInt n => some n.toInt
  | .int n => some n.toInt
  | .bigInt n => some n.toInt
  | _ => none

/-- Read an integer that has to lie between two bounds. -/
def readInteger {α : Type} (type : String) (low high : Int) (ofInt : Int → α) (value : Value) :
    Except DecodeFault α :=
  match value.integer? with
  | none => value.mismatch type
  | some n => if low ≤ n ∧ n ≤ high then .ok (ofInt n) else .error (.outOfRange n type)

end Value

instance : FromValue Value := ⟨.ok⟩

/-- A flag may be kept as a small number. -/
instance : FromValue Bool := ⟨fun
  | .bool b => .ok b
  | .smallInt n => .ok (n != 0)
  | .int n => .ok (n != 0)
  | other => other.mismatch "bool"⟩

instance : FromValue Int16 := ⟨Value.readInteger "i16" (-0x8000) 0x7FFF Int16.ofInt⟩

instance : FromValue Int32 := ⟨Value.readInteger "i32" (-0x80000000) 0x7FFFFFFF Int32.ofInt⟩

instance : FromValue Int64 :=
  ⟨Value.readInteger "i64" (-0x8000000000000000) 0x7FFFFFFFFFFFFFFF Int64.ofInt⟩

instance : FromValue UInt32 :=
  ⟨Value.readInteger "u32" 0 0xFFFFFFFF fun n => UInt32.ofNat n.toNat⟩

instance : FromValue UInt64 :=
  ⟨Value.readInteger "u64" 0 0xFFFFFFFFFFFFFFFF fun n => UInt64.ofNat n.toNat⟩

instance : FromValue Single := ⟨fun
  | .float x => .ok x
  | other => other.mismatch "f32"⟩

instance : FromValue Double := ⟨fun
  | .float x => .ok x.widen
  | .double x => .ok x
  | other => other.mismatch "f64"⟩

instance : FromValue String := ⟨fun
  | .text s => .ok s
  | other => other.mismatch "text"⟩

instance : FromValue Bytes := ⟨fun
  | .bytes data => .ok data
  | other => other.mismatch "bytes"⟩

instance : FromValue Uuid := ⟨fun
  | .uuid u => .ok u
  | .text s => match Uuid.parse? s with
    | some u => .ok u
    | none => .error (.malformed "uuid")
  | other => other.mismatch "uuid"⟩

instance : FromValue Date := ⟨fun
  | .date d => .ok d
  | other => other.mismatch "date"⟩

instance : FromValue DateTime := ⟨fun
  | .dateTime t => .ok t
  | .timestamp t => .ok t.clock
  | other => other.mismatch "datetime"⟩

instance : FromValue Timestamp := ⟨fun
  | .timestamp t => .ok t
  | .dateTime t => .ok ⟨t⟩
  | other => other.mismatch "timestamp"⟩

instance : FromValue Json := ⟨fun
  | .json doc => .ok doc
  | .text s => match Json.parse? s with
    | some doc => .ok doc
    | none => .error (.malformed "json")
  | other => other.mismatch "json"⟩

/-- NULL is read as a missing value. -/
instance {α : Type} [FromValue α] : FromValue (Option α) := ⟨fun
  | .null => .ok none
  | value => (fromValue value).map some⟩

end QueryLoom

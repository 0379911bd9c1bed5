import QueryLoom.ColumnType
import QueryLoom.Error
import QueryLoom.Json.Compact
import QueryLoom.Json.Source
import QueryLoom.Value

/-!
# Values on the wire

Values are sent to the server and received from it in binary form: numbers big-endian, times in
microseconds from the start of the year 2000.  A value is sent only as a type that its kind fits;
integers are narrowed to the type the server expects, if they are in its range.

## Main definitions

* `Wire.write`: writing a value to a buffer as a parameter of a type.
* `Wire.encode`: a value as a parameter of a type.
* `Wire.decode`: a cell as a column of a type.
-/

namespace QueryLoom.Wire

/-- Why a value cannot be sent as a type. -/
inductive EncodeFault where
  /-- Values of this kind are not sent as the type. -/
  | wrongType
  /-- The type has no such number. -/
  | outOfRange
  deriving DecidableEq, Repr

/-! ## Sending -/

/-- Whether NULL was sent, for which nothing is written. -/
inductive IsNull where
  | yes
  | no
  deriving DecidableEq, Repr

/-- Writing a value behind what is in a buffer already, unless it is refused.  What was written
before a refusal stays. -/
abbrev Writer := EStateM EncodeFault Bytes IsNull

/-- Write bytes. -/
def put (bytes : Bytes) : Writer := do
  modify (· ++ bytes)
  pure .no

/-- Write only if the type is one that takes the value. -/
def checked (fits : Bool) (writer : Writer) : Writer :=
  if fits then writer else throw .wrongType

/-- Write an integer of a given width, if it lies between two bounds. -/
def narrow (width : Nat) (low high n : Int) : Writer :=
  if low ≤ n ∧ n ≤ high then put (Bytes.ofInt width n) else throw .outOfRange

/-- Write an integer as the type that the server expects. -/
def writeInteger (n : Int) : ColumnType → Writer
  | .int2 => narrow 2 (-0x8000) 0x7FFF n
  | .int4 => narrow 4 (-0x80000000) 0x7FFFFFFF n
  | .oid => narrow 4 0 0xFFFFFFFF n
  | .float8 => put (Bytes.ofNat 8 (Double.ofInt n).bits.toNat)
  | type => checked (type == .int8) (put (Bytes.ofInt 8 n))

/-- Write a document; in binary form the version of the form stands in front. -/
def writeJson (binary : Bool) (doc : Json) : Writer := do
  if binary then modify (· ++ [1])
  put (Bytes.ofText doc.compact)

/-- Write a value as a parameter of a type.  NULL fits every type. -/
def write (type : ColumnType) : Value → Writer
  | .null => pure .yes
  | .bool b => checked (type == .bool) (put [if b then 1 else 0])
  | .smallInt n => writeInteger n.toInt type
  | .int n => writeInteger n.toInt type
  | .bigInt n => writeInteger n.toInt type
  | .float x =>
    if type == .float8 then put (Bytes.ofNat 8 x.widen.bits.toNat)
    else checked (type == .float4) (put (Bytes.ofNat 4 x.bits.toNat))
  | .double x => checked (type == .float8) (put (Bytes.ofNat 8 x.bits.toNat))
  | .text s => checked type.isTextual (put (Bytes.ofText s))
  | .bytes data => checked (type == .bytea) (put data)
  | .uuid u => checked (type == .uuid) (put u.bytes)
  | .date d => checked (type == .date) (put (Bytes.ofInt 4 d.days))
  | .dateTime t => checked (type == .timestamp) (put (Bytes.ofInt 8 t.micros))
  | .timestamp t => checked (type == .timestamptz) (put (Bytes.ofInt 8 t.clock.micros))
  | .json doc => checked (type == .json || type == .jsonb) (writeJson (type == .jsonb) doc)

/-- A cell of which the bytes have been written; NULL has none. -/
def IsNull.cell (isNull : IsNull) (bytes : Bytes) : Option Bytes :=
  match isNull with
  | .yes => none
  | .no => some bytes

/-- A value as a parameter of a type, in a buffer of its own. -/
def encode (type : ColumnType) (value : Value) : Except EncodeFault (Option Bytes) :=
  match write type value [] with
  | .ok isNull bytes => .ok (isNull.cell bytes)
  | .error fault _ => .error fault

/-! ## Receiving -/

/-- An integer of exactly the given width. -/
def integer? (width : Nat) (cell : Bytes) : Option Int :=
  if cell.length = width then some cell.toInt else none

/-- A reading of calendar and clock, if its day belongs to the calendar. -/
def dateTime? (cell : Bytes) : Option DateTime := do
  let t := DateTime.ofMicros (← integer? 8 cell)
  if t.date.inRange then some t else none

/-- The document of a text in UTF-8. -/
def json? (cell : Bytes) : Option Json := do
  let text ← cell.text?
  Json.parse? text

/-- A cell that is not NULL; `none` if it is malformed. -/
def decodeCell (cell : Bytes) : ColumnType → Option Value
  | .bool => match cell with
    | [b] => some (.bool (b != 0))
    | _ => none
  | .int2 => (integer? 2 cell).map fun n => .smallInt (.ofInt n)
  | .int4 => (integer? 4 cell).map fun n => .int (.ofInt n)
  | .int8 => (integer? 8 cell).map fun n => .bigInt (.ofInt n)
  | .oid => if cell.length = 4 then some (.bigInt (.ofNat cell.toNat)) else none
  | .float4 => if cell.length = 4 then some (.float ⟨.ofNat cell.toNat⟩) else none
  | .float8 => if cell.length = 8 then some (.double ⟨.ofNat cell.toNat⟩) else none
  | .text | .varchar | .bpchar | .name | .unknown => cell.text?.map .text
  | .bytea => some (.bytes cell)
  | .uuid => (Uuid.ofBytes? cell).map .uuid
  | .date => do
    let d : Date := ⟨← integer? 4 cell⟩
    if d.inRange then some (.date d) else none
  | .timestamp => (dateTime? cell).map .dateTime
  | .timestamptz => (dateTime? cell).map fun t => .timestamp ⟨t⟩
  | .json => (json? cell).map .json
  | .jsonb => match cell with
    | 1 :: text => (json? text).map .json
    | _ => none
  | .other _ => none

/-- A cell as a column of a type.  A column of a type that is not understood cannot be decoded even
if it is NULL. -/
def decode (type : ColumnType) (cell : Option Bytes) : Except DecodeFault Value :=
  match type, cell with
  | .other name, _ => .error (.unsupported name)
  | _, none => .ok .null
  | type, some cell => match decodeCell cell type with
    | some value => .ok value
    | none => .error (.malformed "cell")

end QueryLoom.Wire

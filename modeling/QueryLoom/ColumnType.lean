/-!
# Column types of the server

## Main definitions

* `ColumnType`: the types of columns and parameters.
* `ColumnType.name`, `ColumnType.ofName`: their names.
-/

namespace QueryLoom

/-- The type of a column or a parameter. -/
inductive ColumnType where
  | bool
  | int2
  | int4
  | int8
  | oid
  | float4
  | float8
  | text
  | varchar
  | bpchar
  | name
  | unknown
  | bytea
  | uuid
  | date
  | timestamp
  | timestamptz
  | json
  | jsonb
  /-- A type of which only the name is known. -/
  | other (name : String)
  deriving DecidableEq, Repr

namespace ColumnType

/-- The types whose values are understood, with their names. -/
def known : List (String × ColumnType) :=
  [("bool", .bool), ("int2", .int2), ("int4", .int4), ("int8", .int8), ("oid", .oid),
   ("float4", .float4), ("float8", .float8), ("text", .text), ("varchar", .varchar),
   ("bpchar", .bpchar), ("name", .name), ("unknown", .unknown), ("bytea", .bytea),
   ("uuid", .uuid), ("date", .date), ("timestamp", .timestamp), ("timestamptz", .timestamptz),
   ("json", .json), ("jsonb", .jsonb)]

/-- The type with a name. -/
def ofName (name : String) : ColumnType :=
  (known.lookup name).getD (.other name)

/-- Whether a type holds text. -/
def isTextual : ColumnType → Bool
  | .text | .varchar | .bpchar | .name | .unknown => true
  | _ => false

end ColumnType

end QueryLoom

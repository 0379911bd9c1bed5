import QueryLoom.Identifier

/-!
# The dialect of the server

Statements are rendered with `?` for placeholders and backticks around identifiers.  The server
numbers its placeholders `$1`, `$2`, … and puts identifiers in double quotes.  The conversion reads
a statement once from left to right and keeps track of whether it stands inside a literal or an
identifier; literals are copied untouched.

## Main definitions

* `Dialect.Place`: where in a statement a character stands.
* `Dialect.convert`: a statement in the dialect of the server.
-/

namespace QueryLoom.Dialect

/-- Where in a statement a character stands. -/
inductive Place where
  | plain
  | literal
  | identifier
  deriving DecidableEq, Repr

/-- Convert what follows a place, where `count` placeholders have been read before it. -/
def convertFrom : Place → Nat → List Char → List Char
  | _, _, [] => []
  | .literal, count, '\x27' :: rest => '\x27' :: convertFrom .plain count rest
  | .literal, count, c :: rest => c :: convertFrom .literal count rest
  | .identifier, count, '\x60' :: '\x60' :: rest => '\x60' :: convertFrom .identifier count rest
  | .identifier, count, '\x60' :: rest => '"' :: convertFrom .plain count rest
  | .identifier, count, '"' :: rest => '"' :: '"' :: convertFrom .identifier count rest
  | .identifier, count, c :: rest => c :: convertFrom .identifier count rest
  | .plain, count, '\x27' :: rest => '\x27' :: convertFrom .literal count rest
  | .plain, count, '\x60' :: rest => '"' :: convertFrom .identifier count rest
  | .plain, count, '?' :: rest =>
    '$' :: Nat.toDigits 10 (count + 1) ++ convertFrom .plain (count + 1) rest
  | .plain, count, c :: rest => c :: convertFrom .plain count rest

/-- A statement in the dialect of the server. -/
def convert (sql : String) : String :=
  String.ofList (convertFrom .plain 0 sql.toList)

end QueryLoom.Dialect

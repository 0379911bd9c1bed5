import QueryLoom.Dialect
import QueryLoom.Row
import QueryLoom.Wire

/-!
# Running statements on a server

A statement is converted to the server's dialect and prepared; the server answers with the types of
its parameters and columns.  The values are then encoded and sent, and the rows that come back are
decoded.  A NUL ends a text on the wire, so that no statement and no tag can contain one.

## Main definitions

* `Server`: what a server answers.
* `Server.Request`: what it is sent.
* `Server.fetchAll`, `Server.fetchOpt`, `Server.execute`: running a statement.
-/

namespace QueryLoom

/-- What a server answers to a statement: the types of its parameters and columns, then its rows
and the tag of the finished command, or a failure. -/
structure Server where
  paramTypes : List ColumnType
  columns : List (String × ColumnType)
  rows : List (List (Option Bytes))
  tag : String
  failure : Option String

namespace Server

/-- What a server is sent. -/
inductive Request where
  | parse (sql : String)
  | bind (values : List (Option Bytes))

/-- The outcome of a run, with everything that was sent. -/
structure Outcome (α : Type) where
  result : Except Error α
  sent : List Request

/-- Encode values as the types that the server expects. -/
def encodeAll : List ColumnType → List Value → Except Error (List (Option Bytes))
  | [], [] => .ok []
  | type :: types, value :: values => do
    let cell ← match Wire.encode type value with
      | .ok cell => .ok cell
      | .error _ => .error (.execution "error serializing parameter")
    let more ← encodeAll types values
    pure (cell :: more)
  | _, _ => .error (.execution "wrong number of parameters")

/-- Whether a text contains the character that ends it on the wire. -/
def breaksOff (text : String) : Bool :=
  text.toList.any (· == '\x00')

/-- What the server answers to a bound statement, of which `finish` makes the result. -/
def answer {α : Type} (server : Server) (finish : Except Error α) : Except Error α :=
  match server.failure with
  | some message => .error (.execution message)
  | none => if breaksOff server.tag then .error (.execution "connection closed") else finish

/-- Run a statement up to the server's answer, of which `finish` makes the result. -/
def run {α : Type} (server : Server) (sql : String) (params : List Value)
    (finish : Except Error α) : Outcome α :=
  if breaksOff sql then ⟨.error (.execution "error encoding message"), []⟩
  else
    let prepared : Request := .parse (Dialect.convert sql)
    match encodeAll server.paramTypes params with
    | .error e => ⟨.error e, [prepared]⟩
    | .ok cells => ⟨server.answer finish, [prepared, .bind cells]⟩

/-- Decode the cells of a row in order, as many as there are columns. -/
def decodeRow (columns : List (String × ColumnType)) (cells : List (Option Bytes)) :
    Except Error Row := do
  let values ← (columns.zip cells).mapM fun ((column, type), cell) =>
    Row.blame column (Wire.decode type cell)
  pure (Row.ofColumns (columns.map (·.1)) values)

/-- The decoded rows.  Before any of them is decoded, each has to have a cell for every column. -/
def decodedRows (server : Server) : Except Error (List Row) :=
  if server.rows.all fun cells => cells.length == server.columns.length then
    server.rows.mapM (decodeRow server.columns)
  else .error (.execution "wrong number of cells")

/-- All rows. -/
def fetchAll (server : Server) (sql : String) (params : List Value) : Outcome (List Row) :=
  server.run sql params server.decodedRows

/-- The first row, for which all rows are decoded. -/
def fetchOpt (server : Server) (sql : String) (params : List Value) : Outcome (Option Row) :=
  server.run sql params (server.decodedRows.map List.head?)

/-- The number that decimal digits spell, if 64 bits hold it; a plus sign may stand in front. -/
def count? (cs : List Char) : Option Nat :=
  let ds := match cs with
    | '+' :: rest => rest
    | cs => cs
  match Date.number? ds with
  | some n => if n < 0x10000000000000000 then some n else none
  | none => none

/-- The number of affected rows: the last word of the tag, or zero if that is no number. -/
def affected (tag : String) : UInt64 :=
  let word := (tag.toList.reverse.takeWhile (· != ' ')).reverse
  UInt64.ofNat ((count? word).getD 0)

/-- The number of affected rows. -/
def execute (server : Server) (sql : String) (params : List Value) : Outcome UInt64 :=
  server.run sql params (.ok (affected server.tag))

/-- How an executor on a single connection is displayed for diagnosis. -/
def displayedExecutor : String := "PgExecutor \x7b backend: \"client\" \x7d"

end Server

end QueryLoom

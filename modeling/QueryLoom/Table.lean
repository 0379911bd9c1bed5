import QueryLoom.Session

/-!
# Tables of a statement

A statement mentions the table of an entity, or a table by its name, each with an optional alias.
Before anything is rendered every table is declared in the session; a table that is mentioned
twice has to be given an alias of its own each time.

## Main definitions

* `TableRef`: a mentioned table.
* `TableRef.declare`: declaring it in the session.
* `TableRef.render`: its declaration as text.
* `ResultType`: what the rows of a statement are expected to be.
-/

namespace QueryLoom

/-- What the rows of a statement are expected to be. -/
inductive ResultType where
  /-- The statement's first entity, by type path. -/
  | entity (typePath : String)
  /-- A type, by name. -/
  | type (name : String)
  /-- Rows of no type. -/
  | rows
  deriving DecidableEq, Repr

/-- The name under which a result is reported. -/
def ResultType.name : ResultType → String
  | .entity typePath => typePath
  | .type name => name
  | .rows => "rows"

/-- Where a table's name comes from. -/
inductive TableSource where
  | entity (entity : Entity)
  | named (table : String)
  deriving DecidableEq, Repr

namespace TableSource

/-- The table's name. -/
def name : TableSource → Render String
  | .entity e => Render.onCatalog (Catalog.tableName e)
  | .named table => pure table

/-- The table's name as a quoted identifier. -/
def quotedName (source : TableSource) : Render String := do
  let name ← source.name
  pure (Identifier.quote name)

/-- What the rows of a statement on the table are expected to be. -/
def resultType : TableSource → ResultType
  | .entity e => .entity e.typePath
  | .named _ => .rows

end TableSource

/-- A mentioned table; an empty alias counts as none. -/
structure TableRef where
  source : TableSource
  aliasName : Option String
  deriving DecidableEq, Repr

namespace TableRef

/-- The alias that was given, if it is not empty. -/
def explicitAlias? (table : TableRef) : Option String :=
  Aliases.explicit? table.aliasName

/-- What identifies the table within the statement. -/
def key (table : TableRef) : TableKey :=
  match table.source with
  | .entity e => .ofEntity e
  | .named name => match table.explicitAlias? with
    | some aliasName => .namedAs name aliasName
    | none => .named name

/-- Declare the table in the session; only once for each key. -/
def declare (table : TableRef) : Render Unit := do
  let name ← table.source.name
  let session ← get
  if session.aliases.has table.key then
    throw (.validation (.declaredTwice name))
  else do
    let _ ← Render.addTable table.key name table.aliasName
    pure ()

/-- The quoted name of the table, followed by its quoted alias. -/
def render (table : TableRef) : Render String := do
  let name ← table.source.name
  let aliasName ← Render.aliasFor table.key
  pure (Identifier.quote name ++ " " ++ Identifier.quote aliasName)

end TableRef

end QueryLoom

import QueryLoom.Alias
import QueryLoom.Catalog
import QueryLoom.Value

/-!
# Rendering sessions

A statement is rendered in a session.  The session holds the aliases of the statement, the values
bound so far, and the mode of rendering; names are looked up in the catalog.  What a rendering step
did before it failed stays done: values stay bound and names stay in the catalog.

## Main definitions

* `Session`: the state of rendering.
* `Render`: rendering steps.
* `Session.close`: the end of a session, which drops its aliases.
-/

namespace QueryLoom

/-- How the select list and the clauses for order and paging are rendered. -/
inductive Mode where
  /-- Everything. -/
  | full
  /-- A row count in place of the select list, without order and paging. -/
  | count
  /-- Everything but order and paging. -/
  | unpaged
  deriving DecidableEq, Repr

/-- The state of rendering. -/
structure Session where
  aliases : Aliases
  params : List Value
  mode : Mode
  catalog : Catalog

/-- A rendering step, which may fail; what happened before a failure stays. -/
abbrev Render (α : Type) := EStateM Error Session α

namespace Session

/-- A new session. -/
def start (mode : Mode) (catalog : Catalog) : Session := ⟨.empty, [], mode, catalog⟩

/-- The end of a session, on success and on failure alike: its aliases are dropped, which is
reported, and the catalog stays. -/
def close (session : Session) : Catalog :=
  session.catalog.report (.aliasesFlushed session.aliases.tableCount)

end Session

namespace Render

/-- Work on the session's catalog. -/
def onCatalog {α : Type} (action : Catalog.Action α) : Render α := fun session =>
  match action session.catalog with
  | .ok a catalog => .ok a { session with catalog }
  | .error e catalog => .error e { session with catalog }

/-- Bind values, in the order of their placeholders. -/
def bind (values : List Value) : Render Unit :=
  modify fun session => { session with params := session.params ++ values }

/-- A step of the session's aliases that yields the alias of a table.  When the step generated it,
which advances the sequence, that is reported. -/
def onAliases (key : TableKey) (step : Aliases → String × Aliases) : Render String :=
  fun session =>
    let (aliasName, aliases) := step session.aliases
    let catalog := if aliases.sequence = session.aliases.sequence then session.catalog
      else session.catalog.report (.aliasGenerated key aliasName)
    .ok aliasName { session with aliases, catalog }

/-- The alias of a table, generated if it has none. -/
def aliasFor (key : TableKey) : Render String :=
  onAliases key fun aliases => aliases.get key

/-- Register a table. -/
def addAlias (key : TableKey) (aliasName : Option String) : Render String :=
  onAliases key fun aliases => aliases.add key aliasName

/-- Register a table together with its physical name. -/
def addTable (key : TableKey) (table : String) (aliasName : Option String) : Render String :=
  onAliases key fun aliases => aliases.addTable key table aliasName

/-- Register an alias for a selected field. -/
def addColumn (field : Field) (aliasName : String) : Render Unit :=
  modify fun session => { session with aliases := session.aliases.addColumn field aliasName }

/-- A field by its column, behind the alias of its table if that is registered. -/
def fieldName (field : Field) : Render String := do
  let column ← onCatalog (Catalog.columnName field)
  let session ← get
  match session.aliases.aliasOf? (.ofEntity field.entity) with
  | some aliasName => pure (Identifier.qualify aliasName column)
  | none => pure (Identifier.quote column)

/-- A field as an item of a select list: its column under the alias registered for it, or else
under the property's name, by which rows are read back. -/
def fieldSelection (field : Field) : Render String := do
  let name ← fieldName field
  let session ← get
  let output := (session.aliases.columnAlias? field).getD field.property
  pure (name ++ " AS " ++ Identifier.quote output)

end Render

end QueryLoom

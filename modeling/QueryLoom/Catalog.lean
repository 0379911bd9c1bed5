import QueryLoom.Config
import QueryLoom.Error
import QueryLoom.Event
import QueryLoom.Lru
import QueryLoom.Text.Words

/-!
# Names of entities

The table and column names of an entity are computed when they are first needed and kept in a
bounded cache under the entity's type path.  While they are kept, another entity that claims the
same type path is refused.

## Main definitions

* `Names`: the names of an entity.
* `Names.ofEntity`: computing them.
* `Catalog`: the names that are kept, and the events reported so far.
* `Catalog.lookup`: the names of an entity, from the cache or computed.
-/

namespace QueryLoom

/-! ## Names -/

/-- The table and column names of an entity, the columns under their properties in order of
declaration. -/
structure Names where
  entity : Entity
  table : String
  columns : List (String × String)
  deriving DecidableEq, Repr

namespace Names

/-- The column of a declared property: the given one, or else the property's words. -/
def columnOf (p : Property) : String :=
  p.column.getD (Words.snake p.name)

/-- The table of an entity: the given one, or else the words of the entity's name. -/
def tableOf (entity : Entity) : String :=
  entity.table.getD (Words.snake entity.name)

/-- The names of an entity. -/
def ofEntity (entity : Entity) : Names where
  entity
  table := tableOf entity
  columns := entity.properties.map fun p => (p.name, columnOf p)

/-- The column of a property; of several declarations the last one counts. -/
def column? (names : Names) (property : String) : Option String :=
  names.columns.reverse.lookup property

/-- The column of a property, which has to be declared. -/
def column (names : Names) (property : String) : Except Error String :=
  match names.column? property with
  | some column => .ok column
  | none => .error (.resolution (.unknownProperty property names.entity.name))

/-- The declared properties in order, each with the column that counts for it. -/
def allColumns (names : Names) : List (String × String) :=
  names.entity.properties.filterMap fun p => (names.column? p.name).map fun c => (p.name, c)

end Names

/-! ## Looking names up -/

/-- The names that are kept, and the events reported so far. -/
structure Catalog where
  cache : Lru String Names
  trace : List Event

/-- Work on the catalog, which may fail; what happened before a failure stays. -/
abbrev Catalog.Action (α : Type) := EStateM Error Catalog α

namespace Catalog

/-- A catalog that keeps nothing yet. -/
def empty (capacity : Nat) : Catalog := ⟨.empty capacity, []⟩

/-- Report an event. -/
def report (catalog : Catalog) (event : Event) : Catalog :=
  { catalog with trace := catalog.trace ++ [event] }

/-- The names kept under an entity's type path; if there are none, the entity's names, which are
kept from now on. -/
def fetch (catalog : Catalog) (entity : Entity) : Names × Catalog :=
  match catalog.cache.get entity.typePath with
  | (some names, cache) => (names, { catalog with cache })
  | (none, cache) =>
    let built := Names.ofEntity entity
    let (names, cache) := cache.insertIfAbsent entity.typePath built
    (names, { cache, trace := catalog.trace ++ [.namesComputed entity.typePath built.table] })

/-- The names of an entity; a conflict if other names are kept under its type path. -/
def lookup (entity : Entity) : Action Names := fun catalog =>
  let (names, catalog) := catalog.fetch entity
  if names.entity = entity then .ok names catalog
  else .error (.conflict entity.typePath names.entity.displayed entity.displayed) catalog

/-- The table of an entity. -/
def tableName (entity : Entity) : Action String := do
  let names ← lookup entity
  pure names.table

/-- The column of a field. -/
def columnName (field : Field) : Action String := do
  let names ← lookup field.entity
  match names.column field.property with
  | .ok column => pure column
  | .error e => throw e

/-- Look up every entity of a list, and count them. -/
def warmUp : List Entity → Action Nat
  | [] => pure 0
  | entity :: rest => do
    let _ ← lookup entity
    let n ← warmUp rest
    pure (n + 1)

/-- How often names were computed for a type path.  The names kept under it are the same ones for
as long as this number stays. -/
def generation (catalog : Catalog) (typePath : String) : Nat :=
  catalog.trace.countP fun
    | .namesComputed path _ => path == typePath
    | _ => false

end Catalog

/-- The entity of a list with the given name or table. -/
def Entity.find? (registered : List Entity) (name : String) : Option Entity :=
  registered.find? fun e => e.name == name || e.table == some name

end QueryLoom

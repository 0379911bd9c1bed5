import QueryLoom.Column

/-!
# Select lists

## Main definitions

* `SelectItem`: the items of a select list.
* `SelectItem.render`: the texts of an item, one for each column it selects.
-/

namespace QueryLoom

/-- Aggregate functions. -/
inductive AggregateFunction where
  | count
  | sum
  | max
  | min
  | avg
  deriving DecidableEq, Repr

/-- The name of a function in SQL. -/
def AggregateFunction.keyword : AggregateFunction → String
  | .count => "COUNT"
  | .sum => "SUM"
  | .max => "MAX"
  | .min => "MIN"
  | .avg => "AVG"

/-- An aggregate of a column, or of the constant 1 if there is none, with an optional alias. -/
structure Aggregate where
  function : AggregateFunction
  target : Option Column
  aliasName : Option String
  deriving DecidableEq, Repr

/-- An item of a select list. -/
inductive SelectItem where
  /-- A field under its alias or its property's name. -/
  | field (f : Field)
  /-- A field for which an alias is registered. -/
  | aliased (f : Field) (aliasName : String)
  /-- A field without an output name. -/
  | name (f : Field)
  /-- Every declared property of an entity. -/
  | all (entity : Entity)
  | aggregate (a : Aggregate)
  /-- Text that stands as it is. -/
  | raw (text : String)
  deriving DecidableEq, Repr

namespace Aggregate

/-- The text of an aggregate. -/
def render (a : Aggregate) : Render String := do
  let argument ← match a.target with
    | some column => column.render
    | none => pure "1"
  let call := a.function.keyword ++ "(" ++ argument ++ ")"
  match a.aliasName with
  | some aliasName => pure (call ++ " AS " ++ Identifier.quote aliasName)
  | none => pure call

end Aggregate

namespace SelectItem

/-- The texts of an item, one for each column it selects. -/
def render : SelectItem → Render (List String)
  | .field f => do
    let text ← Render.fieldSelection f
    pure [text]
  | .aliased f _ => do
    let text ← Render.fieldSelection f
    pure [text]
  | .name f => do
    let text ← Render.fieldName f
    pure [text]
  | .all entity =>
    entity.properties.mapM fun p => Render.fieldSelection ⟨entity, p.name⟩
  | .aggregate a => do
    let text ← a.render
    pure [text]
  | .raw text => pure [text]

/-- The text of a select list; a row count when rows are counted, and everything when the list is
empty. -/
def renderList (items : List SelectItem) : Render String := do
  let session ← get
  if session.mode = .count then pure "COUNT(1)"
  else if items.isEmpty then pure "*"
  else do
    let texts ← items.mapM render
    pure (", ".intercalate texts.flatten)

end SelectItem

end QueryLoom

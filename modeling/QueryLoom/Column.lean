import QueryLoom.Session

/-!
# Columns

A condition, an order or an assignment speaks of a column: a field of an entity, or a column
written as text, `column`, `table.column` or `alias.column`.

## Main definitions

* `Column`: columns.
* `Column.render`: their text, behind an alias where possible.
-/

namespace QueryLoom

/-- What a condition, an order or an assignment speaks of. -/
inductive Column where
  | field (field : Field)
  | raw (text : String)
  deriving DecidableEq, Repr

namespace Column

/-- The text of a column, behind an alias where possible. -/
def render : Column → Render String
  | .field f => Render.fieldName f
  | .raw text => do
    let session ← get
    pure (session.aliases.qualifyColumn text)

end Column

end QueryLoom

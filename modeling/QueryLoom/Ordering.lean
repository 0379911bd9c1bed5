import QueryLoom.Column

/-!
# Order of rows

## Main definitions

* `Order`: a column with the direction in which rows are sorted by it.
* `Order.render`: its text.
-/

namespace QueryLoom

/-- The direction in which rows are sorted. -/
inductive Direction where
  | ascending
  | descending
  deriving DecidableEq, Repr

/-- The keyword of a direction. -/
def Direction.keyword : Direction → String
  | .ascending => "ASC"
  | .descending => "DESC"

/-- One term of an order. -/
structure Order where
  target : Column
  direction : Direction
  deriving DecidableEq, Repr

/-- The text of a term. -/
def Order.render (order : Order) : Render String := do
  let column ← order.target.render
  pure (column ++ " " ++ order.direction.keyword)

end QueryLoom

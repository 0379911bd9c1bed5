import QueryLoom.Selection

/-!
# Assignments of an update

An update assigns values or other columns to columns.  Assigning an absent value means that there
is nothing to assign, and is left out; NULL is assigned explicitly.

## Main definitions

* `Assignments`: the assignments of an update, in order.
* `Assignments.set`, `Assignments.setNull`, `Assignments.setColumn`: adding one.
* `Assignments.render`: their text.
-/

namespace QueryLoom

/-- What is assigned to a column. -/
inductive AssignedSource where
  | value (v : Value)
  | column (c : Column)

/-- One assignment. -/
structure Assignment where
  target : Column
  source : AssignedSource

/-- The assignments of an update. -/
abbrev Assignments := List Assignment

namespace Assignments

/-- Assign a value; an absent value assigns nothing. -/
def set (assignments : Assignments) (target : Column) (value : Value) : Assignments :=
  if value.isAbsent then assignments else assignments ++ [⟨target, .value value⟩]

/-- Assign NULL. -/
def setNull (assignments : Assignments) (target : Column) : Assignments :=
  assignments ++ [⟨target, .value .null⟩]

/-- Assign another column; nothing is bound. -/
def setColumn (assignments : Assignments) (target source : Column) : Assignments :=
  assignments ++ [⟨target, .column source⟩]

/-- The values that assignments bind; `none` if there are no assignments. -/
def parameters? (assignments : Assignments) : Option (List Value) :=
  if assignments.isEmpty then none
  else some (assignments.filterMap fun a => match a.source with
    | .value v => some v
    | .column _ => none)

/-- The text of one assignment. -/
def renderOne (a : Assignment) : Render String := do
  let target ← a.target.render
  match a.source with
  | .value v =>
    Render.bind [v]
    pure (target ++ " = ?")
  | .column c =>
    let source ← c.render
    pure (target ++ " = " ++ source)

/-- The text of assignments; none if there are none. -/
def render (assignments : Assignments) : Render (Option String) :=
  if assignments.isEmpty then pure none else do
    let texts ← assignments.mapM renderOne
    pure (some (", ".intercalate texts))

end Assignments

end QueryLoom

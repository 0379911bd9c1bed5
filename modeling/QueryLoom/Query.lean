import QueryLoom.Condition

/-!
# Queries

A query is a chain of conditions and nested queries, joined by AND and OR.  Empty members are never
added, so AND and OR stand only between two members.

## Main definitions

* `Query`: queries, built from the left.
* `Query.addCondition`, `Query.addQuery`: adding a member unless it is empty.
* `Query.parameters?`: the values a query binds, if it has members.
* `Query.render`: its text.
-/

namespace QueryLoom

/-- What joins two members. -/
inductive Conjunction where
  | and
  | or
  deriving DecidableEq, Repr

/-- The keyword of a conjunction. -/
def Conjunction.keyword : Conjunction → String
  | .and => "AND"
  | .or => "OR"

/-- A chain of members.  Each member comes with the conjunction that joins it to those before it;
the first member is joined to nothing. -/
inductive Query where
  | empty
  | condition (before : Query) (conjunction : Conjunction) (condition : Condition)
  | nested (before : Query) (conjunction : Conjunction) (query : Query)

namespace Query

/-- The number of members. -/
def length : Query → Nat
  | .empty => 0
  | .condition before _ _ => before.length + 1
  | .nested before _ _ => before.length + 1

/-- Whether a query has no members. -/
def isEmpty : Query → Bool
  | .empty => true
  | _ => false

/-- Add a condition, unless it is empty. -/
def addCondition (query : Query) (conjunction : Conjunction) (condition : Condition) : Query :=
  if condition.isEmpty then query else .condition query conjunction condition

/-- Add a nested query, unless it is empty. -/
def addQuery (query : Query) (conjunction : Conjunction) (inner : Query) : Query :=
  if inner.isEmpty then query else .nested query conjunction inner

/-- Add a comparison of a column. -/
def compare (query : Query) (conjunction : Conjunction) (target : Column)
    (comparison : Comparison) : Query :=
  query.addCondition conjunction (comparison.on target)

/-- The values bound by the members of a query, in order. -/
def parameters : Query → List Value
  | .empty => []
  | .condition before _ c => before.parameters ++ c.parameters?.getD []
  | .nested before _ q => before.parameters ++ q.parameters

/-- The values that a query binds; `none` if it has no members. -/
def parameters? (query : Query) : Option (List Value) :=
  if query.isEmpty then none else some query.parameters

/-- Append the text of a member; texts are joined by single blanks, and empty ones are skipped. -/
def joinText (before : String) (text : String) : String :=
  if text.isEmpty then before else if before.isEmpty then text else before ++ " " ++ text

/-- Append a member with its conjunction to the text before it; the first member has none. -/
def joinMember (first : Bool) (before : String) (conjunction : Conjunction) (member : String) :
    String :=
  joinText (if first then before else joinText before conjunction.keyword) member

/-- The members of a query from left to right.  A nested query stands in parentheses if it has more
than one member. -/
def renderMembers : Query → Render String
  | .empty => pure ""
  | .condition before conjunction c => do
    let text ← before.renderMembers
    let member ← c.render
    pure (joinMember before.isEmpty text conjunction (member.getD ""))
  | .nested before conjunction q => do
    let text ← before.renderMembers
    let member ← q.renderMembers
    let member := if 1 < q.length then "(" ++ member ++ ")" else member
    pure (joinMember before.isEmpty text conjunction member)

/-- The text of a query; none if it has no members. -/
def render (query : Query) : Render (Option String) :=
  if query.isEmpty then pure none else do
    let text ← query.renderMembers
    pure (some text)

end Query

end QueryLoom

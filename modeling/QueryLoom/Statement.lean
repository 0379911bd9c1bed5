import QueryLoom.Assignment
import QueryLoom.Ordering
import QueryLoom.Query
import QueryLoom.Table

/-!
# Statements

A statement is a list of segments.  Each segment renders to a piece of text or to nothing, and the
pieces are joined by single blanks.  Values are bound while segments render, so the order of the
placeholders and the order of the values cannot diverge.

## Main definitions

* `Segment`, `Statement`: statements.
* `Statement.build`: the rendered statement.
* `Statement.buildCount`: the statement that counts the rows.
* `Statement.buildPage`: the statement for one page of the rows.
-/

namespace QueryLoom

/-! ## Segments -/

/-- How two tables are joined. -/
inductive JoinKind where
  | inner
  | left
  | right
  deriving DecidableEq, Repr

/-- The keywords of a join. -/
def JoinKind.keyword : JoinKind → String
  | .inner => "INNER JOIN"
  | .left => "LEFT JOIN"
  | .right => "RIGHT JOIN"

/-- A piece of a statement. -/
inductive Segment where
  | keyword (text : String)
  | selection (items : List SelectItem)
  /-- A table with its alias. -/
  | table (table : TableRef)
  /-- A table without an alias. -/
  | target (source : TableSource)
  | join (kind : JoinKind)
  | query (query : Query)
  | assignments (assignments : Assignments)
  | groupBy (columns : List Column)
  | orderBy (orders : List Order)
  | limit (n : Nat)
  | offset (n : Nat)

namespace Segment

/-- Render something unless the session leaves out order and paging. -/
def unlessUnpaged (text : Render String) : Render (Option String) := do
  let session ← get
  if session.mode = .full then do
    let text ← text
    pure (some text)
  else pure none

/-- The text of a segment; none if it has none in the session's mode. -/
def render : Segment → Render (Option String)
  | .keyword text => pure (some text)
  | .selection items => do
    let text ← SelectItem.renderList items
    pure (some text)
  | .table t => do
    let text ← t.render
    pure (some text)
  | .target source => do
    let text ← source.quotedName
    pure (some text)
  | .join kind => pure (some kind.keyword)
  | .query q => q.render
  | .assignments a => a.render
  | .groupBy columns => do
    let texts ← columns.mapM Column.render
    pure (some ("GROUP BY " ++ ", ".intercalate texts))
  | .orderBy orders => unlessUnpaged do
    let texts ← orders.mapM Order.render
    pure ("ORDER BY " ++ ", ".intercalate texts)
  | .limit n => unlessUnpaged (pure ("LIMIT " ++ toString n))
  | .offset n => unlessUnpaged (pure ("OFFSET " ++ toString n))

/-- Whether a segment is for paging. -/
def isPaging : Segment → Bool
  | .limit _ | .offset _ => true
  | _ => false

/-- Whether a segment groups rows. -/
def isGrouping : Segment → Bool
  | .groupBy _ => true
  | _ => false

/-- Render segments in order after the text before them. -/
def renderAll (before : String) : List Segment → Render String
  | [] => pure before
  | segment :: rest => do
    let text ← segment.render
    renderAll (Query.joinText before (text.getD "")) rest

end Segment

/-! ## Statements -/

/-- What a statement declares before it renders. -/
inductive Declaration where
  | table (table : TableRef)
  | column (field : Field) (aliasName : String)

/-- A statement under construction.  Its first fault, if there is one, is reported when it is
built. -/
structure Statement where
  segments : List Segment
  declarations : List Declaration
  result : ResultType
  fault : Option ValidationFault

/-- A rendered statement: its text, the values of its placeholders in order, and what its rows are
expected to be. -/
structure BoundStatement where
  sql : String
  params : List Value
  result : ResultType

namespace Declaration

/-- Declare the tables with an explicit alias and the aliases of columns. -/
def declareExplicit : Declaration → Render Unit
  | .table t => if t.explicitAlias?.isSome then t.declare else pure ()
  | .column f aliasName => Render.addColumn f aliasName

/-- Declare the tables without an explicit alias. -/
def declareImplicit : Declaration → Render Unit
  | .table t => if t.explicitAlias?.isSome then pure () else t.declare
  | .column .. => pure ()

end Declaration

namespace Statement

/-- Nothing yet. -/
def empty : Statement := ⟨[], [], .rows, none⟩

/-- Append segments. -/
def append (statement : Statement) (segments : List Segment) : Statement :=
  { statement with segments := statement.segments ++ segments }

/-- Append a declaration. -/
def declare (statement : Statement) (declarations : List Declaration) : Statement :=
  { statement with declarations := statement.declarations ++ declarations }

/-- Record a fault; the first one counts. -/
def fail (statement : Statement) (fault : ValidationFault) : Statement :=
  { statement with fault := statement.fault.or (some fault) }

/-- Append a keyword with its query, unless the query is empty. -/
def clause (statement : Statement) (keyword : String) (query : Query) : Statement :=
  if query.isEmpty then statement else statement.append [.keyword keyword, .query query]

/-! ## Building -/

/-- Declare everything, explicit aliases first so that generated ones avoid them, and then render
the segments. -/
def render (statement : Statement) : Render String :=
  match statement.fault with
  | some fault => throw (.validation fault)
  | none => do
    let _ ← statement.declarations.mapM Declaration.declareExplicit
    let _ ← statement.declarations.mapM Declaration.declareImplicit
    Segment.renderAll "" statement.segments

/-- Render in a session of its own, which is closed on success and on failure alike. -/
def buildIn (statement : Statement) (mode : Mode) : Catalog.Action BoundStatement := fun catalog =>
  match statement.render (Session.start mode catalog) with
  | .ok sql session => .ok ⟨sql, session.params, statement.result⟩ session.close
  | .error e session => .error e session.close

/-- The rendered statement. -/
def build (statement : Statement) : Catalog.Action BoundStatement :=
  statement.buildIn .full

/-- The statement that counts the rows.  A grouped statement is counted as a whole, which gives the
number of its groups. -/
def buildCount (statement : Statement) : Catalog.Action BoundStatement :=
  if statement.segments.any Segment.isGrouping then do
    let body ← statement.buildIn .unpaged
    pure { body with sql := "SELECT COUNT(1) FROM (" ++ body.sql ++ ") \x60counted\x60" }
  else statement.buildIn .count

/-- The statement with its own paging replaced. -/
def paged (statement : Statement) (size offset : Nat) : Statement :=
  { statement with
    segments := statement.segments.filter (fun s => !s.isPaging) ++ [.limit size, .offset offset] }

/-- The statement for one page of the rows. -/
def buildPage (statement : Statement) (size offset : Nat) : Catalog.Action BoundStatement :=
  (statement.paged size offset).build

end Statement

end QueryLoom

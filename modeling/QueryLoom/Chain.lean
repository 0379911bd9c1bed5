import QueryLoom.Statement

/-!
# Chains of clauses

A statement is written as a chain of calls.  Every call leads to a stage, and the stage says which
calls may follow, so clauses cannot be written out of order.  A chain is the record of its calls;
the statement it stands for is computed from it.

* A selection starts at `selected`; naming its table leads to `tabled`, from where tables are
  joined, rows filtered, grouped, sorted and limited.
* An update starts at `updating` and collects assignments until it is `assigned`.

## Main definitions

* `Stage`, `Chain`: the stages, and the chains that end at each of them.
* `Chain.statement`: the statement that a chain stands for.
-/

namespace QueryLoom

/-- How far a statement is written. -/
inductive Stage where
  /-- The select list is chosen. -/
  | selected
  /-- The table is named, and every join is complete. -/
  | tabled
  /-- A table is joined, and its condition may follow. -/
  | joined
  | filtered
  | grouped
  | having
  | ordered
  | limited
  /-- The table to update is named, and assignments follow. -/
  | updating
  | assigned
  /-- The rows to update are chosen. -/
  | conditioned
  deriving DecidableEq, Repr

namespace Stage

/-- The statement can be built and run. -/
def executable : Stage → Bool
  | .selected | .joined | .updating => false
  | _ => true

/-- The statement yields rows. -/
def fetchable : Stage → Bool
  | .tabled | .filtered | .grouped | .having | .ordered | .limited => true
  | _ => false

/-- Rows may still be grouped. -/
def groupable : Stage → Bool
  | .tabled | .filtered => true
  | _ => false

/-- Rows may still be sorted. -/
def orderable : Stage → Bool
  | .tabled | .filtered | .grouped | .having => true
  | _ => false

/-- Rows may still be limited. -/
def limitable : Stage → Bool
  | .tabled | .filtered | .grouped | .having | .ordered | .limited => true
  | _ => false

end Stage

/-- A chain of calls that ends at a stage. -/
inductive Chain : Stage → Type where
  /-- Select a list of items; everything if the list is empty. -/
  | select (items : List SelectItem) : Chain .selected
  /-- Name the table. -/
  | fromTable (chain : Chain .selected) (table : TableRef) : Chain .tabled
  /-- Join a table. -/
  | join (chain : Chain .tabled) (kind : JoinKind) (table : TableRef) : Chain .joined
  /-- The condition of the join; left out if it is empty. -/
  | on (chain : Chain .joined) (query : Query) : Chain .tabled
  /-- A join without a condition. -/
  | unconditioned (chain : Chain .joined) : Chain .tabled
  /-- Choose rows; left out if the query is empty. -/
  | matching (chain : Chain .tabled) (query : Query) : Chain .filtered
  /-- Group rows; left out if there are no columns. -/
  | groupBy {s : Stage} (groupable : s.groupable = true) (chain : Chain s)
      (columns : List Column) : Chain .grouped
  /-- Choose groups; left out if the query is empty. -/
  | having (chain : Chain .grouped) (query : Query) : Chain .having
  /-- Sort rows; left out if there are no terms. -/
  | order {s : Stage} (orderable : s.orderable = true) (chain : Chain s)
      (orders : List Order) : Chain .ordered
  /-- Limit the number of rows. -/
  | limit {s : Stage} (limitable : s.limitable = true) (chain : Chain s) (n : Int) :
      Chain .limited
  /-- Skip a number of rows. -/
  | offset {s : Stage} (limitable : s.limitable = true) (chain : Chain s) (n : Int) :
      Chain .limited
  /-- Update a table. -/
  | update (table : TableSource) : Chain .updating
  /-- Assign a value; an absent value assigns nothing. -/
  | set (chain : Chain .updating) (target : Column) (value : Value) : Chain .updating
  /-- Assign NULL. -/
  | setNull (chain : Chain .updating) (target : Column) : Chain .updating
  /-- Assign another column. -/
  | setColumn (chain : Chain .updating) (target source : Column) : Chain .updating
  /-- Close the list of assignments. -/
  | assign (chain : Chain .updating) : Chain .assigned
  /-- Choose the rows to update; left out if the query is empty. -/
  | choosing (chain : Chain .assigned) (query : Query) : Chain .conditioned

namespace Chain

/-- The aliases that a select list registers. -/
def columnDeclarations (items : List SelectItem) : List Declaration :=
  items.filterMap fun
    | .aliased f aliasName => some (.column f aliasName)
    | _ => none

/-- The select list of a chain that has no table yet. -/
def selection : Chain .selected → List SelectItem
  | .select items => items

/-- The table of an update whose list of assignments is open. -/
def updated : Chain .updating → TableSource
  | .update table => table
  | .set chain _ _ => chain.updated
  | .setNull chain _ => chain.updated
  | .setColumn chain _ _ => chain.updated

/-- The assignments of an update whose list of assignments is open. -/
def assignments : Chain .updating → Assignments
  | .update _ => []
  | .set chain target value => Assignments.set chain.assignments target value
  | .setNull chain target => Assignments.setNull chain.assignments target
  | .setColumn chain target source => Assignments.setColumn chain.assignments target source

/-- Append a count of rows, which must not be negative. -/
def paging (statement : Statement) (n : Int) (segment : Nat → Segment)
    (fault : Int → ValidationFault) : Statement :=
  match n with
  | .ofNat n => statement.append [segment n]
  | .negSucc _ => statement.fail (fault n)

/-- The statement that updates a table. -/
def updateStatement (table : TableSource) (assignments : Assignments) : Statement :=
  let start := if assignments.isEmpty then Statement.empty.fail .nothingAssigned
    else Statement.empty
  start.append [.keyword "UPDATE", .target table, .keyword "SET", .assignments assignments]

/-- The statement that a chain stands for. -/
def statement : {s : Stage} → Chain s → Statement
  | _, .select items =>
    (Statement.empty.append [.keyword "SELECT"]).declare (columnDeclarations items)
  | _, .fromTable chain table =>
    let started := chain.statement
    let named := started.append [.selection chain.selection, .keyword "FROM", .table table]
    { named.declare [.table table] with result := table.source.resultType }
  | _, .join chain kind table =>
    (chain.statement.append [.join kind, .table table]).declare [.table table]
  | _, .on chain query => chain.statement.clause "ON" query
  | _, .unconditioned chain => chain.statement
  | _, .matching chain query => chain.statement.clause "WHERE" query
  | _, .groupBy _ chain columns =>
    if columns.isEmpty then chain.statement else chain.statement.append [.groupBy columns]
  | _, .having chain query => chain.statement.clause "HAVING" query
  | _, .order _ chain orders =>
    if orders.isEmpty then chain.statement else chain.statement.append [.orderBy orders]
  | _, .limit _ chain n => paging chain.statement n .limit .negativeLimit
  | _, .offset _ chain n => paging chain.statement n .offset .negativeOffset
  | _, .update _ => .empty
  | _, .set chain _ _ => chain.statement
  | _, .setNull chain _ => chain.statement
  | _, .setColumn chain _ _ => chain.statement
  | _, .assign chain => updateStatement chain.updated chain.assignments
  | _, .choosing chain query => chain.statement.clause "WHERE" query

end Chain

end QueryLoom

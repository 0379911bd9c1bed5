import QueryLoom.Chain
import QueryLoom.Executor
import QueryLoom.Page

/-!
# Running statements

A statement that yields rows is run together with a decoder for its rows.  A statement is built
completely before the executor is called, and an error of the executor is passed on unchanged.

## Main definitions

* `Statement.execute`: run a statement for the number of affected rows.
* `Fetch`: a statement with a decoder for its rows.
* `Fetch.one`, `Fetch.all`, `Fetch.count`, `Fetch.page`: run it for rows.
* `Fetch.execute`: run it for the number of affected rows.
-/

namespace QueryLoom

/-- The type of counts. -/
def countType : ResultType := .type "u64"

/-- Run a rendered statement for the number of affected rows. -/
def BoundStatement.execute (bound : BoundStatement) (executor : Executor) : Work UInt64 := do
  Work.log bound
  let answer ← Work.call .execute bound executor.execute
  Work.ofExcept answer

/-- Run a statement for the number of affected rows. -/
def Statement.execute (statement : Statement) (executor : Executor) : Work UInt64 := do
  let bound ← Work.onCatalog statement.build
  bound.execute executor

/-- A statement with a decoder for its rows. -/
structure Fetch (α : Type) where
  statement : Statement
  decoder : RowDecoder α

/-- The rows of a chain at a stage that yields rows. -/
def Chain.fetch {α : Type} {s : Stage} (chain : Chain s) (_fetchable : s.fetchable = true)
    (decoder : RowDecoder α) : Fetch α :=
  ⟨chain.statement, decoder⟩

namespace Fetch

variable {α : Type}

/-! ## Building -/

/-- The statement for all rows. -/
def build (fetch : Fetch α) : Catalog.Action BoundStatement := do
  let bound ← fetch.statement.build
  pure { bound with result := .type fetch.decoder.name }

/-- The statement that counts the rows. -/
def buildCount (fetch : Fetch α) : Catalog.Action BoundStatement := do
  let bound ← fetch.statement.buildCount
  pure { bound with result := countType }

/-- The statement for one page of the rows; the request is checked first. -/
def buildPage (fetch : Fetch α) (page : Page α) : Catalog.Action BoundStatement := do
  match page.validate with
  | .error e => throw e
  | .ok () =>
    let bound ← fetch.statement.buildPage page.size.toNat page.offset.toNat
    pure { bound with result := .type fetch.decoder.name }

/-! ## Running -/

/-- All rows of a rendered statement. -/
def rows (fetch : Fetch α) (executor : Executor) (bound : BoundStatement) : Work (List α) := do
  let answer ← Work.call .fetchAll bound executor.fetchAll
  let rows ← Work.ofExcept answer
  Work.ofExcept (rows.mapM fetch.decoder.decode)

/-- The first row.  An executor may say that there is none by an empty answer or by an error that
says so. -/
def one (fetch : Fetch α) (executor : Executor) : Work (Option α) := do
  let bound ← Work.onCatalog fetch.build
  Work.log bound
  match ← Work.call .fetchOpt bound executor.first with
  | .ok (some row) =>
    let a ← Work.ofExcept (fetch.decoder.decode row)
    pure (some a)
  | .ok none => pure none
  | .error e =>
    if e.isNotFound then do
      Work.report (.noRow e.message)
      pure none
    else throw e

/-- All rows. -/
def all (fetch : Fetch α) (executor : Executor) : Work (List α) := do
  let bound ← Work.onCatalog fetch.build
  Work.log bound
  fetch.rows executor bound

/-- The decoder of a row count. -/
def countDecoder : RowDecoder Int64 := .scalar "i64" fromValue

/-- The number of rows, apart from order and paging; no row counts as none. -/
def count (fetch : Fetch α) (executor : Executor) : Work UInt64 := do
  let bound ← Work.onCatalog fetch.buildCount
  Work.log bound
  let answer ← Work.call .fetchOpt bound executor.first
  match ← Work.ofExcept answer with
  | none => pure 0
  | some row =>
    let n ← Work.ofExcept (countDecoder.decode row)
    if n < 0 then throw (.decode "COUNT(1)" .negativeCount)
    else pure (UInt64.ofNat n.toInt.toNat)

/-- A page with the number of all rows and its own rows, which are fetched only if there are
any. -/
def page (fetch : Fetch α) (executor : Executor) (request : Page α) : Work (Page α) := do
  let bound ← Work.onCatalog (fetch.buildPage request)
  let total ← fetch.count executor
  if total = 0 then pure { request with total, list := [] }
  else do
    Work.log bound
    let list ← fetch.rows executor bound
    pure { request with total, list }

/-- Run the statement for the number of affected rows. -/
def execute (fetch : Fetch α) (executor : Executor) : Work UInt64 := do
  let bound ← Work.onCatalog fetch.build
  bound.execute executor

end Fetch

/-- Run work on the executor bound to the engine, which has to be there first. -/
def Work.onCurrent {α : Type} (work : Executor → Work α) : Work α := do
  let executor ← Work.current
  work executor

end QueryLoom

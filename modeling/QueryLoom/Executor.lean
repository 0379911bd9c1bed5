import QueryLoom.Row
import QueryLoom.Statement

/-!
# Executors

An executor runs rendered statements.  It is seen from outside as a function from the calls it has
received, the current one last, to its answer.  One executor can be bound for the whole engine.

## Main definitions

* `Call`, `Executor`: calls and executors.
* `Engine`: the state of the engine: names, configuration and the bound executor.
* `Engine.bind`, `Engine.unbind`, `Engine.current`: the bound executor.
* `Work`: work that calls an executor.
-/

namespace QueryLoom

/-! ## Calls -/

/-- What an executor is asked for. -/
inductive Method where
  /-- All rows. -/
  | fetchAll
  /-- The first row, if there is one. -/
  | fetchOpt
  /-- The number of affected rows. -/
  | execute
  deriving DecidableEq, Repr

/-- The name of a method. -/
def Method.name : Method → String
  | .fetchAll => "fetch_all"
  | .fetchOpt => "fetch_opt"
  | .execute => "execute"

/-- One call of an executor. -/
structure Call where
  method : Method
  sql : String
  params : List Value

/-- An executor, by its answers to a history of calls that ends with the current one.  Without a
way of its own to fetch a single row it fetches all rows and yields the first. -/
structure Executor where
  fetchAll : List Call → Except Error (List Row)
  fetchOpt : Option (List Call → Except Error (Option Row))
  execute : List Call → Except Error UInt64

namespace Executor

/-- The answer to a request for a single row. -/
def first (executor : Executor) (history : List Call) : Except Error (Option Row) :=
  match executor.fetchOpt with
  | some fetch => fetch history
  | none => (executor.fetchAll history).map List.head?

/-- The method that serves a call: without a way of its own to fetch a single row, a request for
one is served by fetching all. -/
def serving (executor : Executor) (method : Method) : Method :=
  if method = .fetchOpt && executor.fetchOpt.isNone then .fetchAll else method

end Executor

/-! ## The engine -/

/-- The state of the engine, with the executor that is bound. -/
structure Engine (ε : Type) where
  catalog : Catalog
  config : Config
  executor : Option ε

namespace Engine

variable {ε : Type}

/-- A fresh engine. -/
def fresh : Engine ε := ⟨.empty ({} : Config).cacheCapacity, {}, none⟩

/-- Report an event. -/
def report (engine : Engine ε) (event : Event) : Engine ε :=
  { engine with catalog := engine.catalog.report event }

/-- Install a configuration.  The names that are kept are cut to the new capacity at once. -/
def configure (engine : Engine ε) (config : Config) : Engine ε :=
  { engine with
    catalog := { engine.catalog with
      cache := engine.catalog.cache.setCapacity config.cacheCapacity }
    config }

/-- Bind an executor in place of the one that may be bound. -/
def bind (engine : Engine ε) (executor : ε) : Engine ε :=
  { engine with executor := some executor }.report (.executorBound engine.executor.isSome)

/-- Remove the bound executor. -/
def unbind (engine : Engine ε) : Option ε × Engine ε :=
  (engine.executor, { engine with executor := none })

/-- The bound executor. -/
def current (engine : Engine ε) : Except Error ε :=
  match engine.executor with
  | some executor => .ok executor
  | none => .error (.configuration .noExecutor)

end Engine

/-! ## Work with an executor -/

/-- The state of work: the engine, and the calls that were made. -/
structure WorkState where
  engine : Engine Executor
  history : List Call

/-- Work that may call an executor and may fail; what happened before a failure stays. -/
abbrev Work (α : Type) := EStateM Error WorkState α

namespace Work

variable {α : Type}

/-- Work on the catalog. -/
def onCatalog (action : Catalog.Action α) : Work α := fun state =>
  match action state.engine.catalog with
  | .ok a catalog => .ok a { state with engine := { state.engine with catalog } }
  | .error e catalog => .error e { state with engine := { state.engine with catalog } }

/-- Report an event. -/
def report (event : Event) : Work Unit :=
  modify fun state => { state with engine := state.engine.report event }

/-- Continue with a result, or fail with its error. -/
def ofExcept : Except Error α → Work α
  | .ok a => pure a
  | .error e => throw e

/-- The executor bound to the engine. -/
def current : Work Executor := do
  let state ← get
  ofExcept state.engine.current

/-- Report a statement that is about to run, if statements are logged. -/
def log (bound : BoundStatement) : Work Unit := do
  let state ← get
  if state.engine.config.logStatements then
    report (.executing (state.engine.config.logged bound.sql) bound.params.length
      bound.result.name)
  else pure ()

/-- Call an executor with a statement: its answer to the history of calls that ends with this
one. -/
def call (method : Method) (bound : BoundStatement) (answer : List Call → Except Error α) :
    Work (Except Error α) := do
  modify fun state =>
    { state with history := state.history ++ [⟨method, bound.sql, bound.params⟩] }
  let state ← get
  pure (answer state.history)

end Work

end QueryLoom

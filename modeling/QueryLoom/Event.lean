import QueryLoom.Entity
import QueryLoom.Json

/-!
# Events

What an engine reports about its work, in the order in which it happens.

## Main definitions

* `Event`: the occurrences that are reported.
* `Event.level`, `Event.message`, `Event.fields`: how each one is reported.
-/

namespace QueryLoom

/-- An occurrence that is reported. -/
inductive Event where
  /-- A table without an alias got one. -/
  | aliasGenerated (key : TableKey) (aliasName : String)
  /-- The aliases of a statement were dropped. -/
  | aliasesFlushed (tables : Nat)
  /-- The names of an entity were computed. -/
  | namesComputed (typePath table : String)
  /-- A statement is about to run. -/
  | executing (sql : String) (params : Nat) (resultType : String)
  /-- An executor was bound. -/
  | executorBound (replaced : Bool)
  /-- The executor reported that a single row is missing. -/
  | noRow (error : String)

namespace Event

/-- How important an event is. -/
def level : Event → String
  | .aliasGenerated .. | .aliasesFlushed _ | .noRow _ => "TRACE"
  | .namesComputed .. | .executing .. => "DEBUG"
  | .executorBound _ => "INFO"

/-- What happened, in words. -/
def message : Event → String
  | .aliasGenerated .. => "generated table alias"
  | .aliasesFlushed _ => "flushing alias context"
  | .namesComputed .. => "entity metadata cache miss"
  | .executing .. => "executing statement"
  | .executorBound _ => "sql executor bound"
  | .noRow _ => "no rows for single-row fetch"

/-- The details of an event, by name. -/
def fields : Event → List (String × Json)
  | .aliasGenerated key aliasName => [("key", .text key.displayed), ("alias", .text aliasName)]
  | .aliasesFlushed tables => [("tables", .int tables)]
  | .namesComputed typePath table => [("entity", .text typePath), ("table", .text table)]
  | .executing sql params resultType =>
    [("sql", .text sql), ("params", .int params), ("result_type", .text resultType)]
  | .executorBound replaced => [("replaced", .bool replaced)]
  | .noRow error => [("error", .text error)]

end Event

end QueryLoom

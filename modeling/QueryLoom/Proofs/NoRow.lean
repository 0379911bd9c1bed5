import QueryLoom.Proofs.Protocol

/-!
# Answers that there is no row

An executor that is asked for one row may say in two ways that there is none: by an empty answer, or
by an error that says so.  For executors whose answers differ at most in this way, fetching one row
has the same outcome.  Counting and fetching a page pass the error on, so they have the same outcome
exactly when the request for the row count is answered in the same way.

## Main definitions

* `Executor.SameAnswer`: answers that are the same, or both say that there is no row.
* `Executor.Alike`: executors that answer every history of calls so.

## Main results

* `Fetch.outcome_one`, `Fetch.outcome_count`, `Fetch.outcome_page`: the outcomes, by the statements
  that are built and the answers to the calls that carry them.
* `no_row_answers_agree_for_one_row`: the summary.
-/

namespace QueryLoom

open Step

variable {α β : Type}

/-! ## Executors that answer alike -/

namespace Executor

/-- Answers to a request for one row that are the same, or both say that there is none. -/
inductive SameAnswer : Except Error (Option Row) → Except Error (Option Row) → Prop where
  | same (answer : Except Error (Option Row)) : SameAnswer answer answer
  | noRow (message : String) : SameAnswer (.ok none) (.error (.notFound message))
  | missing (message : String) : SameAnswer (.error (.notFound message)) (.ok none)

/-- Executors that answer the same calls alike. -/
structure Alike (a b : Executor) : Prop where
  fetchAll : a.fetchAll = b.fetchAll
  execute : a.execute = b.execute
  first : ∀ history, SameAnswer (a.first history) (b.first history)

end Executor

/-! ## The steps of an operation -/

namespace Work

variable {state : WorkState}

theorem onCatalog_of_ok {action : Catalog.Action α} {a : α} {catalog : Catalog}
    (h : action state.engine.catalog = .ok a catalog) :
    onCatalog action state = .ok a { state with engine := { state.engine with catalog } } := by
  unfold onCatalog
  rw [h]

theorem onCatalog_of_error {action : Catalog.Action α} {e : Error} {catalog : Catalog}
    (h : action state.engine.catalog = .error e catalog) :
    onCatalog action state = .error e { state with engine := { state.engine with catalog } } := by
  unfold onCatalog
  rw [h]

/-- A report of the statement is no call. -/
theorem exists_log_eq (bound : BoundStatement) (state : WorkState) :
    ∃ after : WorkState, log bound state = .ok () after ∧ after.history = state.history := by
  rw [log_eq]
  by_cases hlogs : state.engine.config.logStatements
  · rw [if_pos hlogs]
    exact ⟨_, rfl, rfl⟩
  · rw [if_neg hlogs]
    exact ⟨_, rfl, rfl⟩

theorem outcome_ofExcept (r : Except Error α) (state : WorkState) :
    outcome (ofExcept r state) = r := by
  cases r with
  | ok a => rfl
  | error e => rfl

/-- A statement that is logged and carried by a call is answered by the calls so far and this
one. -/
theorem exists_answered (bound : BoundStatement) (method : Method)
    (answer : List Call → Except Error α) (next : Except Error α → Work β) (state : WorkState) :
    ∃ after : WorkState, after.history = state.history ++ [bound.call method] ∧
      (log bound >>= fun _ => call method bound answer >>= next) state =
        next (answer after.history) after := by
  obtain ⟨logged, hlog, hhistory⟩ := exists_log_eq bound state
  refine ⟨{ logged with history := logged.history ++ [bound.call method] }, ?_, ?_⟩
  · rw [hhistory]
  · rw [bind_of_ok hlog]
    rfl

end Work

/-! ## Outcomes -/

namespace Fetch

/-- Fetching one row comes to what the answer to its statement comes to. -/
theorem outcome_one (fetch : Fetch α) (executor : Executor) (state : WorkState) :
    outcome (fetch.one executor state) = (do
      let bound ← outcome (fetch.build state.engine.catalog)
      fetch.oneOf (executor.first (state.history ++ [bound.call .fetchOpt]))) := by
  unfold one
  cases hbuild : fetch.build state.engine.catalog with
  | error e catalog =>
      rw [bind_of_error (Work.onCatalog_of_error hbuild)]
      rfl
  | ok bound catalog =>
      rw [bind_of_ok (Work.onCatalog_of_ok hbuild)]
      obtain ⟨after, hhistory, hrun⟩ := Work.exists_answered bound .fetchOpt executor.first _ _
      rw [hrun, hhistory]
      show _ = fetch.oneOf (executor.first (state.history ++ [bound.call .fetchOpt]))
      cases executor.first (state.history ++ [bound.call .fetchOpt]) with
      | error e =>
          by_cases hnone : e.isNotFound
          · simp only [oneOf, hnone, ↓reduceIte]
            rfl
          · simp only [oneOf, hnone]
            rfl
      | ok found =>
          cases found with
          | none => rfl
          | some row =>
              show outcome ((Work.ofExcept (fetch.decoder.decode row) >>= _) after) =
                (fetch.decoder.decode row).map some
              cases fetch.decoder.decode row with
              | ok a => rfl
              | error e => rfl

/-- Once the statement that counts the rows is built, there is one call, and the number is what the
answer to it comes to. -/
theorem count_of_built (fetch : Fetch α) (executor : Executor) {state : WorkState}
    {bound : BoundStatement} {catalog : Catalog}
    (hbuild : fetch.buildCount state.engine.catalog = .ok bound catalog) :
    outcome (fetch.count executor state) =
        countOf (executor.first (state.history ++ [bound.call .fetchOpt])) ∧
      (left (fetch.count executor state)).history = state.history ++ [bound.call .fetchOpt] := by
  unfold count
  rw [bind_of_ok (Work.onCatalog_of_ok hbuild)]
  obtain ⟨after, hhistory, hrun⟩ := Work.exists_answered bound .fetchOpt executor.first _ _
  rw [hrun, ← hhistory]
  cases executor.first after.history with
  | error e => exact ⟨rfl, rfl⟩
  | ok found =>
      cases found with
      | none => exact ⟨rfl, rfl⟩
      | some row =>
          show outcome ((Work.ofExcept (countDecoder.decode row) >>= _) after) =
              (countDecoder.decode row >>= _) ∧
            (left ((Work.ofExcept (countDecoder.decode row) >>= _) after)).history = _
          cases countDecoder.decode row with
          | error e => exact ⟨rfl, rfl⟩
          | ok n =>
              let refused : Error := .decode "COUNT(1)" .negativeCount
              let total : UInt64 := UInt64.ofNat n.toInt.toNat
              show outcome ((if n < 0 then throw refused else pure total : Work UInt64) after) =
                  (if n < 0 then .error refused else pure total) ∧
                (left ((if n < 0 then throw refused else pure total : Work UInt64) after)).history =
                  after.history
              by_cases hnegative : n < 0
              · simp only [if_pos hnegative]
                exact ⟨rfl, rfl⟩
              · simp only [if_neg hnegative]
                exact ⟨rfl, rfl⟩

/-- Counting the rows comes to what the answer to its statement comes to. -/
theorem outcome_count (fetch : Fetch α) (executor : Executor) (state : WorkState) :
    outcome (fetch.count executor state) = (do
      let bound ← outcome (fetch.buildCount state.engine.catalog)
      countOf (executor.first (state.history ++ [bound.call .fetchOpt]))) := by
  cases hbuild : fetch.buildCount state.engine.catalog with
  | error e catalog =>
      unfold count
      rw [bind_of_error (Work.onCatalog_of_error hbuild)]
      rfl
  | ok bound catalog => exact (fetch.count_of_built executor hbuild).1

/-- Fetching the rows of a statement comes to what the answer to it comes to. -/
theorem outcome_rows (fetch : Fetch α) (executor : Executor) (bound : BoundStatement)
    (state : WorkState) :
    outcome (fetch.rows executor bound state) =
      fetch.allOf (executor.fetchAll (state.history ++ [bound.call .fetchAll])) := by
  show outcome ((Work.ofExcept (executor.fetchAll (state.history ++ [bound.call .fetchAll])) >>= _)
    _) = _
  cases executor.fetchAll (state.history ++ [bound.call .fetchAll]) with
  | error e => rfl
  | ok rows => exact Work.outcome_ofExcept (rows.mapM fetch.decoder.decode) _

/-- What the number of all rows and an answer to a request for the rows of a page come to. -/
def pageOf (fetch : Fetch α) (request : Page α) (total : UInt64)
    (answer : Except Error (List Row)) : Except Error (Page α) :=
  if total = 0 then .ok { request with total, list := [] }
  else (fetch.allOf answer).map fun list => { request with total, list }

/-- Fetching a page comes to what the answer to the statement that counts the rows comes to, and, if
there are any, the answer to the statement of the page. -/
theorem outcome_page (fetch : Fetch α) (executor : Executor) (request : Page α)
    (state : WorkState) :
    outcome (fetch.page executor request state) = (do
      let paged ← outcome (fetch.buildPage request state.engine.catalog)
      let count ← outcome
        (fetch.buildCount (left (fetch.buildPage request state.engine.catalog)))
      let total ← countOf (executor.first (state.history ++ [count.call .fetchOpt]))
      fetch.pageOf request total (executor.fetchAll
        (state.history ++ [count.call .fetchOpt, paged.call .fetchAll]))) := by
  unfold page
  cases hpaged : fetch.buildPage request state.engine.catalog with
  | error e catalog =>
      rw [bind_of_error (Work.onCatalog_of_error hpaged)]
      rfl
  | ok paged catalog =>
      rw [bind_of_ok (Work.onCatalog_of_ok hpaged)]
      generalize hstate :
        ({ state with engine := { state.engine with catalog } } : WorkState) = built
      have hhistory : built.history = state.history := by rw [← hstate]
      have hcatalog : built.engine.catalog = catalog := by rw [← hstate]
      show _ = outcome (fetch.buildCount catalog) >>= _
      cases hcount : fetch.buildCount catalog with
      | error e catalog' =>
          have hfails : outcome (fetch.count executor built) = .error e := by
            rw [outcome_count, hcatalog, hcount]
            rfl
          rw [bind_of_error (eq_error_of_outcome hfails)]
          rfl
      | ok count catalog' =>
          obtain ⟨hcounted, hcalled⟩ := fetch.count_of_built executor (hcatalog ▸ hcount)
          rw [hhistory] at hcounted hcalled
          show _ = countOf (executor.first (state.history ++ [count.call .fetchOpt])) >>= _
          cases htotal : countOf (executor.first (state.history ++ [count.call .fetchOpt])) with
          | error e =>
              rw [htotal] at hcounted
              rw [bind_of_error (eq_error_of_outcome hcounted)]
              rfl
          | ok total =>
              rw [htotal] at hcounted
              rw [bind_of_ok (eq_ok_of_outcome hcounted)]
              show _ = fetch.pageOf request total _
              unfold pageOf
              by_cases hnone : total = 0
              · rw [if_pos hnone, if_pos hnone]
                rfl
              · rw [if_neg hnone, if_neg hnone]
                obtain ⟨logged, hlog, hlogged⟩ := Work.exists_log_eq paged
                  (left (fetch.count executor built))
                have hrows := fetch.outcome_rows executor paged logged
                rw [hlogged, hcalled, List.append_assoc] at hrows
                rw [bind_of_ok hlog]
                refine (outcome_map (fetch.rows executor paged) _ logged).trans ?_
                rw [hrows]
                rfl

/-! ## Answers that are alike -/

/-- The two ways to say that there is no row come to the same for one row. -/
theorem oneOf_eq {answer other : Except Error (Option Row)}
    (h : Executor.SameAnswer answer other) (fetch : Fetch α) :
    fetch.oneOf answer = fetch.oneOf other := by
  cases h with
  | same => rfl
  | noRow message => rfl
  | missing message => rfl

/-- A count tells them apart. -/
theorem countOf_eq_iff {answer other : Except Error (Option Row)}
    (h : Executor.SameAnswer answer other) : countOf answer = countOf other ↔ answer = other := by
  cases h with
  | same => exact iff_of_true rfl rfl
  | noRow message => exact iff_of_false nofun nofun
  | missing message => exact iff_of_false nofun nofun

/-- And so does a page, whatever its rows are. -/
theorem pageOf_eq_iff {answer other : Except Error (Option Row)}
    (h : Executor.SameAnswer answer other) (fetch : Fetch α) (request : Page α)
    (rows : Except Error (List Row)) :
    (countOf answer >>= fun total => fetch.pageOf request total rows) =
      (countOf other >>= fun total => fetch.pageOf request total rows) ↔ answer = other := by
  cases h with
  | same => exact iff_of_true rfl rfl
  | noRow message => exact iff_of_false nofun nofun
  | missing message => exact iff_of_false nofun nofun

end Fetch

/-- Outcomes that go on from the same result are the same if they are so for that result. -/
theorem bind_eq_bind_iff {r : Except Error α} {f g : α → Except Error β} :
    (r >>= f) = (r >>= g) ↔ ∀ a, r = .ok a → f a = g a := by
  cases r with
  | error e => exact iff_of_true rfl nofun
  | ok a =>
      constructor
      · rintro h b hb
        cases hb
        exact h
      · intro h
        exact h a rfl

/-! ## Summary -/

/-- Let two executors differ at most in how they say that there is no row.  From every state, then,
fetching one row of a chain has the same outcome with both.  The number of rows has the same outcome
exactly when the request for it, if it is built, is answered in the same way, and so has a page.  In
the other case an empty answer counts as no rows, while an error that says so is the outcome. -/
theorem no_row_answers_agree_for_one_row {stage : Stage} (chain : Chain stage)
    (fetchable : stage.fetchable = true) (decoder : RowDecoder α) (request : Page α)
    {a b : Executor} (halike : a.Alike b) (state : WorkState) :
    let fetch := chain.fetch fetchable decoder
    let asked (count : BoundStatement) := state.history ++ [count.call .fetchOpt]
    let catalog := state.engine.catalog
    outcome (fetch.one a state) = outcome (fetch.one b state) ∧
    (outcome (fetch.count a state) = outcome (fetch.count b state) ↔
      ∀ count, outcome (fetch.buildCount catalog) = .ok count →
        a.first (asked count) = b.first (asked count)) ∧
    (outcome (fetch.page a request state) = outcome (fetch.page b request state) ↔
      ∀ paged, outcome (fetch.buildPage request catalog) = .ok paged →
        ∀ count, outcome (fetch.buildCount (left (fetch.buildPage request catalog))) = .ok count →
          a.first (asked count) = b.first (asked count)) ∧
    ∀ count message, outcome (fetch.buildCount catalog) = .ok count →
      a.first (asked count) = .ok none → b.first (asked count) = .error (.notFound message) →
        outcome (fetch.count a state) = .ok 0 ∧
          outcome (fetch.count b state) = .error (.notFound message) := by
  intro fetch asked catalog
  refine ⟨?_, ?_, ?_, fun count message hcount hnone hmissing => ?_⟩
  · rw [Fetch.outcome_one, Fetch.outcome_one, bind_eq_bind_iff]
    exact fun bound _ => Fetch.oneOf_eq (halike.first _) fetch
  · rw [Fetch.outcome_count, Fetch.outcome_count, bind_eq_bind_iff]
    exact forall₂_congr fun count _ => Fetch.countOf_eq_iff (halike.first (asked count))
  · rw [Fetch.outcome_page, Fetch.outcome_page, bind_eq_bind_iff]
    refine forall₂_congr fun paged _ => ?_
    rw [bind_eq_bind_iff, halike.fetchAll]
    exact forall₂_congr fun count _ => Fetch.pageOf_eq_iff (halike.first (asked count)) fetch
      request _
  · rw [Fetch.outcome_count, Fetch.outcome_count, hcount]
    show Fetch.countOf (a.first (asked count)) = _ ∧ Fetch.countOf (b.first (asked count)) = _
    rw [hnone, hmissing]
    exact ⟨rfl, rfl⟩

/-- An executor without rows, which says so by an empty answer. -/
def Executor.silent : Executor where
  fetchAll _ := .ok []
  fetchOpt := some fun _ => .ok none
  execute _ := .ok 0

/-- The same one, but it says so by an error. -/
def Executor.complaining : Executor :=
  { Executor.silent with fetchOpt := some fun _ => .error (.notFound "no rows") }

theorem Executor.silent_alike_complaining : Executor.silent.Alike .complaining :=
  ⟨rfl, rfl, fun _ => .noRow "no rows"⟩

/-- Both say that there is no first user, but only with one of them there are no users. -/
theorem answers_about_users :
    let fetch := Chain.usersWithOrders.fetch rfl Fetch.countDecoder
    let state : WorkState := ⟨.fresh, []⟩
    outcome (fetch.one .silent state) = outcome (fetch.one .complaining state) ∧
    outcome (fetch.count .silent state) = .ok 0 ∧
    outcome (fetch.count .complaining state) = .error (.notFound "no rows") := by
  intro fetch state
  obtain ⟨hone, -, -, hcount⟩ := no_row_answers_agree_for_one_row Chain.usersWithOrders rfl
    Fetch.countDecoder {} Executor.silent_alike_complaining state
  obtain ⟨count, catalog, hbuilt⟩ : ∃ count catalog,
      fetch.buildCount state.engine.catalog = .ok count catalog :=
    exists_of_succeeds (by decide +kernel)
  exact ⟨hone, hcount count "no rows" (by rw [hbuilt]; rfl) rfl rfl⟩

/-- So counting does not level the answers. -/
theorem count_tells_the_answers_apart :
    ¬ ∀ (stage : Stage) (chain : Chain stage) (fetchable : stage.fetchable = true)
      (decoder : RowDecoder Int64) (request : Page Int64) (a b : Executor) (state : WorkState),
      a.Alike b →
        outcome ((chain.fetch fetchable decoder).one a state) =
            outcome ((chain.fetch fetchable decoder).one b state) ∧
          outcome ((chain.fetch fetchable decoder).count a state) =
            outcome ((chain.fetch fetchable decoder).count b state) ∧
          outcome ((chain.fetch fetchable decoder).page a request state) =
            outcome ((chain.fetch fetchable decoder).page b request state) := by
  intro hclaim
  obtain ⟨-, hcount, -⟩ := hclaim .tabled (.fromTable (.select []) ⟨.named "user", none⟩) rfl
    Fetch.countDecoder {} .silent .complaining ⟨.fresh, []⟩ Executor.silent_alike_complaining
  cases hcount

end QueryLoom

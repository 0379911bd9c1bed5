import QueryLoom.Proofs.OneBody

/-!
# What an executor is asked

Every operation builds its statements before it calls the executor.  So if a statement cannot be
built, that is the error, and the executor is not called at all; and if the executor is called, the
calls carry the statements that were built, one call for each operation but for that of a page,
which asks for the rows only when the count says that there are any.  What the executor answers is
arbitrary, and may depend on all the calls it has received.

## Main definitions

* `BoundStatement.call`: the call that carries a statement.
* `Work.Performs`: the result of work, and the calls that it makes.
* `Work.Runs`: work that builds one statement and makes one call.
* `Fetch.oneOf`, `Fetch.allOf`, `Fetch.countOf`: what the answers come to.

## Main results

* `Work.Performs.bind`: sequences of work.
* `Chain.directCount_of_directPage`: where there is a statement for a page, there is one that
  counts.
* `operations_follow_the_protocol`: the summary.
-/

namespace QueryLoom

open Step

variable {known : Entity → Prop}

/-! ## Calls and results -/

/-- The call that carries a rendered statement. -/
def BoundStatement.call (bound : BoundStatement) (method : Method) : Call :=
  ⟨method, bound.sql, bound.params⟩

namespace Work

variable {α β : Type}

/-- From a state the work has the result and makes the calls, in this order and no others.  Its
catalog only looks known entities up. -/
structure Performs (known : Entity → Prop) (work : Work α) (state : WorkState)
    (result : Except Error α) (calls : List Call) : Prop where
  outcome : outcome (work state) = result
  history : (left (work state)).history = state.history ++ calls
  catalog : (left (work state)).engine.catalog.Visited known

namespace Performs

variable {state : WorkState}

theorem pure (hvisited : state.engine.catalog.Visited known) (a : α) :
    Performs known (pure a) state (.ok a) [] :=
  ⟨rfl, (List.append_nil _).symm, hvisited⟩

theorem ofExcept (hvisited : state.engine.catalog.Visited known) (r : Except Error α) :
    Performs known (ofExcept r) state r [] := by
  cases r with
  | ok a => exact pure hvisited a
  | error e => exact ⟨rfl, (List.append_nil _).symm, hvisited⟩

/-- Work goes on from where its first part succeeds, and the calls of both follow each other. -/
theorem bind {work : Work α} {next : α → Work β} {a : α} {result : Except Error β}
    {calls more : List Call} (h : Performs known work state (.ok a) calls)
    (hnext : ∀ after : WorkState, after.history = state.history ++ calls →
      after.engine.catalog.Visited known → Performs known (next a) after result more) :
    Performs known (work >>= next) state result (calls ++ more) := by
  have hstep := hnext (left (work state)) h.history h.catalog
  have hbind : (work >>= next) state = next a (left (work state)) :=
    bind_of_ok (eq_ok_of_outcome h.outcome)
  refine ⟨?_, ?_, ?_⟩
  · rw [hbind]
    exact hstep.outcome
  · rw [hbind, hstep.history, h.history, List.append_assoc]
  · rw [hbind]
    exact hstep.catalog

/-- Work ends where its first part fails. -/
theorem fails {work : Work α} {next : α → Work β} {e : Error} {calls : List Call}
    (h : Performs known work state (.error e) calls) :
    Performs known (work >>= next) state (.error e) calls := by
  have hbind : (work >>= next) state = .error e (left (work state)) :=
    bind_of_error (eq_error_of_outcome h.outcome)
  refine ⟨?_, ?_, ?_⟩
  · rw [hbind]
    rfl
  · rw [hbind]
    exact h.history
  · rw [hbind]
    exact h.catalog

/-- What is done with a result at the end makes no calls. -/
theorem andThen {work : Work α} {next : α → Work β} {tells : α → Except Error β}
    {r : Except Error α} {calls : List Call} (h : Performs known work state r calls)
    (hnext : ∀ (a : α) (after : WorkState), after.engine.catalog.Visited known →
      Performs known (next a) after (tells a) []) :
    Performs known (work >>= next) state (r >>= tells) calls := by
  cases r with
  | ok a =>
      have hboth := bind h fun after _ hvisited => hnext a after hvisited
      rwa [List.append_nil] at hboth
  | error e => exact h.fails

end Performs

/-! ## The steps of an operation -/

variable {state : WorkState}

/-- Work on the catalog calls no executor. -/
theorem performs_onCatalog (hunambiguous : Unambiguous known) {action : Catalog.Action α}
    {told : Except Error α} (h : Tells known (Catalog.Visited known) action told)
    (hvisited : state.engine.catalog.Visited known) :
    Performs known (onCatalog action) state told [] := by
  obtain ⟨hmatches, hleft⟩ := h state.engine.catalog hvisited
  have htold := hmatches.eq hunambiguous
  unfold onCatalog
  cases hresult : action state.engine.catalog with
  | ok a catalog =>
      rw [hresult] at htold hleft
      refine ⟨?_, ?_, ?_⟩ <;> simp only [hresult]
      · exact htold
      · exact (List.append_nil _).symm
      · exact hleft
  | error e catalog =>
      rw [hresult] at htold hleft
      refine ⟨?_, ?_, ?_⟩ <;> simp only [hresult]
      · exact htold
      · exact (List.append_nil _).symm
      · exact hleft

theorem performs_report (hvisited : state.engine.catalog.Visited known) (event : Event) :
    Performs known (report event) state (.ok ()) [] :=
  ⟨rfl, (List.append_nil _).symm, .report event hvisited⟩

/-- A statement is reported if the configuration says so. -/
theorem log_eq (bound : BoundStatement) (state : WorkState) :
    log bound state = (if state.engine.config.logStatements then
      report (.executing (state.engine.config.logged bound.sql) bound.params.length
        bound.result.name)
      else Pure.pure ()) state :=
  rfl

/-- Neither does a report of the statement. -/
theorem performs_log (hvisited : state.engine.catalog.Visited known) (bound : BoundStatement) :
    Performs known (log bound) state (.ok ()) [] := by
  have hlook := log_eq bound state
  by_cases hlogs : state.engine.config.logStatements
  · rw [if_pos hlogs] at hlook
    have hreport := performs_report hvisited (.executing (state.engine.config.logged bound.sql)
      bound.params.length bound.result.name)
    exact ⟨hlook ▸ hreport.outcome, hlook ▸ hreport.history, hlook ▸ hreport.catalog⟩
  · rw [if_neg hlogs] at hlook
    have hnothing := Performs.pure hvisited ()
    exact ⟨hlook ▸ hnothing.outcome, hlook ▸ hnothing.history, hlook ▸ hnothing.catalog⟩

/-- Work that reports the statement first. -/
theorem performs_logged (hvisited : state.engine.catalog.Visited known) (bound : BoundStatement)
    {run : Work α} {result : Except Error α} {calls : List Call}
    (hrun : ∀ after : WorkState, after.history = state.history →
      after.engine.catalog.Visited known → Performs known run after result calls) :
    Performs known (log bound >>= fun _ => run) state result calls := by
  refine (performs_log hvisited bound).bind fun after hhistory hafter => ?_
  rw [List.append_nil] at hhistory
  exact hrun after hhistory hafter

/-- A call is answered by the calls so far and this one. -/
theorem performs_call (hvisited : state.engine.catalog.Visited known) (method : Method)
    (bound : BoundStatement) (answer : List Call → Except Error α) :
    Performs known (call method bound answer) state
      (.ok (answer (state.history ++ [bound.call method]))) [bound.call method] :=
  ⟨rfl, rfl, hvisited⟩

/-- The work builds one statement.  If that fails, this is the error, and there is no call;
otherwise there is one call, which carries the statement, and the result is told by the answer. -/
def Runs (known : Entity → Prop) (work : Work α) (state : WorkState)
    (built : Except Error BoundStatement) (method : Method)
    (result : List Call → Except Error α) : Prop :=
  (∀ e, built = .error e → Performs known work state (.error e) []) ∧
    ∀ bound, built = .ok bound →
      Performs known work state (result (state.history ++ [bound.call method])) [bound.call method]

/-- Work that builds a statement first, and then runs it by one call. -/
theorem runs_of_tells (hunambiguous : Unambiguous known)
    {action : Catalog.Action BoundStatement} {told : Except Error BoundStatement}
    (h : Tells known (Catalog.Visited known) action told)
    (hvisited : state.engine.catalog.Visited known) {run : BoundStatement → Work α}
    {method : Method} {result : List Call → Except Error α}
    (hrun : ∀ (bound : BoundStatement) (after : WorkState), after.engine.catalog.Visited known →
      Performs known (run bound) after (result (after.history ++ [bound.call method]))
        [bound.call method]) :
    Runs known (onCatalog action >>= run) state (Step.outcome (action state.engine.catalog))
      method result := by
  have hbuild := performs_onCatalog hunambiguous h hvisited
  rw [(h _ hvisited).1.eq hunambiguous]
  constructor
  · rintro e rfl
    exact hbuild.fails
  · rintro bound rfl
    refine hbuild.bind fun after hhistory hafter => ?_
    have hafter := hrun bound after hafter
    rwa [hhistory, List.append_nil] at hafter

end Work

/-! ## The answers -/

/-- Running a statement for the number of affected rows is one call. -/
theorem BoundStatement.performs_execute {state : WorkState}
    (hvisited : state.engine.catalog.Visited known) (bound : BoundStatement)
    (executor : Executor) :
    Work.Performs known (bound.execute executor) state
      (executor.execute (state.history ++ [bound.call .execute])) [bound.call .execute] := by
  refine Work.performs_logged hvisited bound fun after hhistory hafter => ?_
  rw [← hhistory]
  refine (Work.performs_call hafter .execute bound executor.execute).bind fun last _ hlast => ?_
  exact .ofExcept hlast _

namespace Fetch

variable {α : Type}

/-- What an answer to a request for one row comes to; an answer that there is no such row is no
error. -/
def oneOf (fetch : Fetch α) : Except Error (Option Row) → Except Error (Option α)
  | .ok (some row) => (fetch.decoder.decode row).map some
  | .ok none => .ok none
  | .error e => if e.isNotFound then .ok none else .error e

/-- What an answer to a request for all rows comes to. -/
def allOf (fetch : Fetch α) (answer : Except Error (List Row)) : Except Error (List α) :=
  answer >>= fun rows => rows.mapM fetch.decoder.decode

/-- What an answer to a request for a row count comes to. -/
def countOf (answer : Except Error (Option Row)) : Except Error UInt64 := do
  match ← answer with
  | none => pure 0
  | some row =>
    let n ← countDecoder.decode row
    if n < 0 then .error (.decode "COUNT(1)" .negativeCount)
    else pure (UInt64.ofNat n.toInt.toNat)

variable {state : WorkState}

/-- Fetching the rows of a statement is one call. -/
theorem performs_rows (hvisited : state.engine.catalog.Visited known) (fetch : Fetch α)
    (executor : Executor) (bound : BoundStatement) :
    Work.Performs known (fetch.rows executor bound) state
      (fetch.allOf (executor.fetchAll (state.history ++ [bound.call .fetchAll])))
      [bound.call .fetchAll] := by
  refine (Work.performs_call hvisited .fetchAll bound executor.fetchAll).bind
    fun after _ hafter => ?_
  exact (Work.Performs.ofExcept hafter _).andThen fun rows last hlast => .ofExcept hlast _

/-- One call yields the first row. -/
theorem runs_one (hunambiguous : Unambiguous known) {fetch : Fetch α}
    {told : Except Error BoundStatement}
    (h : Tells known (Catalog.Visited known) fetch.build told)
    (hvisited : state.engine.catalog.Visited known) (executor : Executor) :
    Work.Runs known (fetch.one executor) state (outcome (fetch.build state.engine.catalog))
      .fetchOpt fun history => fetch.oneOf (executor.first history) := by
  refine Work.runs_of_tells hunambiguous h hvisited fun bound after hafter => ?_
  refine Work.performs_logged hafter bound fun logged hhistory hlogged => ?_
  rw [← hhistory]
  have hcall := Work.performs_call hlogged .fetchOpt bound executor.first
  cases hanswer : executor.first (logged.history ++ [bound.call .fetchOpt]) with
  | ok found =>
      rw [hanswer] at hcall
      refine hcall.bind fun last _ hlast => ?_
      cases found with
      | some row =>
          exact (Work.Performs.ofExcept hlast _).andThen fun a last hlast => .pure hlast (some a)
      | none => exact .pure hlast none
  | error e =>
      rw [hanswer] at hcall
      refine hcall.bind fun last _ hlast => ?_
      unfold oneOf
      by_cases hnone : e.isNotFound
      · simp only [hnone, ↓reduceIte]
        exact (Work.performs_report hlast _).bind fun last _ hlast => .pure hlast none
      · simp only [hnone]
        exact .ofExcept hlast (.error e)

/-- One call yields all rows. -/
theorem runs_all (hunambiguous : Unambiguous known) {fetch : Fetch α}
    {told : Except Error BoundStatement}
    (h : Tells known (Catalog.Visited known) fetch.build told)
    (hvisited : state.engine.catalog.Visited known) (executor : Executor) :
    Work.Runs known (fetch.all executor) state (outcome (fetch.build state.engine.catalog))
      .fetchAll fun history => fetch.allOf (executor.fetchAll history) := by
  refine Work.runs_of_tells hunambiguous h hvisited fun bound after hafter => ?_
  refine Work.performs_logged hafter bound fun logged hhistory hlogged => ?_
  rw [← hhistory]
  exact performs_rows hlogged fetch executor bound

/-- One call yields the number of rows. -/
theorem runs_count (hunambiguous : Unambiguous known) {fetch : Fetch α}
    {told : Except Error BoundStatement}
    (h : Tells known (Catalog.Visited known) fetch.buildCount told)
    (hvisited : state.engine.catalog.Visited known) (executor : Executor) :
    Work.Runs known (fetch.count executor) state (outcome (fetch.buildCount state.engine.catalog))
      .fetchOpt fun history => countOf (executor.first history) := by
  refine Work.runs_of_tells hunambiguous h hvisited fun bound after hafter => ?_
  refine Work.performs_logged hafter bound fun logged hhistory hlogged => ?_
  rw [← hhistory]
  refine (Work.performs_call hlogged .fetchOpt bound executor.first).bind fun last _ hlast => ?_
  refine (Work.Performs.ofExcept hlast _).andThen fun found last hlast => ?_
  cases found with
  | none => exact .pure hlast 0
  | some row =>
      refine (Work.Performs.ofExcept hlast _).andThen fun n last hlast => ?_
      by_cases hnegative : n < 0
      · simp only [hnegative, ↓reduceIte]
        exact .ofExcept hlast (.error _)
      · simp only [hnegative]
        exact .pure hlast _

/-- One call runs the statement. -/
theorem runs_execute (hunambiguous : Unambiguous known) {fetch : Fetch α}
    {told : Except Error BoundStatement}
    (h : Tells known (Catalog.Visited known) fetch.build told)
    (hvisited : state.engine.catalog.Visited known) (executor : Executor) :
    Work.Runs known (fetch.execute executor) state (outcome (fetch.build state.engine.catalog))
      .execute executor.execute :=
  Work.runs_of_tells hunambiguous h hvisited fun bound _ hafter =>
    bound.performs_execute hafter executor

/-- How a page is fetched by two statements, the one that counts the rows and the one for the page.
After an error of the count, or when there are no rows, there is no second call. -/
structure Pages (known : Entity → Prop) (fetch : Fetch α) (executor : Executor) (request : Page α)
    (state : WorkState) (count paged : BoundStatement) : Prop where
  uncounted : ∀ e, countOf (executor.first (state.history ++ [count.call .fetchOpt])) = .error e →
    Work.Performs known (fetch.page executor request) state (.error e) [count.call .fetchOpt]
  empty : countOf (executor.first (state.history ++ [count.call .fetchOpt])) = .ok 0 →
    Work.Performs known (fetch.page executor request) state
      (.ok { request with total := 0, list := [] }) [count.call .fetchOpt]
  filled : ∀ total,
    countOf (executor.first (state.history ++ [count.call .fetchOpt])) = .ok total → total ≠ 0 →
      Work.Performs known (fetch.page executor request) state
        ((fetch.allOf (executor.fetchAll (state.history ++
            [count.call .fetchOpt, paged.call .fetchAll]))).map
          fun list => { request with total, list })
        [count.call .fetchOpt, paged.call .fetchAll]

/-- A page is fetched so once its statement and the one that counts the rows are told. -/
theorem pages_of_tells (hunambiguous : Unambiguous known) {fetch : Fetch α} {request : Page α}
    {paged count : BoundStatement}
    (hpaged : Tells known (Catalog.Visited known) (fetch.buildPage request) (.ok paged))
    (hcount : Tells known (Catalog.Visited known) fetch.buildCount (.ok count))
    (hvisited : state.engine.catalog.Visited known) (executor : Executor) :
    Pages known fetch executor request state count paged := by
  have hbuild := Work.performs_onCatalog hunambiguous hpaged hvisited
  -- wherever the page's statement leaves the catalog, the count runs in the same way
  have hcounted : ∀ after : WorkState, after.history = state.history ++ [] →
      after.engine.catalog.Visited known → Work.Performs known (fetch.count executor) after
        (countOf (executor.first (state.history ++ [count.call .fetchOpt])))
        [count.call .fetchOpt] := by
    intro after hhistory hafter
    rw [List.append_nil] at hhistory
    rw [← hhistory]
    exact (runs_count hunambiguous hcount hafter executor).2 count
      ((hcount _ hafter).1.eq hunambiguous)
  constructor
  · intro e herror
    rw [herror] at hcounted
    exact hbuild.bind fun after hhistory hafter => (hcounted after hhistory hafter).fails
  · intro hnone
    rw [hnone] at hcounted
    refine hbuild.bind fun after hhistory hafter =>
      (hcounted after hhistory hafter).bind fun last _ hlast => ?_
    exact .pure hlast { request with total := 0, list := [] }
  · intro total htotal hsome
    rw [htotal] at hcounted
    refine hbuild.bind fun after hhistory hafter =>
      (hcounted after hhistory hafter).bind fun last hlastHistory hlast => ?_
    have hcalls : last.history ++ [paged.call .fetchAll] =
        state.history ++ [count.call .fetchOpt, paged.call .fetchAll] := by
      rw [hlastHistory, hhistory, List.append_nil, List.append_assoc]
      rfl
    rw [if_neg hsome, ← hcalls]
    refine (Work.performs_log hlast paged).bind fun logged hlogged hvisited => ?_
    rw [List.append_nil] at hlogged
    rw [← hlogged]
    exact (performs_rows hvisited fetch executor paged).andThen fun list after hafter =>
      .pure hafter { request with total, list }

end Fetch

/-! ## Page and count -/

/-- Limits and offsets always have a text. -/
theorem Segment.exists_directAll_of_paging {segments : List Segment}
    (h : ∀ g ∈ segments, g.isPaging = true) (aliases : Aliases) :
    ∃ text, directAll ⟨aliases, .full⟩ segments = .ok text := by
  induction segments with
  | nil => exact ⟨"", rfl⟩
  | cons segment rest ih =>
      obtain ⟨hfirst, hrest⟩ := List.forall_mem_cons.mp h
      obtain ⟨others, hothers⟩ := ih hrest
      rw [directAll, hothers]
      cases segment with
      | limit n => exact ⟨_, rfl⟩
      | offset n => exact ⟨_, rfl⟩
      | _ => cases hfirst

namespace Chain

variable {s : Stage} {chain : Chain s}

/-- The statement for a page, too, is joined from the parts of the chain. -/
theorem exists_parts_of_page (hnamed : s.isNamed = true) {size offset : Nat}
    {bound : BoundStatement} (h : chain.statement.direct (.page size offset) = .ok bound) :
    chain.statement.fault = none ∧ ∃ aliases listed body order paging,
      chain.Parts aliases listed body order paging := by
  obtain ⟨hfault, aliases, haliases, hsql, -⟩ := Statement.direct_eq_ok h
  rw [Statement.directText, chain.segments_paged hnamed] at hsql
  obtain ⟨select, rest, -, hrest, -⟩ := Segment.directAll_cons_eq_ok hsql
  obtain ⟨text, others, htext, hothers, -⟩ := Segment.directAll_cons_eq_ok hrest
  obtain ⟨body, tail, hbody, htail, -⟩ := Segment.directAll_append_eq_ok hothers
  obtain ⟨order, replaced, horder, -⟩ := Segment.directAll_append_eq_ok htail
  rw [Segment.direct_selection (by decide)] at htext
  obtain ⟨listed, hlisted, -⟩ := exists_of_bind_eq_ok htext
  obtain ⟨paging, hpaging⟩ := Segment.exists_directAll_of_paging chain.isPaging_pages aliases
  exact ⟨hfault, aliases, listed, body, order, paging,
    ⟨haliases, hlisted, hbody, horder, hpaging⟩⟩

/-- Where there is a statement for a page, there is one that counts the rows. -/
theorem directCount_of_directPage {α : Type} (fetchable : s.fetchable = true)
    {decoder : RowDecoder α} {request : Page α} {paged : BoundStatement}
    (h : (chain.fetch fetchable decoder).directPage request = .ok paged) :
    ∃ count, (chain.fetch fetchable decoder).directCount = .ok count := by
  have hnamed := Stage.isNamed_of_fetchable fetchable
  obtain ⟨-, -, h⟩ := exists_of_bind_eq_ok h
  obtain ⟨bound, hbound, -⟩ := exists_of_bind_eq_ok h
  obtain ⟨hfault, aliases, listed, body, order, paging, hparts⟩ :=
    exists_parts_of_page hnamed hbound
  exact ⟨_, Fetch.directCount_of_direct (hparts.direct_count hnamed hfault)⟩

end Chain

/-! ## Summary -/

/-- Let a chain be over known entities, of which no two share a type path, and let the catalog only
keep known ones.  Then an operation whose statement is not built, or whose request for a page is
refused, has this error for its result and makes no call.

Otherwise running a chain, and fetching one row, all rows or their number, is one call of the
executor with the statement that is built, and the result is what the answer comes to.  For a page
the statement that counts the rows is built too, and is run first; the rows of the page are fetched
exactly when the count is positive, and an error of the count or of the rows is the result.

On the executor bound to the engine they do the same, and without one there is no call. -/
theorem operations_follow_the_protocol (hunambiguous : Unambiguous known) {stage : Stage}
    (chain : Chain stage) (hknown : ∀ e ∈ chain.statement.entities, known e) (executor : Executor)
    {state : WorkState} (hvisited : state.engine.catalog.Visited known) :
    Work.Runs known (chain.statement.execute executor) state
      (outcome (chain.statement.build state.engine.catalog)) .execute executor.execute ∧
    (∀ (α : Type) (fetchable : stage.fetchable = true) (decoder : RowDecoder α),
      let fetch := chain.fetch fetchable decoder
      Work.Runs known (fetch.execute executor) state
        (outcome (fetch.build state.engine.catalog)) .execute executor.execute ∧
      Work.Runs known (fetch.one executor) state (outcome (fetch.build state.engine.catalog))
        .fetchOpt (fun history => fetch.oneOf (executor.first history)) ∧
      Work.Runs known (fetch.all executor) state (outcome (fetch.build state.engine.catalog))
        .fetchAll (fun history => fetch.allOf (executor.fetchAll history)) ∧
      Work.Runs known (fetch.count executor) state
        (outcome (fetch.buildCount state.engine.catalog))
        .fetchOpt (fun history => Fetch.countOf (executor.first history)) ∧
      ∀ request : Page α,
        (∀ e, request.validate = .error e →
          outcome (fetch.buildPage request state.engine.catalog) = .error e) ∧
        (∀ e, outcome (fetch.buildPage request state.engine.catalog) = .error e →
          Work.Performs known (fetch.page executor request) state (.error e) []) ∧
        ∀ paged, outcome (fetch.buildPage request state.engine.catalog) = .ok paged →
          ∃ count, outcome (fetch.buildCount state.engine.catalog) = .ok count ∧
            Fetch.Pages known fetch executor request state count paged) ∧
    ∀ (β : Type) (work : Executor → Work β),
      (∀ current, state.engine.executor = some current →
        Work.onCurrent work state = work current state) ∧
      (state.engine.executor = none →
        Work.onCurrent work state = .error (.configuration .noExecutor) state) := by
  have hclosed := chain.closed_statement
  refine ⟨?_, ?_, ?_⟩
  · exact Work.runs_of_tells hunambiguous (Statement.tells_buildAs hknown hclosed .rows) hvisited
      fun bound _ hafter => bound.performs_execute hafter executor
  · intro α fetchable decoder
    have hbuild := @Fetch.tells_build known α (chain.fetch fetchable decoder) hknown hclosed
    have hcount := @Fetch.tells_buildCount known α (chain.fetch fetchable decoder) hknown hclosed
    refine ⟨Fetch.runs_execute hunambiguous hbuild hvisited executor,
      Fetch.runs_one hunambiguous hbuild hvisited executor,
      Fetch.runs_all hunambiguous hbuild hvisited executor,
      Fetch.runs_count hunambiguous hcount hvisited executor, fun request => ?_⟩
    have hpage := @Fetch.tells_buildPage known α (chain.fetch fetchable decoder) hknown hclosed
      request
    have htold := (hpage _ hvisited).1.eq hunambiguous
    refine ⟨fun e hinvalid => ?_, fun e herror => ?_, fun paged hpaged => ?_⟩
    · unfold Fetch.buildPage
      rw [hinvalid]
      rfl
    · rw [htold] at herror
      rw [herror] at hpage
      exact (Work.performs_onCatalog hunambiguous hpage hvisited).fails
    · rw [htold] at hpaged
      rw [hpaged] at hpage
      obtain ⟨count, htold⟩ := Chain.directCount_of_directPage fetchable hpaged
      rw [htold] at hcount
      exact ⟨count, (hcount _ hvisited).1.eq hunambiguous,
        Fetch.pages_of_tells hunambiguous hpage hcount hvisited executor⟩
  · intro β work
    constructor
    · intro current hcurrent
      have hbound : Work.current state = .ok current state := by
        show Work.ofExcept state.engine.current state = _
        rw [Engine.current, hcurrent]
        rfl
      exact bind_of_ok hbound
    · intro hnone
      have hbound : Work.current state = .error (.configuration .noExecutor) state := by
        show Work.ofExcept state.engine.current state = _
        rw [Engine.current, hnone]
        rfl
      exact bind_of_error hbound

/-- An executor that counts 45 rows, and whose rows tell how often it was called. -/
def Executor.telling : Executor where
  fetchAll history := .ok [⟨["calls"], [.bigInt (Int64.ofNat history.length)]⟩]
  fetchOpt := some fun _ => .ok (some ⟨["COUNT(1)"], [.int 45]⟩)
  execute _ := .error (.execution "nothing is changed")

/-- For the third page it is called twice, and for a page without a number not at all. -/
theorem calls_for_a_page :
    let fetch := Chain.usersWithOrders.fetch rfl Fetch.countDecoder
    let state : WorkState := ⟨.fresh, []⟩
    (∃ count paged, outcome (fetch.buildCount state.engine.catalog) = .ok count ∧
      outcome (fetch.buildPage ⟨3, 20, 0, []⟩ state.engine.catalog) = .ok paged ∧
      outcome (fetch.page .telling ⟨3, 20, 0, []⟩ state) = .ok ⟨3, 20, 45, [2]⟩ ∧
      (left (fetch.page .telling ⟨3, 20, 0, []⟩ state)).history =
        [count.call .fetchOpt, paged.call .fetchAll]) ∧
    outcome (fetch.page .telling ⟨0, 20, 0, []⟩ state) = .error (.validation .pageZero) ∧
    (left (fetch.page .telling ⟨0, 20, 0, []⟩ state)).history = [] := by
  intro fetch state
  have hvisited : state.engine.catalog.Visited (· ∈ [Entity.user, Entity.order]) := .empty _
  obtain ⟨-, hfetch, -⟩ := operations_follow_the_protocol unambiguous_user_order
    Chain.usersWithOrders (by decide) .telling hvisited
  obtain ⟨-, -, -, -, hpages⟩ := hfetch Int64 rfl Fetch.countDecoder
  constructor
  · obtain ⟨-, -, hpage⟩ := hpages ⟨3, 20, 0, []⟩
    obtain ⟨paged, catalog', hpaged⟩ : ∃ paged catalog',
        fetch.buildPage ⟨3, 20, 0, []⟩ state.engine.catalog = .ok paged catalog' :=
      Step.exists_of_succeeds (by decide +kernel)
    have hpaged : outcome (fetch.buildPage ⟨3, 20, 0, []⟩ state.engine.catalog) = .ok paged := by
      rw [hpaged]
      rfl
    obtain ⟨count, hcount, hcalls⟩ := hpage paged hpaged
    have hperforms := hcalls.filled 45 rfl (by decide)
    have hrows : ∀ history : List Call, history.length = 2 →
        fetch.allOf (Executor.telling.fetchAll history) = .ok [2] := by
      intro history hlength
      show [(⟨["calls"], [.bigInt (Int64.ofNat history.length)]⟩ : Row)].mapM
        Fetch.countDecoder.decode = .ok [2]
      rw [hlength]
      decide +kernel
    refine ⟨count, paged, hcount, hpaged, ?_, hperforms.history⟩
    rw [hperforms.outcome, hrows _ rfl]
    rfl
  · obtain ⟨hinvalid, hpage, -⟩ := hpages ⟨0, 20, 0, []⟩
    have hperforms := hpage _ (hinvalid _ rfl)
    exact ⟨hperforms.outcome, hperforms.history⟩

end QueryLoom

import QueryLoom.Proofs.OneBody

/-!
# The SET list of an update

An update collects assignments call by call, and NULL plays two parts in that: assigned as a value
it stands for nothing to assign, and assigned explicitly it is bound.  What is absent is dropped
when the call is made, so an update says the same as if the calls that assign an absent value had
never been made, and the calls that are left stand in the SET list one by one.

An update declares no table, so its columns are written without aliases.

## Main definitions

* `Setting`: the calls that collect assignments, and `Setting.entry`, what they stand for.
* `Chain.collecting`: the update that a list of calls makes.
* `Setting.direct`: the statement that calls and a query stand for.

## Main results

* `Chain.exists_collecting`: every update is made by calls.
* `Setting.assignments_call`, `Chain.assignments_collecting`: what one call and a list of them
  assign.
* `Chain.direct_collecting`: the statement of an update.
* `absent_values_are_skipped`: the summary.
-/

namespace QueryLoom

open Step

/-! ## Calls -/

/-- A call on an update whose list of assignments is open. -/
inductive Setting where
  /-- Assign a value. -/
  | value (target : Column) (value : Value)
  /-- Assign NULL. -/
  | null (target : Column)
  /-- Assign another column. -/
  | column (target source : Column)

namespace Setting

/-- The update after one more call. -/
def call (chain : Chain .updating) : Setting → Chain .updating
  | .value target v => chain.set target v
  | .null target => chain.setNull target
  | .column target source => chain.setColumn target source

/-- The call assigns an absent value. -/
def isIdle : Setting → Bool
  | .value _ v => v.isAbsent
  | .null _ | .column _ _ => false

/-- The calls that are left when the idle ones are taken out. -/
def remaining (calls : List Setting) : List Setting := calls.filter fun setting => !setting.isIdle

/-- The assignment that a call is made for. -/
def assignment : Setting → Assignment
  | .value target v => ⟨target, .value v⟩
  | .null target => ⟨target, .value .null⟩
  | .column target source => ⟨target, .column source⟩

/-- The entry of a call in the SET list. -/
def entry : Setting → Except Error String
  | .value target _ | .null target => do
    let target ← target.direct .empty
    pure (target ++ " = ?")
  | .column target source => do
    let target ← target.direct .empty
    let source ← source.direct .empty
    pure (target ++ " = " ++ source)

/-- The values that a call binds. -/
def values : Setting → List Value
  | .value _ v => [v]
  | .null _ => [.null]
  | .column _ _ => []

/-- The statement that updates a table by calls, none of which is idle, where a query holds. -/
def direct (table : TableSource) (calls : List Setting) (query : Query) :
    Except Error BoundStatement := do
  let entries ← calls.mapM entry
  let condition ← query.direct .empty
  pure ⟨joined (["UPDATE", Identifier.quote table.directName, "SET", ", ".intercalate entries] ++
      condition.elim [] fun text => ["WHERE", text]),
    calls.flatMap values ++ query.parameters?.getD [], .rows⟩

variable (setting : Setting) (chain : Chain .updating)

theorem direct_assignment : setting.assignment.direct .empty = setting.entry := by
  cases setting with
  | value target v => rfl
  | null target => rfl
  | column target source => rfl

theorem parameters_assignment : setting.assignment.parameters = setting.values := by
  cases setting with
  | value target v => rfl
  | null target => rfl
  | column target source => rfl

/-- A call appends its assignment, unless it is idle. -/
theorem assignments_call : (setting.call chain).assignments =
    chain.assignments ++ if setting.isIdle then [] else [setting.assignment] := by
  cases setting with
  | value target v =>
      rw [call, Chain.assignments, Assignments.set, isIdle, assignment]
      cases v.isAbsent with
      | true => exact (List.append_nil _).symm
      | false => rfl
  | null target =>
      rw [call, Chain.assignments]
      rfl
  | column target source =>
      rw [call, Chain.assignments]
      rfl

/-- A call does not change which table is updated. -/
theorem updated_call : (setting.call chain).updated = chain.updated := by
  cases setting with
  | value target v => rw [call, Chain.updated]
  | null target => rw [call, Chain.updated]
  | column target source => rw [call, Chain.updated]

end Setting

namespace Chain

/-! ## Updates made by calls -/

/-- The update of a table by a list of calls. -/
def collecting (table : TableSource) (calls : List Setting) : Chain .updating :=
  calls.foldl Setting.call (.update table)

variable (table : TableSource) (calls : List Setting)

/-- One more call is made on the update so far. -/
theorem collecting_concat (setting : Setting) :
    collecting table (calls ++ [setting]) = setting.call (collecting table calls) :=
  List.foldl_concat ..

/-- Every update is made by calls. -/
theorem exists_collecting : (chain : Chain .updating) → ∃ calls,
    chain = collecting chain.updated calls
  | .update table => ⟨[], by rw [updated]; rfl⟩
  | .set chain target v => by
    obtain ⟨calls, hcalls⟩ := exists_collecting chain
    refine ⟨calls ++ [.value target v], ?_⟩
    rw [updated, collecting_concat, ← hcalls]
    rfl
  | .setNull chain target => by
    obtain ⟨calls, hcalls⟩ := exists_collecting chain
    refine ⟨calls ++ [.null target], ?_⟩
    rw [updated, collecting_concat, ← hcalls]
    rfl
  | .setColumn chain target source => by
    obtain ⟨calls, hcalls⟩ := exists_collecting chain
    refine ⟨calls ++ [.column target source], ?_⟩
    rw [updated, collecting_concat, ← hcalls]
    rfl

/-- Calls assign what is left of them without the idle ones. -/
theorem assignments_collecting : (collecting table calls).assignments =
    (Setting.remaining calls).map Setting.assignment := by
  -- the last call is the outermost one of the chain
  induction calls using List.reverseRecOn with
  | nil =>
      rw [collecting, List.foldl_nil, assignments]
      rfl
  | append_singleton calls setting ih =>
      rw [collecting_concat, setting.assignments_call, ih, Setting.remaining, Setting.remaining,
        List.filter_append, List.map_append]
      cases hidle : setting.isIdle with
      | true => simp [hidle]
      | false => simp [hidle]

theorem updated_collecting : (collecting table calls).updated = table := by
  induction calls using List.reverseRecOn with
  | nil => rw [collecting, List.foldl_nil, updated]
  | append_singleton calls setting ih => rw [collecting_concat, setting.updated_call, ih]

/-! ## The statement of an update -/

/-- An update that assigns something has no fault, and declares nothing. -/
theorem updateStatement_of_ne_nil {assignments : Assignments} (h : assignments ≠ []) :
    updateStatement table assignments =
      ⟨[.keyword "UPDATE", .target table, .keyword "SET", .assignments assignments], [], .rows,
        none⟩ := by
  rw [updateStatement, if_neg (by rwa [List.isEmpty_iff])]
  rfl

end Chain

namespace Segment

/-- A SET list that is not empty has an entry for each assignment. -/
theorem directAll_set (scope : Scope) (table : TableSource) {assignments : Assignments}
    (h : assignments ≠ []) :
    directAll scope
        [.keyword "UPDATE", .target table, .keyword "SET", .assignments assignments] = (do
      let entries ← assignments.mapM (Assignment.direct scope.aliases)
      pure (joined ["UPDATE", Identifier.quote table.directName, "SET",
        ", ".intercalate entries])) := by
  have hassigned : assignments.isEmpty = false := by rwa [List.isEmpty_eq_false_iff]
  have hlist : direct scope (.assignments assignments) = (do
      let entries ← assignments.mapM (Assignment.direct scope.aliases)
      pure (some (", ".intercalate entries))) := by
    rw [direct, Assignments.direct, hassigned]
    rfl
  rw [directAll, directAll, directAll, directAll, hlist]
  cases assignments.mapM (Assignment.direct scope.aliases) with
  | error e => rfl
  | ok entries =>
      refine congrArg Except.ok ?_
      show Query.joinText "UPDATE" (Query.joinText _ (Query.joinText "SET"
        (Query.joinText (", ".intercalate entries) ""))) = _
      rw [Query.joinText_empty_right]
      rfl

/-- A clause has a text with its keyword, unless its query is empty. -/
theorem directAll_clause (scope : Scope) (keyword : String) (query : Query) :
    directAll scope (clause keyword query) = (do
      let condition ← query.direct scope.aliases
      pure (condition.elim "" (Query.joinText keyword))) := by
  cases hempty : query.isEmpty with
  | true =>
      rw [clause, Query.direct, hempty]
      rfl
  | false =>
      have hquery : query.direct scope.aliases = (do
          let text ← query.directMembers scope.aliases
          pure (some text)) := by
        rw [Query.direct, hempty]
        rfl
      rw [clause, hempty, hquery]
      show directAll scope [.keyword keyword, .query query] = _
      rw [directAll, directAll, directAll]
      simp only [direct, hquery]
      cases query.directMembers scope.aliases with
      | error e => rfl
      | ok text =>
          exact congrArg (Except.ok <| Query.joinText keyword ·) (Query.joinText_empty_right text)

/-- The text of an update: its table, its SET list, and its query unless that is empty. -/
theorem directAll_update (scope : Scope) (table : TableSource) {assignments : Assignments}
    (h : assignments ≠ []) (query : Query) :
    directAll scope
        ([.keyword "UPDATE", .target table, .keyword "SET", .assignments assignments] ++
          clause "WHERE" query) = (do
      let entries ← assignments.mapM (Assignment.direct scope.aliases)
      let condition ← query.direct scope.aliases
      pure (joined (["UPDATE", Identifier.quote table.directName, "SET",
        ", ".intercalate entries] ++ condition.elim [] fun text => ["WHERE", text]))) := by
  rw [directAll_append, directAll_set scope table h, directAll_clause]
  cases assignments.mapM (Assignment.direct scope.aliases) with
  | error e => rfl
  | ok entries =>
      cases query.direct scope.aliases with
      | error e => rfl
      | ok condition =>
          cases condition with
          | none => exact congrArg Except.ok (Query.joinText_empty_right _)
          | some text =>
              refine congrArg Except.ok ?_
              show Query.joinText (joined _) (Query.joinText "WHERE" text) = _
              simp only [joined, List.cons_append, List.nil_append, Option.elim_some,
                Query.joinText_assoc]

end Segment

namespace Statement

/-- A statement that declares nothing is written without aliases. -/
theorem direct_of_undeclared {statement : Statement} (hfault : statement.fault = none)
    (hdeclares : statement.declarations = []) :
    statement.direct .rows = (do
      let sql ← Segment.directAll ⟨.empty, .full⟩ statement.segments
      pure ⟨sql, statement.segments.flatMap Segment.parameters, statement.result⟩) := by
  have haliases : statement.directAliases = .ok .empty := by
    rw [directAliases, hdeclares]
    rfl
  rw [direct, hfault, haliases]
  rfl

end Statement

namespace Chain

variable (table : TableSource) (calls : List Setting) (query : Query)

/-- The statement of calls depends on what is left of them without the idle ones. -/
theorem statement_collecting : ((collecting table calls).assign.choosing query).statement =
    (updateStatement table ((Setting.remaining calls).map Setting.assignment)).clause
      "WHERE" query := by
  rw [statement, statement, updated_collecting, assignments_collecting]

/-- Its values are those of the calls that are left, followed by those of the query. -/
theorem parameters_collecting :
    ((collecting table calls).assign.choosing query).statement.segments.flatMap Segment.parameters =
      (Setting.remaining calls).flatMap Setting.values ++ query.parameters?.getD [] := by
  rw [parameters_of_statement, parameters, parameters, Assignments.parameters?_getD,
    assignments_collecting, List.flatMap_map]
  simp only [Setting.parameters_assignment]

/-- What calls and a query stand for is what is told of the update, if anything is assigned. -/
theorem direct_collecting (h : Setting.remaining calls ≠ []) :
    ((collecting table calls).assign.choosing query).statement.direct .rows =
      Setting.direct table (Setting.remaining calls) query := by
  have hassigned : (Setting.remaining calls).map Setting.assignment ≠ [] :=
    fun hnone => h (List.map_eq_nil_iff.mp hnone)
  have hentries : ((Setting.remaining calls).map Setting.assignment).mapM
      (Assignment.direct .empty) = (Setting.remaining calls).mapM Setting.entry := by
    rw [List.mapM_map]
    exact congrArg (List.mapM · _) (funext Setting.direct_assignment)
  have hstatement : ((collecting table calls).assign.choosing query).statement =
      ⟨[.keyword "UPDATE", .target table, .keyword "SET", .assignments
          ((Setting.remaining calls).map Setting.assignment)] ++
        Segment.clause "WHERE" query, [], .rows, none⟩ := by
    rw [statement_collecting, Statement.clause_eq_append, updateStatement_of_ne_nil table hassigned]
    rfl
  rw [Statement.direct_of_undeclared (by rw [hstatement]) (by rw [hstatement]),
    parameters_collecting, hstatement, Segment.directAll_update _ table hassigned, hentries,
    Setting.direct]
  simp only [bind_assoc, pure_bind]

end Chain

/-! ## Summary -/

/-- An update is built as if the calls that assign an absent value had never been made.  When no
other call is left it is refused, whatever query follows.  Otherwise its SET list has one entry for
each call that is left, in order, and its values are those of the calls followed by those of the
query. -/
theorem absent_values_are_skipped (table : TableSource) (calls : List Setting) (query : Query) :
    let remaining := Setting.remaining calls
    let statement := ((Chain.collecting table calls).assign.choosing query).statement
    (∀ catalog, statement.build catalog =
      ((Chain.collecting table remaining).assign.choosing query).statement.build catalog) ∧
    (remaining = [] → ∀ catalog,
      outcome (statement.build catalog) = .error (.validation .nothingAssigned)) ∧
    (remaining ≠ [] → ∀ known : Entity → Prop, (∀ e ∈ statement.entities, known e) →
      Tells known (Catalog.Visited known) statement.build
        (Setting.direct table remaining query)) := by
  intro remaining statement
  refine ⟨fun catalog => ?_, fun hnone catalog => ?_, fun hsome known hknown => ?_⟩
  · have hpruned : Setting.remaining remaining = remaining := by
      simp [remaining, Setting.remaining, List.filter_filter]
    show Statement.build (Chain.statement _) catalog = _
    rw [Chain.statement_collecting, Chain.statement_collecting, hpruned]
  · -- the fault of the empty SET list is the first one, so the query does not matter
    have hfault : statement.fault = some .nothingAssigned := by
      show (Chain.statement _).fault = _
      rw [Chain.statement_collecting, Statement.clause_eq_append]
      show (Chain.updateStatement table (remaining.map _)).fault = _
      rw [hnone]
      rfl
    rw [Statement.build, Statement.buildIn, Statement.render_of_fault hfault]
    rfl
  · rw [← Chain.direct_collecting table calls query hsome]
    exact Statement.tells_buildAs hknown (Chain.closed_statement _) .rows

/-- Calls that set a name to nothing, set it to NULL, copy it and set an age. -/
def Setting.onUsers : List Setting :=
  [.value (.field ⟨.user, "name"⟩) (.text ""), .null (.field ⟨.user, "name"⟩),
   .column (.raw "nick") (.field ⟨.user, "name"⟩), .value (.raw "age") (.int 18)]

/-- The user with a number. -/
def Query.numbered (n : Int32) : Query :=
  Query.empty.addCondition .and ⟨.field ⟨.user, "id"⟩, .eq, .value (.int n)⟩

/-- The empty name is skipped and NULL is written; with the empty name alone nothing is left. -/
theorem update_of_users :
    outcome (((Chain.collecting (.entity .user) Setting.onUsers).assign.choosing
      (.numbered 7)).statement.build (.empty 0)) =
        .ok ⟨"UPDATE `user` SET `full_name` = ?, `nick` = `full_name`, " ++
          "`age` = ? WHERE `id` = ?", [.null, .int 18, .int 7], .rows⟩ ∧
    outcome (((Chain.collecting (.entity .user) (Setting.onUsers.take 1)).assign.choosing
      (.numbered 7)).statement.build (.empty 0)) = .error (.validation .nothingAssigned) := by
  obtain ⟨-, -, hwritten⟩ :=
    absent_values_are_skipped (.entity .user) Setting.onUsers (.numbered 7)
  obtain ⟨-, hrefused, -⟩ :=
    absent_values_are_skipped (.entity .user) (Setting.onUsers.take 1) (.numbered 7)
  have hknown : ∀ e ∈ ((Chain.collecting (.entity .user) Setting.onUsers).assign.choosing
      (.numbered 7)).statement.entities, e ∈ [Entity.user, Entity.order] := by
    rw [Chain.statement_collecting]
    decide
  have htells := hwritten (List.cons_ne_nil _ _) _ hknown
  refine ⟨((htells (.empty 0) (.empty 0)).1.eq unambiguous_user_order).trans ?_, hrefused rfl _⟩
  rfl

end QueryLoom

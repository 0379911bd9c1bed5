import QueryLoom.Proofs.Binding

/-!
# The values of a statement

Which values a query, a SET list or a chain binds can be told without rendering it.  Rendering
pushes the values one by one while the text is written; both walks agree, so the values of a built
statement are those of its SET list and of its queries, in the order of the calls.

## Main definitions

* `Query.conditions`: the conditions of a query, depth first and from left to right.
* `Segment.parameters`, `Chain.parameters`: the values of a segment and of a chain.

## Main results

* `Query.binds_render`, `Assignments.binds_render`, `Segment.binds_renderAll`: what rendering
  binds.
* `Chain.params_of_build`: the values of a built statement.
* `rendering_binds_exactly_the_parameters`: the summary.
-/

namespace QueryLoom

open Render

/-! ## Queries -/

/-- The conditions of a query, depth first and from left to right. -/
def Query.conditions : Query → List Condition
  | .empty => []
  | .condition before _ c => before.conditions ++ [c]
  | .nested before _ q => before.conditions ++ q.conditions

/-- The values of a query are those of its conditions, one after the other. -/
theorem Query.parameters_eq_flatMap (query : Query) :
    query.parameters = query.conditions.flatMap fun c => c.parameters?.getD [] := by
  induction query with
  | empty => rfl
  | condition before conjunction c ih =>
      rw [parameters, conditions, List.flatMap_append, ih, List.flatMap_singleton]
  | nested before conjunction q ihBefore ihNested =>
      rw [parameters, conditions, List.flatMap_append, ihBefore, ihNested]

/-- A query without members has no values. -/
theorem Query.parameters?_getD (query : Query) : query.parameters?.getD [] = query.parameters := by
  cases query with
  | empty => rfl
  | condition before conjunction c => rfl
  | nested before conjunction q => rfl

/-- Members are rendered from left to right, and each one binds its own values. -/
theorem Query.binds_renderMembers (query : Query) :
    Binds query.renderMembers query.parameters := by
  induction query with
  | empty => exact Binds.pure ""
  | condition before conjunction c ih =>
      unfold renderMembers parameters
      apply Binds.andThen ih
      intro text
      exact Binds.before c.binds_render fun member => Binds.pure _
  | nested before conjunction q ihBefore ihNested =>
      unfold renderMembers parameters
      apply Binds.andThen ihBefore
      intro text
      exact Binds.before ihNested fun member => Binds.pure _

/-- A query binds its values. -/
theorem Query.binds_render (query : Query) :
    Binds query.render (query.parameters?.getD []) := by
  rw [parameters?_getD]
  unfold render
  by_cases h : query.isEmpty
  · have hnone : query.parameters = [] := by
      cases query with
      | empty => rfl
      | condition before conjunction c => cases h
      | nested before conjunction q => cases h
    rw [if_pos h, hnone]
    exact Binds.pure none
  · rw [if_neg h]
    exact Binds.before query.binds_renderMembers fun text => Binds.pure _

/-- A query has no text exactly when it has no members. -/
theorem Query.render_eq_none_iff {query : Query} {s s' : Session} {text : Option String}
    (h : query.render s = .ok text s') : text = none ↔ query.isEmpty = true := by
  unfold render at h
  by_cases hempty : query.isEmpty
  · rw [if_pos hempty] at h
    obtain ⟨rfl, -⟩ := Step.pure_eq_ok h
    simp [hempty]
  · rw [if_neg hempty] at h
    obtain ⟨written, t, -, h⟩ := Step.bind_eq_ok h
    obtain ⟨rfl, -⟩ := Step.pure_eq_ok h
    simp [hempty]

/-! ## Assignments -/

/-- The values of one assignment. -/
def Assignment.parameters (a : Assignment) : List Value :=
  match a.source with
  | .value v => [v]
  | .column _ => []

theorem Assignments.binds_renderOne (a : Assignment) :
    Binds (Assignments.renderOne a) a.parameters := by
  obtain ⟨target, source⟩ := a
  unfold renderOne Assignment.parameters
  apply Binds.after target.blind_render
  intro column
  cases source with
  | value v => exact Binds.before (Binds.values [v]) fun _ => Binds.pure _
  | column c => exact Binds.after c.blind_render fun _ => Binds.pure _

/-- The values of a SET list are those of its assignments, one after the other. -/
theorem Assignments.parameters?_getD (assignments : Assignments) :
    assignments.parameters?.getD [] = assignments.flatMap Assignment.parameters := by
  have hfilter : ∀ as : List Assignment,
      (as.filterMap fun a => match a.source with
        | .value v => some v
        | .column _ => none) = as.flatMap Assignment.parameters := by
    intro as
    induction as with
    | nil => rfl
    | cons a as ih =>
        obtain ⟨target, source⟩ := a
        cases source with
        | value v => simp only [List.filterMap_cons, List.flatMap_cons, ih]; rfl
        | column c => simp only [List.filterMap_cons, List.flatMap_cons, ih]; rfl
  cases assignments with
  | nil => rfl
  | cons a as => exact hfilter (a :: as)

/-- A SET list binds its values. -/
theorem Assignments.binds_render (assignments : Assignments) :
    Binds assignments.render (assignments.parameters?.getD []) := by
  rw [parameters?_getD]
  unfold render
  by_cases h : assignments.isEmpty
  · have hnil : assignments = [] := List.isEmpty_iff.mp h
    rw [if_pos h, hnil]
    exact Binds.pure none
  · rw [if_neg h]
    exact Binds.before (Binds.mapM binds_renderOne assignments) fun texts => Binds.pure _

/-- A SET list has no text exactly when it has no assignments. -/
theorem Assignments.render_eq_none_iff {assignments : Assignments} {s s' : Session}
    {text : Option String} (h : assignments.render s = .ok text s') :
    text = none ↔ assignments.parameters? = none := by
  unfold render at h
  unfold parameters?
  by_cases hempty : assignments.isEmpty
  · rw [if_pos hempty] at h
    obtain ⟨rfl, -⟩ := Step.pure_eq_ok h
    simp [hempty]
  · rw [if_neg hempty] at h
    obtain ⟨texts, t, -, h⟩ := Step.bind_eq_ok h
    obtain ⟨rfl, -⟩ := Step.pure_eq_ok h
    simp [hempty]

/-! ## Segments -/

namespace Segment

/-- The values of a segment; only queries and SET lists have any. -/
def parameters : Segment → List Value
  | .query q => q.parameters?.getD []
  | .assignments a => a.parameters?.getD []
  | _ => []

theorem blind_unlessUnpaged {text : Render String} (h : Blind text) :
    Blind (unlessUnpaged text) := by
  unfold unlessUnpaged
  refine Blind.look (fun _ _ => rfl) fun session => Blind.ite ?_ (Blind.pure none)
  exact Blind.bind h fun _ => Blind.pure _

/-- Paging has no values. -/
theorem parameters_of_isPaging {segment : Segment} (h : segment.isPaging = true) :
    segment.parameters = [] := by
  cases segment with
  | limit n => rfl
  | offset n => rfl
  | _ => cases h

/-- Whether a segment can have values. -/
def mayBind : Segment → Bool
  | .query _ => true
  | .assignments _ => true
  | _ => false

/-- A segment that cannot have values is blind. -/
theorem blind_render {segment : Segment} (h : segment.mayBind = false) : Blind segment.render := by
  unfold render
  cases segment with
  | keyword text => exact Blind.pure _
  | selection items => exact Blind.bind (SelectItem.blind_renderList items) fun _ => Blind.pure _
  | table t => exact Blind.bind t.blind_render fun _ => Blind.pure _
  | target source => exact Blind.bind source.blind_quotedName fun _ => Blind.pure _
  | join kind => exact Blind.pure _
  | query q => cases h
  | assignments a => cases h
  | groupBy columns =>
      exact Blind.bind (Blind.mapM Column.blind_render columns) fun _ => Blind.pure _
  | orderBy orders =>
      refine blind_unlessUnpaged ?_
      exact Blind.bind (Blind.mapM Order.blind_render orders) fun _ => Blind.pure _
  | limit n => exact blind_unlessUnpaged (Blind.pure _)
  | offset n => exact blind_unlessUnpaged (Blind.pure _)

/-- A segment binds its values in every mode; the ones left out for a count have none. -/
theorem binds_render (segment : Segment) : Binds segment.render segment.parameters := by
  cases segment with
  | query q => exact q.binds_render
  | assignments a => exact a.binds_render
  | _ => exact (blind_render rfl).binds

/-- Segments bind their values in order. -/
theorem binds_renderAll (segments : List Segment) (before : String) :
    Binds (renderAll before segments) (segments.flatMap parameters) := by
  induction segments generalizing before with
  | nil => exact Binds.pure before
  | cons segment rest ih =>
      unfold renderAll
      rw [List.flatMap_cons]
      exact Binds.andThen segment.binds_render fun text => ih _

end Segment

/-! ## Statements -/

namespace Statement

/-- A statement binds the values of its segments; declaring tables binds nothing. -/
theorem binds_render (statement : Statement) :
    Binds statement.render (statement.segments.flatMap Segment.parameters) := by
  intro s sql s' h
  obtain ⟨-, us, t, vs, u, hexplicit, himplicit, hsegments⟩ := render_eq_ok h
  have hfirst := (Blind.mapM Declaration.blind_declareExplicit _).binds s us t hexplicit
  have hsecond := (Blind.mapM Declaration.blind_declareImplicit _).binds t vs u himplicit
  have hrest := Segment.binds_renderAll statement.segments "" u sql s' hsegments
  rw [hrest, hsecond, hfirst, List.append_nil, List.append_nil]

/-- A session starts without values, so a built statement has those of its segments. -/
theorem params_of_buildIn {statement : Statement} {mode : Mode} {catalog catalog' : Catalog}
    {bound : BoundStatement} (h : statement.buildIn mode catalog = .ok bound catalog') :
    bound.params = statement.segments.flatMap Segment.parameters := by
  obtain ⟨session, hrender, hparams, -, -⟩ := buildIn_eq_ok h
  have hbinds := statement.binds_render _ _ _ hrender
  rw [hparams, hbinds]
  rfl

section Calls

variable (statement : Statement) {β : Type} {f : Segment → List β}

/-- A clause contributes what its query contributes. -/
theorem flatMap_clause (keyword : String) (query : Query) (hkeyword : f (.keyword keyword) = [])
    (hempty : f (.query .empty) = []) :
    (statement.clause keyword query).segments.flatMap f =
      statement.segments.flatMap f ++ f (.query query) := by
  unfold clause
  cases query with
  | empty => exact (List.append_nil _).symm.trans (congrArg _ hempty.symm)
  | _ => simp [Query.isEmpty, append, hkeyword]

/-- A count of rows contributes nothing. -/
theorem flatMap_paging (n : Int) {segment : Nat → Segment} (hnone : ∀ n, f (segment n) = [])
    (fault : Int → ValidationFault) :
    (Chain.paging statement n segment fault).segments.flatMap f =
      statement.segments.flatMap f := by
  cases n with
  | ofNat n => simp [Chain.paging, append, hnone]
  | negSucc n => rfl

/-- A segment that is left out when it is empty contributes the same either way. -/
theorem flatMap_unless (leftOut : Bool) (segment : Segment)
    (hnone : leftOut = true → f segment = []) :
    (if leftOut then statement else statement.append [segment]).segments.flatMap f =
      statement.segments.flatMap f ++ f segment := by
  cases leftOut with
  | true => exact (List.append_nil _).symm.trans (congrArg _ (hnone rfl).symm)
  | false => simp [append]

end Calls

/-- Replacing the paging of a statement changes nothing that paging contributes nothing to. -/
theorem flatMap_paged (statement : Statement) (size offset : Nat) {β : Type}
    {f : Segment → List β} (hnone : ∀ segment, segment.isPaging = true → f segment = []) :
    (statement.paged size offset).segments.flatMap f = statement.segments.flatMap f := by
  have hfilter : ∀ segments : List Segment,
      (segments.filter fun s => !s.isPaging).flatMap f = segments.flatMap f := by
    intro segments
    induction segments with
    | nil => rfl
    | cons segment rest ih =>
        by_cases hpaging : segment.isPaging
        · simp [hpaging, ih, hnone segment hpaging]
        · simp [hpaging, ih]
  unfold paged
  rw [List.flatMap_append, hfilter]
  simp [hnone (.limit size) rfl, hnone (.offset offset) rfl]

/-- What holds of the segments of a statement, and of paging, holds of the segments of a page. -/
theorem forall_paged {statement : Statement} {P : Segment → Prop}
    (h : ∀ segment ∈ statement.segments, P segment)
    (hpaging : ∀ segment : Segment, segment.isPaging = true → P segment) (size offset : Nat) :
    ∀ segment ∈ (statement.paged size offset).segments, P segment := by
  intro segment hsegment
  rcases List.mem_append.mp hsegment with hkept | hadded
  · exact h segment (List.mem_filter.mp hkept).1
  · rcases List.mem_cons.mp hadded with rfl | hlast
    · exact hpaging _ rfl
    · rw [List.mem_singleton.mp hlast]
      exact hpaging _ rfl

/-- Replacing the paging of a statement changes none of its values. -/
theorem parameters_of_paged (statement : Statement) (size offset : Nat) :
    (statement.paged size offset).segments.flatMap Segment.parameters =
      statement.segments.flatMap Segment.parameters :=
  statement.flatMap_paged size offset fun _ h => Segment.parameters_of_isPaging h

/-- All statements of one chain bind the same values. -/
theorem params_of_buildAs {statement : Statement} {form : Form} {catalog catalog' : Catalog}
    {bound : BoundStatement} (h : statement.buildAs form catalog = .ok bound catalog') :
    bound.params = statement.segments.flatMap Segment.parameters := by
  cases form with
  | rows => exact params_of_buildIn h
  | count =>
      rcases buildCount_eq_ok h with hplain | ⟨body, hbody, rfl⟩
      · exact params_of_buildIn hplain
      · have hparams := params_of_buildIn hbody
        exact hparams
  | page size offset =>
      rw [← statement.parameters_of_paged size offset]
      exact params_of_buildIn h

end Statement

/-! ## Chains -/

namespace Chain

/-- The values of a chain: those of its SET list, once that is closed, and of its ON, WHERE and
HAVING queries, in the order of the calls. -/
def parameters : {s : Stage} → Chain s → List Value
  | _, .select _ => []
  | _, .fromTable chain _ => chain.parameters
  | _, .join chain _ _ => chain.parameters
  | _, .on chain query => chain.parameters ++ query.parameters?.getD []
  | _, .unconditioned chain => chain.parameters
  | _, .matching chain query => chain.parameters ++ query.parameters?.getD []
  | _, .groupBy _ chain _ => chain.parameters
  | _, .having chain query => chain.parameters ++ query.parameters?.getD []
  | _, .order _ chain _ => chain.parameters
  | _, .limit _ chain _ => chain.parameters
  | _, .offset _ chain _ => chain.parameters
  | _, .update _ => []
  | _, .set chain _ _ => chain.parameters
  | _, .setNull chain _ => chain.parameters
  | _, .setColumn chain _ _ => chain.parameters
  | _, .assign chain => chain.assignments.parameters?.getD []
  | _, .choosing chain query => chain.parameters ++ query.parameters?.getD []

/-- The segments of a chain have the values of the chain. -/
theorem parameters_of_statement {s : Stage} (chain : Chain s) :
    chain.statement.segments.flatMap Segment.parameters = chain.parameters := by
  have hclause : ∀ (statement : Statement) (keyword : String) (query : Query),
      (statement.clause keyword query).segments.flatMap Segment.parameters =
        statement.segments.flatMap Segment.parameters ++ query.parameters?.getD [] :=
    fun statement keyword query => statement.flatMap_clause keyword query rfl rfl
  induction chain with
  | select items => rfl
  | fromTable chain table ih =>
      simp [statement, Statement.append, Statement.declare, Segment.parameters, parameters, ih]
  | join chain kind table ih =>
      simp [statement, Statement.append, Statement.declare, Segment.parameters, parameters, ih]
  | on chain query ih => rw [statement, hclause, ih, parameters]
  | unconditioned chain ih => rw [statement, ih, parameters]
  | matching chain query ih => rw [statement, hclause, ih, parameters]
  | groupBy groupable chain columns ih =>
      rw [statement, Statement.flatMap_unless _ _ _ fun _ => rfl, ih, parameters]
      exact List.append_nil _
  | having chain query ih => rw [statement, hclause, ih, parameters]
  | order orderable chain orders ih =>
      rw [statement, Statement.flatMap_unless _ _ _ fun _ => rfl, ih, parameters]
      exact List.append_nil _
  | limit limitable chain n ih =>
      rw [statement, Statement.flatMap_paging _ _ fun _ => rfl, ih, parameters]
  | offset limitable chain n ih =>
      rw [statement, Statement.flatMap_paging _ _ fun _ => rfl, ih, parameters]
  | update table => rfl
  | set chain target value ih => rw [statement, ih, parameters]
  | setNull chain target ih => rw [statement, ih, parameters]
  | setColumn chain target source ih => rw [statement, ih, parameters]
  | assign chain ih =>
      rw [statement, parameters]
      unfold updateStatement
      by_cases h : chain.assignments.isEmpty
      · simp [h, Statement.append, Statement.fail, Statement.empty, Segment.parameters]
      · simp [h, Statement.append, Statement.empty, Segment.parameters]
  | choosing chain query ih => rw [statement, hclause, ih, parameters]

/-- A built statement has the values of its chain, whichever of the three it is. -/
theorem params_of_build {s : Stage} {chain : Chain s} {form : Form} {catalog catalog' : Catalog}
    {bound : BoundStatement} (h : chain.statement.buildAs form catalog = .ok bound catalog') :
    bound.params = chain.parameters := by
  rw [Statement.params_of_buildAs h, parameters_of_statement]

end Chain

/-! ## Summary -/

/-- Rendering binds exactly the values that can be told beforehand.  A query or a SET list appends
its values, those of its conditions or assignments in order, to the ones bound before, and it has
text exactly when it has values to tell.  A built statement has the values of its SET list and of
its ON, WHERE and HAVING queries in the order of the calls, and no others. -/
theorem rendering_binds_exactly_the_parameters :
    (∀ (query : Query) (session session' : Session) (text : Option String),
      query.render session = .ok text session' →
        session'.params = session.params ++ query.parameters?.getD [] ∧
        (text = none ↔ query.parameters? = none) ∧ (text = none ↔ query.isEmpty = true)) ∧
    (∀ query : Query, query.parameters?.getD [] =
      query.conditions.flatMap fun c => c.parameters?.getD []) ∧
    (∀ (assignments : Assignments) (session session' : Session) (text : Option String),
      assignments.render session = .ok text session' →
        session'.params = session.params ++ assignments.parameters?.getD [] ∧
        (text = none ↔ assignments.parameters? = none)) ∧
    (∀ (stage : Stage) (chain : Chain stage) (catalog catalog' : Catalog)
        (bound : BoundStatement),
      chain.statement.build catalog = .ok bound catalog' → bound.params = chain.parameters) := by
  refine ⟨?_, ?_, ?_, ?_⟩
  · intro query session session' text h
    have hempty := Query.render_eq_none_iff h
    refine ⟨query.binds_render session text session' h, ?_, hempty⟩
    rw [hempty]
    unfold Query.parameters?
    by_cases hq : query.isEmpty <;> simp [hq]
  · intro query
    rw [query.parameters?_getD, query.parameters_eq_flatMap]
  · intro assignments session session' text h
    exact ⟨assignments.binds_render session text session' h,
      Assignments.render_eq_none_iff h⟩
  · intro stage chain catalog catalog' bound h
    have hrows : chain.statement.buildAs .rows catalog = .ok bound catalog' := h
    exact Chain.params_of_build hrows

/-- Orders with their users: a join with a bound condition, and a nested query with a range and an
empty list. -/
def Chain.ordersOfUsers : Chain .filtered :=
  .matching
    (.on (.join (.fromTable (.select []) ⟨.named "users", none⟩) .left ⟨.named "orders", some "o"⟩)
      (Query.empty.addCondition .and ⟨.raw "o.kind", .like, .value (.text "x")⟩))
    ((Query.empty.addCondition .and ⟨.raw "o.id", .isIn, .list [.int 1, .int 2]⟩).addQuery .or
      ((Query.empty.addCondition .and
          ⟨.raw "users.age", .between, .range (.int 3) (.int 4)⟩).addCondition .and
        ⟨.raw "o.id", .notIn, .list []⟩))

/-- The orders bind the values of the join and then those of the rows; the empty list stands for a
constant and binds nothing. -/
theorem parameters_of_ordersOfUsers :
    ∃ bound catalog', Chain.ordersOfUsers.statement.build (.empty 5) = .ok bound catalog' ∧
      bound.params = [.text "x", .int 1, .int 2, .int 3, .int 4] := by
  obtain ⟨bound, catalog', hbuild⟩ : ∃ bound catalog',
      Chain.ordersOfUsers.statement.build (.empty 5) = .ok bound catalog' :=
    Step.exists_of_succeeds (by decide +kernel)
  refine ⟨bound, catalog', hbuild, ?_⟩
  exact rendering_binds_exactly_the_parameters.2.2.2 _ Chain.ordersOfUsers (.empty 5) _ _ hbuild

end QueryLoom

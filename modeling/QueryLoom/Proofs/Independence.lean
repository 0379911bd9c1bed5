import QueryLoom.Proofs.Replacement

/-!
# Bound values never reach the text

Let two chains of calls differ only in the values that they bind.  Whichever statement of them is
built, both have the same text and values that correspond, or both fail with the same error.

## Main definitions

* `Segment.Alike`, `Statement.Alike`, `Chain.Alike`: equal up to replaced values.
* `BuildsSame`: what is compared of two built statements.

## Main results

* `Statement.Alike.buildAs`: statements that are alike are built alike.
* `Chain.Alike.statement`: chains that are alike stand for statements that are alike.
* `values_never_reach_the_text`: the summary.
-/

namespace QueryLoom

open Render

variable {ρ : Value → Value → Prop}

/-! ## Segments and statements -/

/-- Segments that are equal but for replaced values. -/
inductive Segment.Alike (ρ : Value → Value → Prop) : Segment → Segment → Prop where
  | same (segment : Segment) (h : segment.mayBind = false) : Alike ρ segment segment
  | query {q r : Query} (h : q.Alike ρ r) : Alike ρ (.query q) (.query r)
  | assignments {as bs : Assignments} (h : List.Forall₂ (Assignment.Alike ρ) as bs) :
      Alike ρ (.assignments as) (.assignments bs)

namespace Segment.Alike

theorem agree {a b : Segment} (h : a.Alike ρ b) : Agree ρ a.render b.render := by
  cases h with
  | same segment h => exact (blind_render h).agree
  | query h => exact h.agree_render
  | assignments h => exact Assignments.agree_render h

/-- Which segments group rows or page them does not depend on values. -/
theorem kind_eq {a b : Segment} (h : a.Alike ρ b) :
    a.isGrouping = b.isGrouping ∧ a.isPaging = b.isPaging := by
  cases h with
  | same segment h => exact ⟨rfl, rfl⟩
  | query h => exact ⟨rfl, rfl⟩
  | assignments h => exact ⟨rfl, rfl⟩

end Segment.Alike

theorem Segment.any_isGrouping_eq {as bs : List Segment}
    (h : List.Forall₂ (Segment.Alike ρ) as bs) : as.any isGrouping = bs.any isGrouping := by
  induction h with
  | nil => rfl
  | cons head tail ih => simp only [List.any_cons, head.kind_eq.1, ih]

/-- Segments that are alike do the same, one after the other. -/
theorem Segment.agree_renderAll {as bs : List Segment}
    (h : List.Forall₂ (Segment.Alike ρ) as bs) (before : String) :
    Agree ρ (renderAll before as) (renderAll before bs) := by
  induction h generalizing before with
  | nil => exact Agree.pure before
  | cons head tail ih =>
      unfold renderAll
      exact Agree.bind head.agree fun text => ih _

/-- Statements whose segments are equal but for replaced values. -/
structure Statement.Alike (ρ : Value → Value → Prop) (a b : Statement) : Prop where
  segments : List.Forall₂ (Segment.Alike ρ) a.segments b.segments
  declarations : a.declarations = b.declarations
  result : a.result = b.result
  fault : a.fault = b.fault

/-- Two statements are built to the same text, with values that correspond, or fail with the same
error.  Either way they leave the same catalog. -/
inductive BuildsSame (ρ : Value → Value → Prop) :
    EStateM.Result Error Catalog BoundStatement →
      EStateM.Result Error Catalog BoundStatement → Prop where
  | ok (sql : String) {vs ws : List Value} (h : List.Forall₂ (Value.Turns ρ) vs ws)
      (result : ResultType) (catalog : Catalog) :
      BuildsSame ρ (.ok ⟨sql, vs, result⟩ catalog) (.ok ⟨sql, ws, result⟩ catalog)
  | error (e : Error) (catalog : Catalog) : BuildsSame ρ (.error e catalog) (.error e catalog)

namespace Statement.Alike

theorem agree_render {a b : Statement} (h : a.Alike ρ b) : Agree ρ a.render b.render := by
  unfold Statement.render
  rw [← h.fault, ← h.declarations]
  cases a.fault with
  | some fault => exact (Blind.throw _).agree
  | none =>
      apply Agree.bind (Blind.mapM Declaration.blind_declareExplicit _).agree
      intro _
      apply Agree.bind (Blind.mapM Declaration.blind_declareImplicit _).agree
      intro _
      exact Segment.agree_renderAll h.segments ""

theorem buildIn {a b : Statement} (h : a.Alike ρ b) (mode : Mode) (catalog : Catalog) :
    BuildsSame ρ (a.buildIn mode catalog) (b.buildIn mode catalog) := by
  have hstart := Session.Alike.refl ρ (Session.start mode catalog)
  unfold Statement.buildIn
  rcases h.agree_render.outcome hstart with ⟨sql, s, t, ha, hb, hst⟩ | ⟨e, s, t, ha, hb, hst⟩
  · have hclose : s.close = t.close := by
      rw [hst.same]
      rfl
    rw [ha, hb]
    simp only [h.result, hclose]
    exact .ok sql hst.params b.result t.close
  · have hclose : s.close = t.close := by
      rw [hst.same]
      rfl
    rw [ha, hb]
    simp only [hclose]
    exact .error e t.close

/-- Both are counted in the same way. -/
theorem buildCount {a b : Statement} (h : a.Alike ρ b) (catalog : Catalog) :
    BuildsSame ρ (a.buildCount catalog) (b.buildCount catalog) := by
  unfold Statement.buildCount
  rw [Segment.any_isGrouping_eq h.segments]
  by_cases hgroups : b.segments.any Segment.isGrouping
  · rw [if_pos hgroups, if_pos hgroups]
    have hbody := h.buildIn .unpaged catalog
    show BuildsSame ρ (EStateM.bind (a.buildIn .unpaged) _ catalog)
      (EStateM.bind (b.buildIn .unpaged) _ catalog)
    unfold EStateM.bind
    generalize a.buildIn .unpaged catalog = r at hbody
    generalize b.buildIn .unpaged catalog = r' at hbody
    cases hbody with
    | ok sql hparams result catalog => exact .ok _ hparams result catalog
    | error e catalog => exact .error e catalog
  · rw [if_neg hgroups, if_neg hgroups]
    exact h.buildIn .count catalog

/-- Replacing the paging keeps statements alike. -/
theorem paged {a b : Statement} (h : a.Alike ρ b) (size offset : Nat) :
    (a.paged size offset).Alike ρ (b.paged size offset) := by
  have hlimit : Segment.Alike ρ (.limit size) (.limit size) :=
    .same _ rfl
  have hoffset : Segment.Alike ρ (.offset offset) (.offset offset) :=
    .same _ rfl
  have hkept : List.Forall₂ (Segment.Alike ρ) (a.segments.filter fun s => !s.isPaging)
      (b.segments.filter fun s => !s.isPaging) := by
    refine List.rel_filter (fun s t hst => ?_) h.segments
    simp only [hst.kind_eq.2]
  exact ⟨List.rel_append hkept (.cons hlimit (.cons hoffset .nil)), h.declarations, h.result,
    h.fault⟩

/-- Whichever statement is built, both are built alike. -/
theorem buildAs {a b : Statement} (h : a.Alike ρ b) (form : Form) (catalog : Catalog) :
    BuildsSame ρ (a.buildAs form catalog) (b.buildAs form catalog) := by
  cases form with
  | rows => exact h.buildIn .full catalog
  | count => exact h.buildCount catalog
  | page size offset => exact (h.paged size offset).buildIn .full catalog

end Statement.Alike

/-! ## Chains -/

/-- Chains of the same calls but for replaced values. -/
inductive Chain.Alike (ρ : Value → Value → Prop) : {s : Stage} → Chain s → Chain s → Prop where
  | select (items : List SelectItem) : Alike ρ (.select items) (.select items)
  | fromTable {c d : Chain .selected} (h : Alike ρ c d) (table : TableRef) :
      Alike ρ (.fromTable c table) (.fromTable d table)
  | join {c d : Chain .tabled} (h : Alike ρ c d) (kind : JoinKind) (table : TableRef) :
      Alike ρ (.join c kind table) (.join d kind table)
  | on {c d : Chain .joined} (h : Alike ρ c d) {q r : Query} (hquery : q.Alike ρ r) :
      Alike ρ (.on c q) (.on d r)
  | unconditioned {c d : Chain .joined} (h : Alike ρ c d) :
      Alike ρ (.unconditioned c) (.unconditioned d)
  | matching {c d : Chain .tabled} (h : Alike ρ c d) {q r : Query} (hquery : q.Alike ρ r) :
      Alike ρ (.matching c q) (.matching d r)
  | groupBy {s : Stage} (groupable : s.groupable = true) {c d : Chain s} (h : Alike ρ c d)
      (columns : List Column) :
      Alike ρ (.groupBy groupable c columns) (.groupBy groupable d columns)
  | having {c d : Chain .grouped} (h : Alike ρ c d) {q r : Query} (hquery : q.Alike ρ r) :
      Alike ρ (.having c q) (.having d r)
  | order {s : Stage} (orderable : s.orderable = true) {c d : Chain s} (h : Alike ρ c d)
      (orders : List Order) : Alike ρ (.order orderable c orders) (.order orderable d orders)
  | limit {s : Stage} (limitable : s.limitable = true) {c d : Chain s} (h : Alike ρ c d)
      (n : Int) : Alike ρ (.limit limitable c n) (.limit limitable d n)
  | offset {s : Stage} (limitable : s.limitable = true) {c d : Chain s} (h : Alike ρ c d)
      (n : Int) : Alike ρ (.offset limitable c n) (.offset limitable d n)
  | update (table : TableSource) : Alike ρ (.update table) (.update table)
  | set {c d : Chain .updating} (h : Alike ρ c d) (target : Column) {v w : Value}
      (hvalue : v.Stands ρ w) : Alike ρ (.set c target v) (.set d target w)
  | setNull {c d : Chain .updating} (h : Alike ρ c d) (target : Column) :
      Alike ρ (.setNull c target) (.setNull d target)
  | setColumn {c d : Chain .updating} (h : Alike ρ c d) (target source : Column) :
      Alike ρ (.setColumn c target source) (.setColumn d target source)
  | assign {c d : Chain .updating} (h : Alike ρ c d) : Alike ρ (.assign c) (.assign d)
  | choosing {c d : Chain .assigned} (h : Alike ρ c d) {q r : Query} (hquery : q.Alike ρ r) :
      Alike ρ (.choosing c q) (.choosing d r)

/-- What is compared of two updates whose lists of assignments are open. -/
private def Chain.Opened (ρ : Value → Value → Prop) : {s : Stage} → Chain s → Chain s → Prop
  | .updating, c, d => c.updated = d.updated ∧
      List.Forall₂ (Assignment.Alike ρ) c.assignments d.assignments
  | _, _, _ => True

namespace Statement.Alike

theorem append {a b : Statement} (h : a.Alike ρ b) {ss ts : List Segment}
    (hsegments : List.Forall₂ (Segment.Alike ρ) ss ts) : (a.append ss).Alike ρ (b.append ts) :=
  ⟨List.rel_append h.segments hsegments, h.declarations, h.result, h.fault⟩

theorem declare {a b : Statement} (h : a.Alike ρ b) (declarations : List Declaration) :
    (a.declare declarations).Alike ρ (b.declare declarations) :=
  ⟨h.segments, congrArg (· ++ declarations) h.declarations, h.result, h.fault⟩

theorem fail {a b : Statement} (h : a.Alike ρ b) (fault : ValidationFault) :
    (a.fail fault).Alike ρ (b.fail fault) :=
  ⟨h.segments, h.declarations, h.result, congrArg (·.or (some fault)) h.fault⟩

theorem clause {a b : Statement} (h : a.Alike ρ b) (keyword : String) {q r : Query}
    (hquery : q.Alike ρ r) : (a.clause keyword q).Alike ρ (b.clause keyword r) := by
  have hkeyword : Segment.Alike ρ (.keyword keyword) (.keyword keyword) :=
    .same _ rfl
  unfold Statement.clause
  rw [hquery.length_eq.2]
  by_cases hempty : r.isEmpty
  · rw [if_pos hempty, if_pos hempty]
    exact h
  · rw [if_neg hempty, if_neg hempty]
    exact h.append (.cons hkeyword (.cons (.query hquery) .nil))

end Statement.Alike

namespace Chain.Alike

/-- Updates that are alike have the same table and assign the same but for replaced values. -/
private theorem opened {s : Stage} {c d : Chain s} (h : c.Alike ρ d) : Chain.Opened ρ c d := by
  induction h with
  | update table =>
      simp only [Chain.Opened, Chain.updated, Chain.assignments]
      exact ⟨trivial, .nil⟩
  | @set c d h target v w hvalue ih =>
      obtain ⟨htable, hassignments⟩ := ih
      simp only [Chain.Opened, Chain.updated, Chain.assignments, Assignments.set]
      refine ⟨htable, ?_⟩
      rw [hvalue.absent]
      by_cases habsent : w.isAbsent
      · rw [if_pos habsent, if_pos habsent]
        exact hassignments
      · rw [if_neg habsent, if_neg habsent]
        exact List.rel_append hassignments (.cons (.value target hvalue.turns) .nil)
  | setNull h target ih =>
      obtain ⟨htable, hassignments⟩ := ih
      have hnull : Value.Turns ρ .null .null := .inl rfl
      simp only [Chain.Opened, Chain.updated, Chain.assignments, Assignments.setNull]
      exact ⟨htable, List.rel_append hassignments (.cons (.value target hnull) .nil)⟩
  | setColumn h target source ih =>
      obtain ⟨htable, hassignments⟩ := ih
      simp only [Chain.Opened, Chain.updated, Chain.assignments, Assignments.setColumn]
      exact ⟨htable, List.rel_append hassignments (.cons (.column target source) .nil)⟩
  | _ => trivial

private theorem selection_eq {c d : Chain .selected} (h : c.Alike ρ d) :
    c.selection = d.selection := by
  cases h
  rfl

private theorem statement_paging {a b : Statement} (h : a.Alike ρ b) (n : Int)
    (segment : Nat → Segment) (hsegment : ∀ n, Segment.Alike ρ (segment n) (segment n))
    (fault : Int → ValidationFault) :
    (Chain.paging a n segment fault).Alike ρ (Chain.paging b n segment fault) := by
  cases n with
  | ofNat n => exact h.append (.cons (hsegment n) .nil)
  | negSucc n => exact h.fail _

private theorem statement_update {table table' : TableSource} {as bs : Assignments}
    (htable : table = table') (h : List.Forall₂ (Assignment.Alike ρ) as bs) :
    (Chain.updateStatement table as).Alike ρ (Chain.updateStatement table' bs) := by
  have hempty : as.isEmpty = bs.isEmpty := by
    cases h with
    | nil => rfl
    | cons head tail => rfl
  have hstart : (if as.isEmpty then Statement.empty.fail .nothingAssigned
      else Statement.empty).Alike ρ (if bs.isEmpty then Statement.empty.fail .nothingAssigned
      else Statement.empty) := by
    rw [hempty]
    by_cases hb : bs.isEmpty
    · rw [if_pos hb]
      exact ⟨.nil, rfl, rfl, rfl⟩
    · rw [if_neg hb]
      exact ⟨.nil, rfl, rfl, rfl⟩
  have hupdate : Segment.Alike ρ (.keyword "UPDATE") (.keyword "UPDATE") := .same _ rfl
  have htarget : Segment.Alike ρ (.target table) (.target table') := htable ▸ .same _ rfl
  have hset : Segment.Alike ρ (.keyword "SET") (.keyword "SET") := .same _ rfl
  exact hstart.append (.cons hupdate (.cons htarget (.cons hset (.cons (.assignments h) .nil))))

/-- Chains that are alike stand for statements that are alike. -/
theorem statement {s : Stage} {c d : Chain s} (h : c.Alike ρ d) :
    c.statement.Alike ρ d.statement := by
  have hempty : Statement.empty.Alike ρ Statement.empty := ⟨.nil, rfl, rfl, rfl⟩
  induction h with
  | select items =>
      have hselect : Segment.Alike ρ (.keyword "SELECT") (.keyword "SELECT") := .same _ rfl
      exact (hempty.append (.cons hselect .nil)).declare _
  | @fromTable c d h table ih =>
      have hitems : Segment.Alike ρ (.selection d.selection) (.selection d.selection) := .same _ rfl
      have hfrom : Segment.Alike ρ (.keyword "FROM") (.keyword "FROM") := .same _ rfl
      have htable : Segment.Alike ρ (.table table) (.table table) := .same _ rfl
      have hnamed := (ih.append (.cons hitems (.cons hfrom (.cons htable .nil)))).declare
        [.table table]
      simp only [Chain.statement, selection_eq h]
      exact ⟨hnamed.segments, hnamed.declarations, rfl, hnamed.fault⟩
  | join h kind table ih =>
      have hjoin : Segment.Alike ρ (.join kind) (.join kind) := .same _ rfl
      have htable : Segment.Alike ρ (.table table) (.table table) := .same _ rfl
      exact (ih.append (.cons hjoin (.cons htable .nil))).declare _
  | on h hquery ih => exact ih.clause "ON" hquery
  | unconditioned h ih => exact ih
  | matching h hquery ih => exact ih.clause "WHERE" hquery
  | groupBy groupable h columns ih =>
      have hgroup : Segment.Alike ρ (.groupBy columns) (.groupBy columns) := .same _ rfl
      rw [Chain.statement, Chain.statement]
      by_cases hnone : columns.isEmpty
      · rw [if_pos hnone, if_pos hnone]
        exact ih
      · rw [if_neg hnone, if_neg hnone]
        exact ih.append (.cons hgroup .nil)
  | having h hquery ih => exact ih.clause "HAVING" hquery
  | order orderable h orders ih =>
      have horder : Segment.Alike ρ (.orderBy orders) (.orderBy orders) := .same _ rfl
      rw [Chain.statement, Chain.statement]
      by_cases hnone : orders.isEmpty
      · rw [if_pos hnone, if_pos hnone]
        exact ih
      · rw [if_neg hnone, if_neg hnone]
        exact ih.append (.cons horder .nil)
  | limit limitable h n ih =>
      exact statement_paging ih n .limit (fun _ => .same _ rfl) _
  | offset limitable h n ih =>
      exact statement_paging ih n .offset (fun _ => .same _ rfl) _
  | update table => exact hempty
  | set h target hvalue ih => exact ih
  | setNull h target ih => exact ih
  | setColumn h target source ih => exact ih
  | @assign c d h ih =>
      exact statement_update (opened h).1 (opened h).2
  | choosing h hquery ih => exact ih.clause "WHERE" hquery

end Chain.Alike

/-! ## Summary -/

/-- Let two chains of the same calls differ only in values, which stay absent or present as they
were and stand in lists of the same length.  From the same catalog they are built to the same text,
and their parameters, which are those of the chains, correspond one by one; or both fail with the
same error. -/
theorem values_never_reach_the_text {stage : Stage} {chain chain' : Chain stage}
    (h : chain.Alike ρ chain') (form : Form) (catalog : Catalog) :
    (∃ bound bound' catalog', chain.statement.buildAs form catalog = .ok bound catalog' ∧
        chain'.statement.buildAs form catalog = .ok bound' catalog' ∧
        bound.sql = bound'.sql ∧ bound.result = bound'.result ∧
        bound.params.length = bound'.params.length ∧
        List.Forall₂ (Value.Turns ρ) bound.params bound'.params ∧
        bound.params = chain.parameters ∧ bound'.params = chain'.parameters) ∨
      ∃ e catalog', chain.statement.buildAs form catalog = .error e catalog' ∧
        chain'.statement.buildAs form catalog = .error e catalog' := by
  have hbuilds := h.statement.buildAs form catalog
  generalize hr : chain.statement.buildAs form catalog = r at hbuilds
  generalize hr' : chain'.statement.buildAs form catalog = r' at hbuilds
  cases hbuilds with
  | ok sql hparams result catalog' =>
      exact .inl ⟨_, _, catalog', rfl, rfl, rfl, rfl, hparams.length_eq, hparams,
        Chain.params_of_build hr, Chain.params_of_build hr'⟩
  | error e catalog' => exact .inr ⟨e, catalog', rfl, rfl⟩

/-- A search for orders by a pattern, among given ones. -/
def Chain.searching (pattern : Value) (ids : List Value) : Chain .filtered :=
  .matching (.fromTable (.select []) ⟨.named "orders", some "o"⟩)
    ((Query.empty.addCondition .and ⟨.raw "o.title", .like, .value pattern⟩).addQuery .or
      ((Query.empty.addCondition .and ⟨.raw "o.id", .isIn, .list ids⟩).addCondition .and
        ⟨.raw "o.owner", .eq, .column (.raw "o.buyer")⟩))

/-- A pattern that looks like the end of a statement changes nothing. -/
theorem text_of_searching :
    ∃ bound bound' catalog',
      (Chain.searching (.text "pen") [.int 1, .int 2]).statement.build (.empty 5) =
        .ok bound catalog' ∧
      (Chain.searching (.text "'; DROP TABLE orders; --") [.null, .bool true]).statement.build
        (.empty 5) = .ok bound' catalog' ∧
      bound.sql = bound'.sql := by
  have hpattern : Value.Stands (fun _ _ => True) (.text "pen") (.text "'; DROP TABLE orders; --") :=
    ⟨.inr trivial, rfl⟩
  have hids : List.Forall₂ (Value.Turns fun _ _ => True) [.int 1, .int 2] [.null, .bool true] :=
    .cons (.inr trivial) (.cons (.inr trivial) .nil)
  have halike : Chain.Alike (fun _ _ => True) (Chain.searching (.text "pen") [.int 1, .int 2])
      (Chain.searching (.text "'; DROP TABLE orders; --") [.null, .bool true]) := by
    unfold Chain.searching
    refine .matching (.fromTable (.select []) _) (.addQuery .or ?_ ?_)
    · exact .addCondition .and .empty ⟨rfl, rfl, .value hpattern⟩
    · refine .addCondition .and (.addCondition .and .empty ?_) ?_
      · exact ⟨rfl, rfl, .list hids⟩
      · exact ⟨rfl, rfl, .column (.raw "o.buyer")⟩
  obtain ⟨found, t, hfound⟩ : ∃ bound catalog',
      (Chain.searching (.text "pen") [.int 1, .int 2]).statement.build (.empty 5) =
        .ok bound catalog' := Step.exists_of_succeeds (by decide +kernel)
  rcases values_never_reach_the_text halike .rows (.empty 5) with
    ⟨bound, bound', catalog', hbuild, hbuild', hsql, -⟩ | ⟨e, catalog', herror, -⟩
  · exact ⟨bound, bound', catalog', hbuild, hbuild', hsql⟩
  · have hsame : EStateM.Result.error e catalog' = .ok found t := herror.symm.trans hfound
    cases hsame

end QueryLoom

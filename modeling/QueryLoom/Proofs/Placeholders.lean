import QueryLoom.Proofs.Pieces

/-!
# Placeholders and parameters

The renderer writes question marks for the values that it binds, and the conversion to the dialect
of the server numbers the question marks that it finds outside of literals and identifiers.  Both
have the same ones in mind, whatever marks and quotes occur in quoted names.

## Main definitions

* `Statement.Worded`: the keywords of a statement are bare.

## Main results

* `Query.writes_renderMembers`, `Segment.writes_renderAll`: queries and segments are settled, with
  a placeholder for each of their values.
* `Chain.worded`: the keywords of a chain are bare.
* `placeholders_are_the_parameters`: the placeholders of a built statement are as many as its
  parameters, and are numbered in their order.
-/

namespace QueryLoom

open Dialect Render

variable {outputs : List ((String × String) × String)}

/-! ## Queries and assignments -/

theorem Conjunction.bare_keyword (conjunction : Conjunction) : Bare conjunction.keyword := by
  cases conjunction <;> decide

/-- A member follows with its conjunction, which has no placeholders. -/
theorem Settled.joinMember {before member : String} {m n : Nat} (hbefore : Settled before m)
    (hmember : Settled member n) (first : Bool) (conjunction : Conjunction) :
    Settled (Query.joinMember first before conjunction member) (m + n) := by
  have hkeyword : Settled conjunction.keyword 0 := conjunction.bare_keyword.complete.settled
  unfold Query.joinMember
  by_cases hfirst : first
  · rw [if_pos hfirst]
    exact hbefore.joinText hmember
  · rw [if_neg hfirst]
    exact (hbefore.joinText hkeyword).joinText hmember

/-- The members of a query have a placeholder for each of its values. -/
theorem Query.writes_renderMembers {query : Query}
    (h : ∀ m ∈ query.conditions.flatMap Condition.mentions, m.Harmless) :
    Writes outputs query.renderMembers fun text => Settled text query.parameters.length := by
  induction query with
  | empty => exact Writes.pure settled_empty
  | condition before conjunction c ih =>
      rw [conditions, List.flatMap_append, List.flatMap_singleton] at h
      obtain ⟨hbefore, hcondition⟩ := List.forall_mem_append.mp h
      unfold renderMembers parameters
      rw [List.length_append]
      apply Writes.bind (ih hbefore)
      intro text htext
      apply Writes.bind (Condition.writes_render hcondition)
      intro member hmember
      exact Writes.pure (htext.joinMember hmember _ _)
  | nested before conjunction q ihBefore ihNested =>
      rw [conditions, List.flatMap_append] at h
      obtain ⟨hbefore, hnested⟩ := List.forall_mem_append.mp h
      unfold renderMembers parameters
      rw [List.length_append]
      apply Writes.bind (ihBefore hbefore)
      intro text htext
      refine Writes.bind (ihNested hnested) fun member hmember => Writes.pure ?_
      refine htext.joinMember ?_ _ _
      by_cases hmany : 1 < q.length
      · rw [if_pos hmany]
        exact hmember.parenthesized
      · rw [if_neg hmany]
        exact hmember

theorem Query.writes_render {query : Query}
    (h : ∀ m ∈ query.conditions.flatMap Condition.mentions, m.Harmless) :
    Writes outputs query.render
      fun text => Settled (text.getD "") (query.parameters?.getD []).length := by
  rw [parameters?_getD]
  unfold render
  by_cases hempty : query.isEmpty
  · have hnone : query.parameters = [] := by
      rw [← parameters?_getD, parameters?, if_pos hempty, Option.getD_none]
    rw [if_pos hempty, hnone]
    exact Writes.pure settled_empty
  · rw [if_neg hempty]
    exact Writes.bind (writes_renderMembers h) fun text htext => Writes.pure htext

/-- An assignment has a placeholder if it assigns a value. -/
theorem Assignments.writes_renderOne {a : Assignment} (h : ∀ m ∈ a.mentions, m.Harmless) :
    Writes outputs (Assignments.renderOne a) fun text => Settled text a.parameters.length := by
  obtain ⟨target, source⟩ := a
  have htarget : ∀ m ∈ target.mentions, m.Harmless := fun m hm => h m (List.mem_append_left _ hm)
  unfold renderOne Assignment.parameters
  apply Writes.bind (Column.writes_render htarget)
  intro text htext
  cases source with
  | value v =>
      have hmark : Complete " = ?" 1 := ⟨lex " = ?", fun _ _ => rfl, by decide, by decide⟩
      refine Writes.bind (Writes.values [v]) fun _ _ => Writes.pure ?_
      exact (htext.complete hmark (by decide) (by decide)).settled
  | column c =>
      have hequals : Glue " = " := Bare.glue (by decide) (by decide)
      have hsource : ∀ m ∈ c.mentions, m.Harmless :=
        fun m hm => h m (List.mem_append_right _ hm)
      refine Writes.bind (Column.writes_render hsource) fun other hother => Writes.pure ?_
      exact htext.between hequals hother

/-- A SET list has a placeholder for each of its values. -/
theorem Assignments.writes_render {assignments : Assignments}
    (h : ∀ m ∈ assignments.flatMap Assignment.mentions, m.Harmless) :
    Writes outputs assignments.render
      fun text => Settled (text.getD "") (assignments.parameters?.getD []).length := by
  rw [parameters?_getD]
  unfold render
  by_cases hempty : assignments.isEmpty
  · rw [if_pos hempty, List.isEmpty_iff.mp hempty]
    exact Writes.pure settled_empty
  · rw [if_neg hempty]
    have hone : ∀ a ∈ assignments, Writes outputs (Assignments.renderOne a)
        fun text => Settled text a.parameters.length :=
      fun a ha => writes_renderOne fun m hm => h m (List.mem_flatMap_of_mem ha hm)
    exact Writes.bind (Writes.mapM_settled hone) fun texts htexts => Writes.pure htexts.intercalate

/-! ## Segments -/

/-- Keywords are bare. -/
def Segment.Worded : Segment → Prop
  | .keyword text => Bare text
  | _ => True

theorem JoinKind.bare_keyword (kind : JoinKind) : Bare kind.keyword := by
  cases kind <;> decide

theorem Direction.bare_keyword (direction : Direction) : Bare direction.keyword := by
  cases direction <;> decide

theorem Order.writes_render {order : Order} (h : ∀ m ∈ order.target.mentions, m.Harmless) :
    Writes outputs order.render fun text => Settled text 0 := by
  have hblank : Glue " " := Bare.glue (by decide) (by decide)
  have hkeyword : Settled order.direction.keyword 0 :=
    order.direction.bare_keyword.complete.settled
  unfold Order.render
  refine Writes.bind (Column.writes_render h) fun text htext => Writes.pure ?_
  exact htext.between hblank hkeyword

namespace Segment

/-- What is left out of a count has no placeholders, so leaving it out changes nothing. -/
theorem writes_unlessUnpaged {text : Render String}
    (h : Writes outputs text fun text => Settled text 0) :
    Writes outputs (unlessUnpaged text) fun text => Settled (text.getD "") 0 := by
  unfold unlessUnpaged
  refine Writes.bind Writes.get fun session _ => Writes.ite ?_ (Writes.pure settled_empty)
  exact Writes.bind h fun text htext => Writes.pure htext

/-- A segment has a placeholder for each of its values. -/
theorem writes_render {segment : Segment} {output : Field → String}
    (houtput : ∀ f, output f = (outputs.lookup f.key).getD f.property)
    (hworded : segment.Worded) (h : ∀ m ∈ segment.mentions output, m.Harmless) :
    Writes outputs segment.render
      fun text => Settled (text.getD "") segment.parameters.length := by
  have hsome : ∀ text, Settled text 0 → Writes outputs (pure (some text))
      fun text => Settled (text.getD "") 0 :=
    fun text htext => Writes.pure htext
  have hnumber : ∀ keyword n, Bare keyword → Settled (keyword ++ toString n) 0 :=
    fun keyword n hkeyword => (hkeyword.append (bare_toString n)).complete.settled
  unfold render
  cases segment with
  | keyword text => exact Writes.pure (Bare.complete hworded).settled
  | selection items => exact Writes.bind (SelectItem.writes_renderList houtput h) hsome
  | table t => exact Writes.bind (TableRef.writes_render h) hsome
  | target source => exact Writes.bind (TableSource.writes_quotedName h) hsome
  | join kind => exact Writes.pure kind.bare_keyword.complete.settled
  | query q => exact Query.writes_render h
  | assignments as => exact Assignments.writes_render h
  | groupBy columns =>
      have hgroup : Bare "GROUP BY " := by decide
      have hcolumns : Writes outputs (columns.mapM Column.render)
          fun texts => AllSettled texts 0 := Writes.mapM_plain fun column hcolumn =>
        Column.writes_render fun m hm => h m (List.mem_flatMap_of_mem hcolumn hm)
      refine Writes.bind hcolumns fun texts htexts => Writes.pure ?_
      exact hgroup.complete.before htexts.intercalate
  | orderBy orders =>
      have horder : Bare "ORDER BY " := by decide
      have horders : Writes outputs (orders.mapM Order.render)
          fun texts => AllSettled texts 0 := Writes.mapM_plain fun order ho =>
        Order.writes_render fun m hm => h m (List.mem_flatMap_of_mem ho hm)
      refine writes_unlessUnpaged (Writes.bind horders fun texts htexts => Writes.pure ?_)
      exact horder.complete.before htexts.intercalate
  | limit n => exact writes_unlessUnpaged (Writes.pure (hnumber "LIMIT " n (by decide)))
  | offset n => exact writes_unlessUnpaged (Writes.pure (hnumber "OFFSET " n (by decide)))

/-- Segments go on with what stands before them. -/
theorem writes_renderAll {segments : List Segment} {output : Field → String}
    (houtput : ∀ f, output f = (outputs.lookup f.key).getD f.property)
    (hworded : ∀ segment ∈ segments, segment.Worded)
    (h : ∀ m ∈ segments.flatMap (mentions output), m.Harmless) {before : String} {m : Nat}
    (hbefore : Settled before m) :
    Writes outputs (renderAll before segments)
      fun text => Settled text (m + (segments.flatMap parameters).length) := by
  induction segments generalizing before m with
  | nil => exact Writes.pure hbefore
  | cons segment rest ih =>
      rw [List.flatMap_cons] at h
      obtain ⟨hthis, hothers⟩ := List.forall_mem_append.mp h
      obtain ⟨hkeyword, hkeywords⟩ := List.forall_mem_cons.mp hworded
      have hsegment := writes_render houtput hkeyword hthis
      unfold renderAll
      apply Writes.bind hsegment
      intro text htext
      have hrest := ih hkeywords hothers (hbefore.joinText htext)
      rwa [List.flatMap_cons, List.length_append, ← Nat.add_assoc]

end Segment

/-! ## Statements -/

/-- A fresh session is tidy. -/
theorem Session.tidy_start (mode : Mode) {catalog : Catalog} (h : catalog.Faithful) :
    (Session.start mode catalog).Tidy [] :=
  ⟨Aliases.clean_empty, rfl, h⟩

/-- The first pass of declarations registers the aliases of columns, the last one in front. -/
theorem Declaration.tidy_declareExplicit {declarations : List Declaration}
    (h : ∀ m ∈ declarations.flatMap mentions, m.Harmless) {s s' : Session} {us : List Unit}
    (hs : s.Tidy outputs)
    (hdeclare : declarations.mapM declareExplicit s = .ok us s') :
    s'.Tidy ((declarations.filterMap columnAlias?).reverse ++ outputs) := by
  induction declarations generalizing outputs s us with
  | nil =>
      obtain ⟨-, rfl⟩ := Step.pure_eq_ok hdeclare
      exact hs
  | cons declaration rest ih =>
      rw [List.flatMap_cons] at h
      obtain ⟨hthis, hrest⟩ := List.forall_mem_append.mp h
      rw [List.mapM_cons] at hdeclare
      obtain ⟨u, t, hfirst, hdeclare⟩ := Step.bind_eq_ok hdeclare
      obtain ⟨vs, t', hothers, hdeclare⟩ := Step.bind_eq_ok hdeclare
      obtain ⟨-, rfl⟩ := Step.pure_eq_ok hdeclare
      cases declaration with
      | table table =>
          have htable : Writes outputs (declareExplicit (.table table)) fun _ => True := by
            unfold declareExplicit
            refine Writes.ite ?_ (Writes.pure trivial)
            exact TableRef.writes_declare hthis
          exact ih hrest (htable s u t hs hfirst).1 hothers
      | column f aliasName =>
          have ht : t.Tidy ((f.key, aliasName) :: outputs) := by
            cases hfirst
            exact ⟨hs.aliases, congrArg _ hs.columns, hs.catalog⟩
          simpa [columnAlias?] using ih hrest ht hothers

/-- The second pass declares tables only. -/
theorem Declaration.writes_declareImplicit {declarations : List Declaration}
    (h : ∀ m ∈ declarations.flatMap mentions, m.Harmless) :
    Writes outputs (declarations.mapM declareImplicit) fun _ => True := by
  have hone : ∀ d ∈ declarations, Writes outputs d.declareImplicit fun _ => True := by
    intro d hd
    unfold declareImplicit
    cases d with
    | table table =>
        refine Writes.ite (Writes.pure trivial) ?_
        exact TableRef.writes_declare fun m hm => h m (List.mem_flatMap_of_mem hd hm)
    | column f aliasName => exact Writes.pure trivial
  exact (Writes.mapM hone).imp fun _ _ => trivial

namespace Statement

/-- All keywords of a statement are bare. -/
def Worded (statement : Statement) : Prop :=
  ∀ segment ∈ statement.segments, segment.Worded

/-- A built statement is settled, with a placeholder for each parameter. -/
theorem settled_of_buildIn {statement : Statement} (hworded : statement.Worded)
    (h : ∀ m ∈ statement.mentions, m.Harmless) {mode : Mode} {catalog catalog' : Catalog}
    (hcatalog : catalog.Faithful) {bound : BoundStatement}
    (hbuild : statement.buildIn mode catalog = .ok bound catalog') :
    Settled bound.sql bound.params.length := by
  obtain ⟨hdeclarations, hsegments⟩ := List.forall_mem_append.mp h
  obtain ⟨session, hrender, -, -, -⟩ := buildIn_eq_ok hbuild
  obtain ⟨-, us, t, vs, u, hexplicit, himplicit, hall⟩ := render_eq_ok hrender
  have ht := Declaration.tidy_declareExplicit hdeclarations (Session.tidy_start mode hcatalog)
    hexplicit
  rw [List.append_nil] at ht
  have hu := (Declaration.writes_declareImplicit hdeclarations t vs u ht himplicit).1
  have hwritten := Segment.writes_renderAll (fun _ => rfl) hworded hsegments settled_empty
    u bound.sql session hu hall
  rw [params_of_buildIn hbuild, ← Nat.zero_add (List.length _)]
  exact hwritten.2

/-- Paging mentions no names. -/
theorem mentions_paged (statement : Statement) (size offset : Nat) :
    (statement.paged size offset).mentions = statement.mentions := by
  have hpaging : ∀ segment : Segment, segment.isPaging = true →
      segment.mentions statement.outputName = [] := by
    intro segment h
    cases segment <;> first | rfl | cases h
  exact congrArg (statement.declarations.flatMap Declaration.mentions ++ ·)
    (statement.flatMap_paged size offset hpaging)

theorem Worded.paged {statement : Statement} (h : statement.Worded) (size offset : Nat) :
    (statement.paged size offset).Worded := by
  refine forall_paged h (fun segment hpaging => ?_) size offset
  cases segment <;> trivial

/-- Whichever statement of a chain is built, it is settled with a placeholder for each
parameter. -/
theorem settled_of_buildAs {statement : Statement} (hworded : statement.Worded)
    (h : ∀ m ∈ statement.mentions, m.Harmless) {form : Form} {catalog catalog' : Catalog}
    (hcatalog : catalog.Faithful) {bound : BoundStatement}
    (hbuild : statement.buildAs form catalog = .ok bound catalog') :
    Settled bound.sql bound.params.length := by
  cases form with
  | rows => exact settled_of_buildIn hworded h hcatalog hbuild
  | count =>
      rcases buildCount_eq_ok hbuild with hplain | ⟨body, hbody, rfl⟩
      · exact settled_of_buildIn hworded h hcatalog hplain
      · have hsettled := settled_of_buildIn hworded h hcatalog hbody
        have hopen : Bare "SELECT COUNT(1) FROM (" := by decide
        have hclose : Glue ") " := Bare.glue (by decide) (by decide)
        have hname : Unquoted "counted" := by decide
        have hwhole := (hopen.complete.before hsettled).between hclose (settled_quote hname)
        have hquote : ") " ++ Identifier.quote "counted" = ") \x60counted\x60" := by decide
        rw [String.append_assoc, hquote, Nat.zero_add] at hwhole
        exact hwhole
  | page size offset =>
      rw [← statement.mentions_paged size offset] at h
      exact settled_of_buildIn (hworded.paged size offset) h hcatalog hbuild

end Statement

/-! ## Chains -/

namespace Statement

theorem Worded.append {statement : Statement} (h : statement.Worded) {segments : List Segment}
    (hsegments : ∀ segment ∈ segments, segment.Worded) : (statement.append segments).Worded := by
  intro segment hsegment
  rcases List.mem_append.mp hsegment with hold | hnew
  · exact h segment hold
  · exact hsegments segment hnew

theorem Worded.clause {statement : Statement} (h : statement.Worded) {keyword : String}
    (hkeyword : Bare keyword) (query : Query) : (statement.clause keyword query).Worded := by
  unfold Statement.clause
  by_cases hempty : query.isEmpty
  · rw [if_pos hempty]
    exact h
  · rw [if_neg hempty]
    apply h.append
    intro segment hsegment
    rcases List.mem_cons.mp hsegment with rfl | hlast
    · exact hkeyword
    · rw [List.mem_singleton.mp hlast]
      trivial

end Statement

namespace Chain

private theorem worded_paging {statement : Statement} (h : statement.Worded) (n : Int)
    (segment : Nat → Segment) (hsegment : ∀ n, (segment n).Worded)
    (fault : Int → ValidationFault) : (paging statement n segment fault).Worded := by
  cases n with
  | ofNat n =>
      apply h.append
      intro s hs
      rw [List.mem_singleton.mp hs]
      exact hsegment n
  | negSucc n => exact h

private theorem worded_updateStatement (table : TableSource) (assignments : Assignments) :
    (updateStatement table assignments).Worded := by
  have hempty : Statement.empty.Worded := fun _ hs => nomatch hs
  have hstart : (if assignments.isEmpty then Statement.empty.fail .nothingAssigned
      else Statement.empty).Worded := by
    by_cases h : assignments.isEmpty
    · rw [if_pos h]
      exact hempty
    · rw [if_neg h]
      exact hempty
  have hupdate : Bare "UPDATE" := by decide
  have hset : Bare "SET" := by decide
  apply hstart.append
  intro segment hsegment
  simp only [List.mem_cons, List.not_mem_nil, or_false] at hsegment
  rcases hsegment with rfl | rfl | rfl | rfl
  · exact hupdate
  · trivial
  · exact hset
  · trivial

/-- The keywords of a chain are fixed, and bare. -/
theorem worded {s : Stage} (chain : Chain s) : chain.statement.Worded := by
  have hselect : Bare "SELECT" := by decide
  have hfrom : Bare "FROM" := by decide
  have hon : Bare "ON" := by decide
  have hwhere : Bare "WHERE" := by decide
  have hhaving : Bare "HAVING" := by decide
  have hempty : Statement.empty.Worded := fun _ hs => nomatch hs
  induction chain with
  | select items =>
      have hkeyword : (Statement.empty.append [.keyword "SELECT"]).Worded :=
        hempty.append fun segment hs => List.mem_singleton.mp hs ▸ hselect
      exact hkeyword
  | fromTable chain table ih =>
      have hnamed : (chain.statement.append
          [.selection chain.selection, .keyword "FROM", .table table]).Worded := by
        apply ih.append
        intro segment hsegment
        simp only [List.mem_cons, List.not_mem_nil, or_false] at hsegment
        rcases hsegment with rfl | rfl | rfl
        · trivial
        · exact hfrom
        · trivial
      exact hnamed
  | join chain kind table ih =>
      have hjoined : (chain.statement.append [.join kind, .table table]).Worded := by
        apply ih.append
        intro segment hsegment
        simp only [List.mem_cons, List.not_mem_nil, or_false] at hsegment
        rcases hsegment with rfl | rfl
        · trivial
        · trivial
      exact hjoined
  | on chain query ih => exact ih.clause hon query
  | unconditioned chain ih => exact ih
  | matching chain query ih => exact ih.clause hwhere query
  | groupBy groupable chain columns ih =>
      rw [statement]
      by_cases h : columns.isEmpty
      · rw [if_pos h]
        exact ih
      · rw [if_neg h]
        exact ih.append fun segment hs => List.mem_singleton.mp hs ▸ trivial
  | having chain query ih => exact ih.clause hhaving query
  | order orderable chain orders ih =>
      rw [statement]
      by_cases h : orders.isEmpty
      · rw [if_pos h]
        exact ih
      · rw [if_neg h]
        exact ih.append fun segment hs => List.mem_singleton.mp hs ▸ trivial
  | limit limitable chain n ih => exact worded_paging ih n .limit (fun _ => trivial) _
  | offset limitable chain n ih => exact worded_paging ih n .offset (fun _ => trivial) _
  | update table => exact hempty
  | set chain target value ih => exact ih
  | setNull chain target ih => exact ih
  | setColumn chain target source ih => exact ih
  | assign chain ih => exact worded_updateStatement _ _
  | choosing chain query ih => exact ih.clause hwhere query

end Chain

/-! ## Summary -/

/-- Let the names of a chain be harmless.  Whichever statement of the chain is built, reading its
text ends outside of literals and identifiers and finds a placeholder for each parameter.  The
conversion prints what was read, and the placeholder that stands behind `k` others is printed as
number `k + 1`, the number of the parameter behind `k` others. -/
theorem placeholders_are_the_parameters {stage : Stage} (chain : Chain stage) (form : Form)
    {catalog catalog' : Catalog} {bound : BoundStatement} (hcatalog : catalog.Reached)
    (hnames : ∀ m ∈ chain.statement.mentions, m.Harmless)
    (hbuild : chain.statement.buildAs form catalog = .ok bound catalog') :
    (∀ t ∈ lex bound.sql, t.isClosed = true) ∧
      (lex bound.sql).count .placeholder = bound.params.length ∧
      convert bound.sql = String.ofList (printFrom 0 (lex bound.sql)) ∧
      ∀ xs ys, lex bound.sql = xs ++ .placeholder :: ys →
        xs.count .placeholder < bound.params.length ∧
        convert bound.sql = String.ofList (printFrom 0 xs) ++ "$" ++
          toString (xs.count .placeholder + 1) ++
            String.ofList (printFrom (xs.count .placeholder + 1) ys) := by
  have hsettled : Settled bound.sql bound.params.length :=
    Statement.settled_of_buildAs chain.worded hnames hcatalog.faithful hbuild
  obtain ⟨hcount, hclosed⟩ := ReadsApart.lex hsettled (by decide)
  refine ⟨hclosed, hcount, convert_eq_print bound.sql, ?_⟩
  intro xs ys hxs
  refine ⟨?_, convert_placeholder hxs⟩
  rw [← hcount, hxs, List.count_append, List.count_cons_self]
  omega

/-- Readings of an entity whose names are full of marks, quotes and backticks. -/
def Chain.oddReadings : Chain .grouped :=
  let reading : Entity :=
    ⟨"lab::Reading", "Reading", some "read\x60ings?", [⟨"value?", some "val'ue?"⟩]⟩
  .groupBy rfl
    (.matching
      (.fromTable (.select [.aliased ⟨reading, "value?"⟩ "what's \x60this?"])
        ⟨.entity reading, some "r"⟩)
      ((Query.empty.addCondition .and ⟨.raw "r.unit's?", .like, .value (.text "?")⟩).addCondition
        .or ⟨.field ⟨reading, "value?"⟩, .isIn, .list [.int 1, .int 2]⟩))
    [.raw "r.unit's?"]

/-- The groups of readings are counted with three placeholders. -/
theorem placeholders_of_oddReadings :
    (∀ m ∈ Chain.oddReadings.statement.mentions, m.Harmless) ∧
    ∃ bound catalog', Chain.oddReadings.statement.buildAs .count (.empty 5) = .ok bound catalog' ∧
      bound.params.length = 3 ∧ (lex bound.sql).count .placeholder = 3 := by
  have hnames : ∀ m ∈ Chain.oddReadings.statement.mentions, m.Harmless := by decide
  obtain ⟨bound, catalog', hbuild⟩ : ∃ bound catalog',
      Chain.oddReadings.statement.buildAs .count (.empty 5) = .ok bound catalog' :=
    Step.exists_of_succeeds (by decide +kernel)
  have hlength : bound.params.length = 3 := by
    rw [Chain.params_of_build hbuild]
    rfl
  have hcount :=
    (placeholders_are_the_parameters Chain.oddReadings .count (.empty 5) hnames hbuild).2.1
  refine ⟨hnames, bound, catalog', hbuild, hlength, ?_⟩
  rw [hcount, hlength]

end QueryLoom

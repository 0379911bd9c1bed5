import QueryLoom.Chain
import QueryLoom.Proofs.Meaning

/-!
# Empty members leave no trace

A query is built by a script of calls.  What is empty is never added, so the script may as well be
cleared of its empty calls beforehand, on every depth.  The members that are left stand in a row
with one conjunction between each two of them, and the text of the query is the row of their texts.

## Main definitions

* `Script`: the calls that build a query, and `Script.run`, the query they build.
* `Script.survivors`: how many members survive, told from the calls.
* `Script.prune`: the script without its empty calls.
* `Query.members`: the row of members and conjunctions that a query holds.
* `Alternating`: rows that begin and end with a member, with a conjunction between each two.

## Main results

* `Script.run_prune`: clearing a script changes nothing of the query.
* `Query.alternating_members`: the members of a query alternate with conjunctions.
* `Query.Pruned.spelled`: the text of a query is the row of their texts.
* `empty_members_leave_no_trace`: the summary.
-/

namespace QueryLoom

/-! ## Scripts -/

/-- Whether an operand has nothing to compare with: it is missing, or a value of it is absent. -/
def Operand.isMissing : Operand → Bool
  | .absent => true
  | .value v => v.isAbsent
  | .range low high => low.isAbsent || high.isAbsent
  | .unary | .list _ | .column _ => false

/-- A condition is empty when its operand is missing. -/
theorem Condition.isEmpty_eq_isMissing (c : Condition) : c.isEmpty = c.operand.isMissing := by
  obtain ⟨target, operator, operand⟩ := c
  cases operand with
  | unary => rfl
  | absent => rfl
  | value v =>
      cases h : v.isAbsent <;>
        simp [isEmpty, parameters?, Operand.parameters?, Operand.isMissing, h]
  | range low high =>
      cases h : (low.isAbsent || high.isAbsent) <;>
        simp [isEmpty, parameters?, Operand.parameters?, Operand.isMissing, h]
  | list values => rfl
  | column c => rfl

/-- The calls that build a query. -/
inductive Script where
  /-- A new query. -/
  | start
  /-- Add a condition. -/
  | condition (before : Script) (conjunction : Conjunction) (c : Condition)
  /-- Add a query that is built by a script of its own. -/
  | query (before : Script) (conjunction : Conjunction) (inner : Script)

namespace Script

/-- Compare a column, which adds the condition of the comparison. -/
def compare (before : Script) (conjunction : Conjunction) (target : Column)
    (comparison : Comparison) : Script :=
  .condition before conjunction (comparison.on target)

/-- The query that a script builds. -/
def run : Script → Query
  | .start => .empty
  | .condition before conjunction c => before.run.addCondition conjunction c
  | .query before conjunction inner => before.run.addQuery conjunction inner.run

/-- The number of members that survive: conditions whose operand is not missing, and nested queries
in which a member survives. -/
def survivors : Script → Nat
  | .start => 0
  | .condition before _ c => before.survivors + if c.operand.isMissing then 0 else 1
  | .query before _ inner => before.survivors + if inner.survivors = 0 then 0 else 1

/-- The script without the calls that add something empty, on every depth. -/
def prune : Script → Script
  | .start => .start
  | .condition before conjunction c =>
    if c.operand.isMissing then before.prune else .condition before.prune conjunction c
  | .query before conjunction inner =>
    if inner.survivors = 0 then before.prune else .query before.prune conjunction inner.prune

/-- No call adds something empty, on any depth. -/
def Full : Script → Prop
  | .start => True
  | .condition before _ c => before.Full ∧ c.operand.isMissing = false
  | .query before _ inner => before.Full ∧ inner.Full ∧ inner.survivors ≠ 0

/-- Every query that a script builds is built by adding members. -/
theorem built_run (script : Script) : script.run.Built := by
  induction script with
  | start => exact .empty
  | condition before conjunction c ih => exact .addCondition conjunction c ih
  | query before conjunction inner ih ihInner => exact .addQuery conjunction ih ihInner

end Script

theorem Query.isEmpty_iff_length (query : Query) : query.isEmpty = true ↔ query.length = 0 := by
  cases query with
  | empty => simp [isEmpty, length]
  | condition before conjunction c => simp [isEmpty, length]
  | nested before conjunction q => simp [isEmpty, length]

namespace Script

/-- The members of the query are the ones that survive. -/
theorem length_run (script : Script) : script.run.length = script.survivors := by
  induction script with
  | start => rfl
  | condition before conjunction c ih =>
      rw [run, survivors, Query.addCondition, c.isEmpty_eq_isMissing]
      by_cases h : c.operand.isMissing
      · rw [if_pos h, if_pos h, ih, Nat.add_zero]
      · rw [if_neg h, if_neg h, Query.length, ih]
  | query before conjunction inner ih ihInner =>
      have hempty : inner.run.isEmpty = true ↔ inner.survivors = 0 := by
        rw [Query.isEmpty_iff_length, ihInner]
      rw [run, survivors, Query.addQuery]
      by_cases h : inner.survivors = 0
      · rw [if_pos (hempty.mpr h), if_pos h, ih, Nat.add_zero]
      · rw [if_neg (fun hrun => h (hempty.mp hrun)), if_neg h, Query.length, ih]

/-- A script in which nothing survives builds the empty query. -/
theorem isEmpty_run_iff (script : Script) : script.run.isEmpty = true ↔ script.survivors = 0 := by
  rw [Query.isEmpty_iff_length, length_run]

/-- Clearing a script of its empty calls changes nothing of the query. -/
theorem run_prune (script : Script) : script.prune.run = script.run := by
  induction script with
  | start => rfl
  | condition before conjunction c ih =>
      unfold prune
      by_cases h : c.operand.isMissing
      · rw [if_pos h, run, ih, Query.addCondition, c.isEmpty_eq_isMissing, if_pos h]
      · rw [if_neg h, run, run, ih]
  | query before conjunction inner ih ihInner =>
      unfold prune
      by_cases h : inner.survivors = 0
      · rw [if_pos h, run, ih, Query.addQuery, if_pos (inner.isEmpty_run_iff.mpr h)]
      · rw [if_neg h, run, run, ih, ihInner]

/-- A cleared script has no empty calls left. -/
theorem full_prune (script : Script) : script.prune.Full := by
  induction script with
  | start => trivial
  | condition before conjunction c ih =>
      unfold prune
      by_cases h : c.operand.isMissing
      · rwa [if_pos h]
      · rw [if_neg h]
        exact ⟨ih, by simpa using h⟩
  | query before conjunction inner ih ihInner =>
      have hsame : inner.prune.survivors = inner.survivors := by
        rw [← length_run, run_prune, length_run]
      unfold prune
      by_cases h : inner.survivors = 0
      · rwa [if_pos h]
      · rw [if_neg h]
        exact ⟨ih, ihInner, hsame ▸ h⟩

end Script

/-! ## The row of members -/

/-- What stands in a query: members, and what joins them. -/
inductive Member where
  | joint (conjunction : Conjunction)
  | condition (c : Condition)
  /-- A nested query, in parentheses if it is grouped. -/
  | nested (q : Query) (grouped : Bool)

namespace Member

/-- Whether something only joins members. -/
def isJoint : Member → Bool
  | .joint _ => true
  | _ => false

/-- The text of what stands in a query. -/
def render : Member → Render (Option String)
  | .joint conjunction => pure (some conjunction.keyword)
  | .condition c => c.render
  | .nested q grouped => do
    let text ← q.render
    pure (text.map fun t => if grouped then "(" ++ t ++ ")" else t)

/-- A member joins the row before it; the first one is joined to nothing. -/
def join (row : List Member) (conjunction : Conjunction) (m : Member) : List Member :=
  if row.isEmpty then [m] else row ++ [.joint conjunction, m]

end Member

/-- Rows that begin and end with a member and have a conjunction between each two. -/
inductive Alternating : List Member → Prop where
  | single {m : Member} (h : m.isJoint = false) : Alternating [m]
  | cons {m : Member} (h : m.isJoint = false) (conjunction : Conjunction) {rest : List Member}
      (hrest : Alternating rest) : Alternating (m :: .joint conjunction :: rest)

theorem Alternating.concat {row : List Member} (hrow : Alternating row)
    (conjunction : Conjunction) {m : Member} (h : m.isJoint = false) :
    Alternating (row ++ [.joint conjunction, m]) := by
  induction hrow with
  | single hfirst => exact .cons hfirst conjunction (.single h)
  | cons hfirst joint hrest ih => exact .cons hfirst joint ih

namespace Query

/-- The row of members that a query holds.  A nested query is grouped if it has several members. -/
def members : Query → List Member
  | .empty => []
  | .condition before conjunction c => Member.join before.members conjunction (.condition c)
  | .nested before conjunction q =>
    Member.join before.members conjunction (.nested q (1 < q.length))

/-- The queries nested in a query, on every depth. -/
def subqueries : Query → List Query
  | .empty => []
  | .condition before _ _ => before.subqueries
  | .nested before _ q => before.subqueries ++ q :: q.subqueries

theorem members_eq_nil_iff (query : Query) : query.members = [] ↔ query.isEmpty = true := by
  cases query with
  | empty => simp [members, isEmpty]
  | condition before conjunction c =>
      unfold members Member.join
      by_cases h : before.members.isEmpty <;> simp [h, isEmpty]
  | nested before conjunction q =>
      unfold members Member.join
      by_cases h : before.members.isEmpty <;> simp [h, isEmpty]

/-- A member that joins a row keeps it alternating, and counts once. -/
private theorem alternating_join {before : Query}
    (hrow : before.isEmpty = false → Alternating before.members)
    (hcount : before.members.countP (!·.isJoint) = before.length) (conjunction : Conjunction)
    {m : Member} (h : m.isJoint = false) :
    Alternating (Member.join before.members conjunction m) ∧
      (Member.join before.members conjunction m).countP (!·.isJoint) = before.length + 1 := by
  unfold Member.join
  cases hempty : before.isEmpty with
  | true =>
      have hnil : before.members = [] := before.members_eq_nil_iff.mpr hempty
      rw [hnil] at hcount
      rw [hnil, ← hcount]
      exact ⟨.single h, by simp [h]⟩
  | false =>
      have hne : ¬ before.members.isEmpty = true := by
        rw [List.isEmpty_iff, members_eq_nil_iff, hempty]
        exact Bool.false_ne_true
      rw [if_neg hne, List.countP_append, hcount]
      have hpair : [Member.joint conjunction, m].countP (!·.isJoint) = 1 := by
        rw [List.countP_cons, List.countP_singleton, h]
        rfl
      rw [hpair]
      exact ⟨(hrow hempty).concat conjunction h, rfl⟩

/-- The row of a query alternates, and has as many members as the query. -/
theorem alternating_members (query : Query) :
    (query.isEmpty = false → Alternating query.members) ∧
      query.members.countP (!·.isJoint) = query.length := by
  induction query with
  | empty => exact ⟨(nomatch ·), rfl⟩
  | condition before conjunction c ih =>
      have hjoin := alternating_join ih.1 ih.2 conjunction (m := .condition c) rfl
      exact ⟨fun _ => hjoin.1, hjoin.2⟩
  | nested before conjunction q ih ihNested =>
      have hjoin := alternating_join ih.1 ih.2 conjunction (m := .nested q (1 < q.length)) rfl
      exact ⟨fun _ => hjoin.1, hjoin.2⟩

theorem mem_join {row : List Member} {conjunction : Conjunction} {m n : Member}
    (h : n ∈ Member.join row conjunction m) (hn : n.isJoint = false) : n ∈ row ∨ n = m := by
  unfold Member.join at h
  by_cases hempty : row.isEmpty
  · rw [if_pos hempty] at h
    exact .inr (List.mem_singleton.mp h)
  · rw [if_neg hempty] at h
    rcases List.mem_append.mp h with hrow | hnew
    · exact .inl hrow
    · rcases List.mem_cons.mp hnew with rfl | hlast
      · cases hn
      · exact .inr (List.mem_singleton.mp hlast)

/-- A nested query in the row has members, and is grouped when it has several. -/
theorem Pruned.nested_mem {query : Query} (h : query.Pruned) {q : Query} {grouped : Bool}
    (hmem : .nested q grouped ∈ query.members) :
    0 < q.length ∧ (grouped = true ↔ 2 ≤ q.length) := by
  induction query with
  | empty => cases hmem
  | condition before conjunction c ih =>
      rcases mem_join hmem rfl with hrow | hthis
      · exact ih h.1 hrow
      · cases hthis
  | nested before conjunction inner ih ihNested =>
      rcases mem_join hmem rfl with hrow | hthis
      · exact ih h.1 hrow
      · cases hthis
        exact ⟨length_pos h.2.2, by simp only [decide_eq_true_eq]; exact Iff.rfl⟩

/-- What is nested in a query without empty members has none either. -/
theorem Pruned.of_mem_subqueries {query : Query} (h : query.Pruned) {q : Query}
    (hmem : q ∈ query.subqueries) : q.Pruned := by
  induction query with
  | empty => cases hmem
  | condition before conjunction c ih => exact ih h.1 hmem
  | nested before conjunction inner ih ihNested =>
      rcases List.mem_append.mp hmem with hbefore | hthis
      · exact ih h.1 hbefore
      · rcases List.mem_cons.mp hthis with rfl | hinner
        · exact h.2.1
        · exact ihNested h.2.1 hinner

end Query

/-! ## The row of texts -/

/-- Texts that are not empty make up a text that is not empty, whatever stands between them. -/
theorem intercalate_ne_empty {texts : List String} (hne : ∀ t ∈ texts, t ≠ "")
    (htexts : texts ≠ []) (separator : String) : separator.intercalate texts ≠ "" := by
  intro hempty
  cases texts with
  | nil => exact htexts rfl
  | cons first rest =>
      have hfirst := hne first List.mem_cons_self
      cases rest with
      | nil => exact hfirst (by simpa using hempty)
      | cons next rest =>
          rw [String.intercalate_cons_cons, String.append_assoc] at hempty
          exact hfirst (String.append_eq_empty_iff.mp hempty).1

namespace Query

/-- A text joins others behind a single blank. -/
private theorem joinText_intercalate {texts : List String} (hne : ∀ t ∈ texts, t ≠ "")
    {text : String} (htext : text ≠ "") :
    joinText (" ".intercalate texts) text = " ".intercalate (texts ++ [text]) := by
  have htext' : ¬ text.isEmpty = true := fun h => htext (String.isEmpty_iff.mp h)
  unfold joinText
  rw [if_neg htext']
  cases texts with
  | nil => simp
  | cons first rest =>
      have hrow := intercalate_ne_empty hne (List.cons_ne_nil first rest) " "
      rw [if_neg fun h => hrow (String.isEmpty_iff.mp h),
        String.intercalate_append_of_ne_nil (by simp) (by simp)]
      simp

/-- A row is rendered from left to right to texts that are not empty, with single blanks between
them. -/
structure Spelled (row : List Member) (s s' : Session) (text : String) (texts : List String) :
    Prop where
  each : row.mapM Member.render s = .ok (texts.map some) s'
  nonempty : ∀ t ∈ texts, t ≠ ""
  text : text = " ".intercalate texts

/-- A member joins the row with its text, behind the keyword of its conjunction. -/
private theorem Spelled.join {before : Query} {s t s' : Session} {row text : String}
    {texts : List String} (h : Spelled before.members s t row texts) (conjunction : Conjunction)
    {m : Member} (hm : m.render t = .ok (some text) s') (htext : text ≠ "") :
    ∃ texts', Spelled (Member.join before.members conjunction m) s s'
      (joinMember before.isEmpty row conjunction text) texts' := by
  obtain ⟨heach, hne, rfl⟩ := h
  have hkeyword : conjunction.keyword ≠ "" := by
    cases conjunction <;> decide
  have hlast := Render.mapM_singleton_of_ok hm
  unfold Member.join joinMember
  cases hempty : before.isEmpty with
  | true =>
      have hnil : before.members = [] := before.members_eq_nil_iff.mpr hempty
      rw [hnil] at heach
      obtain ⟨htexts, rfl⟩ := Step.pure_eq_ok heach
      obtain rfl : texts = [] := List.map_eq_nil_iff.mp htexts
      refine ⟨[text], ?_, ?_, ?_⟩
      · rw [hnil]
        exact hlast
      · simpa using htext
      · exact joinText_intercalate hne htext
  | false =>
      have hcons : ¬ before.members.isEmpty = true := by
        rw [List.isEmpty_iff, members_eq_nil_iff, hempty]
        exact Bool.false_ne_true
      have hboth : ∀ x ∈ texts ++ [conjunction.keyword], x ≠ "" := by
        simpa [or_imp, forall_and, hkeyword] using hne
      have hjoint : (Member.joint conjunction).render t = .ok (some conjunction.keyword) t := rfl
      have hpair := Render.mapM_append_of_ok (Render.mapM_singleton_of_ok hjoint) hlast
      refine ⟨texts ++ [conjunction.keyword] ++ [text], ?_, ?_, ?_⟩
      · rw [if_neg hcons, List.append_assoc, List.map_append]
        exact Render.mapM_append_of_ok heach hpair
      · simpa [or_imp, forall_and, hkeyword, htext] using hne
      · rw [if_neg Bool.false_ne_true, joinText_intercalate hne hkeyword,
          joinText_intercalate hboth htext]

/-- A query with members renders to their text. -/
theorem render_of_renderMembers {q : Query} (hne : q.isEmpty = false) {s s' : Session}
    {text : String} (h : q.renderMembers s = .ok text s') : q.render s = .ok (some text) s' := by
  unfold render
  rw [hne, if_neg Bool.false_ne_true, Step.bind_of_ok h]
  rfl

/-- A nested query with several members renders to their text in parentheses. -/
private theorem render_nested {q : Query} (hne : q.isEmpty = false) {s s' : Session}
    {text : String} (h : q.renderMembers s = .ok text s') :
    (Member.nested q (1 < q.length)).render s = .ok (some (q.wrapText text)) s' := by
  rw [Member.render, Step.bind_of_ok (render_of_renderMembers hne h)]
  unfold wrapText
  by_cases hmany : 1 < q.length
  · simp only [hmany, decide_true, Option.map_some, ↓reduceIte]
    rfl
  · simp only [hmany, decide_false, Bool.false_eq_true, Option.map_some, ↓reduceIte]
    rfl

/-- The text of a query is the row of the texts of its members and conjunctions. -/
theorem Pruned.spelled {query : Query} (h : query.Pruned) {s s' : Session} {text : String}
    (hrender : query.renderMembers s = .ok text s') :
    ∃ texts, Spelled query.members s s' text texts := by
  induction query generalizing s s' text with
  | empty =>
      obtain ⟨rfl, rfl⟩ := Step.pure_eq_ok hrender
      exact ⟨[], rfl, (fun _ ht => nomatch ht), by simp⟩
  | condition before conjunction c ih =>
      obtain ⟨hbefore, hc⟩ := h
      obtain ⟨row, t, member, hrow, hmember, rfl⟩ := renderMembers_condition_eq_ok hrender
      obtain ⟨texts, hspelled⟩ := ih hbefore hrow
      obtain ⟨m, rfl, hm⟩ := Condition.exists_text hc hmember
      exact hspelled.join conjunction (m := .condition c) hmember hm
  | nested before conjunction q ihBefore ihNested =>
      obtain ⟨hbefore, hq, hqne⟩ := h
      obtain ⟨row, t, member, hrow, hmember, rfl⟩ := renderMembers_nested_eq_ok hrender
      obtain ⟨texts, hspelled⟩ := ihBefore hbefore hrow
      obtain ⟨ms, hwritten⟩ := hq.written hmember
      have hinner := render_nested hqne hmember
      exact hspelled.join conjunction hinner (wrapText_ne_empty (hwritten.nonempty hqne))

end Query

/-! ## Clauses -/

/-- A clause with an empty query is no clause. -/
theorem Statement.clause_of_isEmpty {query : Query} (h : query.isEmpty = true)
    (statement : Statement) (keyword : String) : statement.clause keyword query = statement := by
  unfold clause
  rw [if_pos h]

/-- The calls that take a query as a clause, beside the chain without the call, stand for the same
statement when the query is empty. -/
theorem Chain.statement_of_isEmpty {query : Query} (h : query.isEmpty = true) :
    (∀ chain : Chain .joined, (chain.on query).statement = chain.unconditioned.statement) ∧
    (∀ chain : Chain .tabled, (chain.matching query).statement = chain.statement) ∧
    (∀ chain : Chain .grouped, (chain.having query).statement = chain.statement) ∧
    (∀ chain : Chain .assigned, (chain.choosing query).statement = chain.statement) :=
  ⟨fun chain => Statement.clause_of_isEmpty h chain.statement "ON",
    fun chain => Statement.clause_of_isEmpty h chain.statement "WHERE",
    fun chain => Statement.clause_of_isEmpty h chain.statement "HAVING",
    fun chain => Statement.clause_of_isEmpty h chain.statement "WHERE"⟩

/-! ## Summary -/

/-- A script builds the same query as the script without its empty calls on any depth, so nothing
that can be told of the query depends on them.

The query has the members that survive.  They stand in a row with a conjunction between each two of
them, on every depth, and a nested query is grouped when it has two members or more.  The text of
the query is the row of their texts, none of which is empty, with single blanks between them, so no
AND and no OR comes first or last or after another.

If no member survives, the query has no text and binds nothing, and a clause with it is no
clause. -/
theorem empty_members_leave_no_trace (script : Script) :
    (script.prune.Full ∧ script.prune.run = script.run) ∧
    script.run.length = script.survivors ∧
    (∀ q ∈ script.run :: script.run.subqueries,
      (q.members = [] ∨ Alternating q.members) ∧
      q.members.countP (!·.isJoint) = q.length ∧
      ∀ inner grouped, .nested inner grouped ∈ q.members →
        0 < inner.length ∧ (grouped = true ↔ 2 ≤ inner.length)) ∧
    (∀ (s s' : Session) (text : String), script.run.render s = .ok (some text) s' →
      ∃ texts, script.run.members.mapM Member.render s = .ok (texts.map some) s' ∧
        (∀ t ∈ texts, t ≠ "") ∧ text = " ".intercalate texts) ∧
    (script.survivors = 0 →
      script.run.render = pure none ∧ script.run.parameters? = none ∧
      (∀ chain : Chain .joined, (chain.on script.run).statement = chain.unconditioned.statement) ∧
      (∀ chain : Chain .tabled, (chain.matching script.run).statement = chain.statement) ∧
      (∀ chain : Chain .grouped, (chain.having script.run).statement = chain.statement) ∧
      (∀ chain : Chain .assigned, (chain.choosing script.run).statement = chain.statement)) := by
  have hpruned := script.built_run.pruned
  refine ⟨⟨script.full_prune, script.run_prune⟩, script.length_run, ?_, ?_, ?_⟩
  · intro q hq
    have hqpruned : q.Pruned := by
      rcases List.mem_cons.mp hq with rfl | hnested
      · exact hpruned
      · exact hpruned.of_mem_subqueries hnested
    obtain ⟨halternating, hcount⟩ := q.alternating_members
    refine ⟨?_, hcount, fun inner grouped hinner => hqpruned.nested_mem hinner⟩
    cases hempty : q.isEmpty with
    | true => exact .inl (q.members_eq_nil_iff.mpr hempty)
    | false => exact .inr (halternating hempty)
  · intro s s' text hrender
    have hne : script.run.isEmpty = false := by
      have hnone := Query.render_eq_none_iff hrender
      simpa using hnone
    unfold Query.render at hrender
    rw [hne, if_neg Bool.false_ne_true] at hrender
    obtain ⟨written, t, hmembers, hrender⟩ := Step.bind_eq_ok hrender
    obtain ⟨hwritten, rfl⟩ := Step.pure_eq_ok hrender
    cases hwritten
    obtain ⟨texts, hspelled⟩ := hpruned.spelled hmembers
    exact ⟨texts, hspelled.each, hspelled.nonempty, hspelled.text⟩
  · intro hnone
    have hempty := script.isEmpty_run_iff.mpr hnone
    refine ⟨?_, ?_, Chain.statement_of_isEmpty hempty⟩
    · unfold Query.render
      rw [if_pos hempty]
    · unfold Query.parameters?
      rw [if_pos hempty]

/-- A pattern and a range that are both absent. -/
def Script.hollow : Script :=
  (Script.start.compare .and (.raw "a") (.like (.text ""))).compare .or (.raw "b")
    (.between (.int 1) .null)

/-- An empty comparison, the hollow query, a nested query in which one member survives, and another
comparison. -/
def Script.sparse : Script :=
  (((Script.start.compare .and (.raw "c") (.eq .null)).query .or .hollow).query .and
    ((Script.start.compare .and (.raw "d") (.isIn none)).condition .or
      ⟨.raw "e", .isNull, .unary⟩)).compare .or (.raw "f") (.eq (.int 2))

/-- Two members of it survive, with one OR between them; nothing of the hollow query does. -/
theorem text_of_sparse :
    Script.sparse.survivors = 2 ∧
    (∃ s' texts, Script.sparse.run.render (.start .full (.empty 5)) =
        .ok (some "\x60e\x60 IS NULL OR \x60f\x60 = ?") s' ∧
      (∀ t ∈ texts, t ≠ "") ∧
      "\x60e\x60 IS NULL OR \x60f\x60 = ?" = " ".intercalate texts) ∧
    Script.hollow.survivors = 0 ∧ Script.hollow.run.render = pure none := by
  obtain ⟨s', hrender⟩ : ∃ s', Script.sparse.run.render (.start .full (.empty 5)) =
      .ok (some "\x60e\x60 IS NULL OR \x60f\x60 = ?") s' := ⟨_, rfl⟩
  obtain ⟨texts, -, hne, htext⟩ :=
    (empty_members_leave_no_trace Script.sparse).2.2.2.1 _ s' _ hrender
  have hnone : Script.hollow.survivors = 0 := rfl
  have hhollow := (empty_members_leave_no_trace Script.hollow).2.2.2.2 hnone
  exact ⟨rfl, ⟨s', texts, hrender, hne, htext⟩, hnone, hhollow.1⟩

end QueryLoom

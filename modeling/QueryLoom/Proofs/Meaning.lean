import QueryLoom.Proofs.Binding
import QueryLoom.Proofs.Parameters
import QueryLoom.Proofs.Precedence

/-!
# The meaning of a query

A query means the disjunction of the conjunctions that its members form on their level, where a
nested query counts as one member and is evaluated first.  The rendered text is a row of the texts
of its conditions with AND, OR and parentheses between them, and reading that row with precedence
gives the meaning back.  Parentheses around a single member make no difference.

## Main definitions

* `Query.Built`: the queries that are built by adding members to an empty one.
* `Query.meaning`: the truth of a query, given the truth of its conditions.
* `Query.symbols`: the row of symbols that a query is rendered to.
* `Query.write`: the text of a row.
* `Query.Written`: a query is rendered to its row.

## Main results

* `Query.Pruned.reads`: the row of a query is read as the query is meant.
* `Query.Pruned.written`: a query is rendered to its row.
* `rendering_keeps_the_meaning`: the summary.
-/

namespace QueryLoom

open Predicate

/-! ## Queries without empty members -/

namespace Query

/-- The queries that are built by adding conditions and other such queries to an empty one. -/
inductive Built : Query → Prop where
  | empty : Built .empty
  | addCondition (conjunction : Conjunction) (c : Condition) {query : Query}
      (h : Built query) : Built (query.addCondition conjunction c)
  | addQuery (conjunction : Conjunction) {query inner : Query} (h : Built query)
      (hinner : Built inner) : Built (query.addQuery conjunction inner)

/-- No member is empty, on any level. -/
def Pruned : Query → Prop
  | .empty => True
  | .condition before _ c => before.Pruned ∧ c.isEmpty = false
  | .nested before _ q => before.Pruned ∧ q.Pruned ∧ q.isEmpty = false

/-- What is empty is never added. -/
theorem Built.pruned {query : Query} (h : query.Built) : query.Pruned := by
  induction h with
  | empty => trivial
  | @addCondition conjunction c query h ih =>
      unfold Query.addCondition
      by_cases hempty : c.isEmpty
      · rw [if_pos hempty]
        exact ih
      · rw [if_neg hempty]
        exact ⟨ih, by simpa using hempty⟩
  | @addQuery conjunction query inner h hinner ih ihInner =>
      unfold Query.addQuery
      by_cases hempty : inner.isEmpty
      · rw [if_pos hempty]
        exact ih
      · rw [if_neg hempty]
        exact ⟨ih, ihInner, by simpa using hempty⟩

/-- A query without members is empty. -/
theorem eq_empty_of_isEmpty {query : Query} (h : query.isEmpty = true) : query = .empty := by
  cases query with
  | empty => rfl
  | condition before conjunction c => cases h
  | nested before conjunction q => cases h

theorem length_pos {query : Query} (h : query.isEmpty = false) : 0 < query.length := by
  cases query with
  | empty => cases h
  | condition before conjunction c => exact Nat.succ_pos _
  | nested before conjunction q => exact Nat.succ_pos _

/-! ## Meaning -/

/-- The truth of a member joins the conjunctions of its level, the last one first: by AND it joins
the last one, by OR it begins another.  The first member is joined to nothing. -/
def addTruth (groups : List (List Bool)) (conjunction : Conjunction) (b : Bool) :
    List (List Bool) :=
  match groups, conjunction with
  | [], _ => [[b]]
  | group :: earlier, .and => (b :: group) :: earlier
  | groups, .or => [b] :: groups

/-- A disjunction of conjunctions. -/
def anyAll (groups : List (List Bool)) : Bool :=
  groups.any fun group => group.all id

/-- The truths of the members of a query, in the conjunctions they form, the last one first.  The
conditions are numbered from `start`, depth first and from left to right. -/
def groups (truth : Nat → Bool) : Query → Nat → List (List Bool)
  | .empty, _ => []
  | .condition before conjunction _, start =>
    addTruth (before.groups truth start) conjunction (truth (start + before.conditions.length))
  | .nested before conjunction q, start =>
    addTruth (before.groups truth start) conjunction
      (anyAll (q.groups truth (start + before.conditions.length)))

/-- The truth of a query, given that of its conditions. -/
def meaning (truth : Nat → Bool) (query : Query) : Bool :=
  anyAll (query.groups truth 0)

/-! ## Rows of symbols -/

/-- What joins two members in a row. -/
def joint : Conjunction → Symbol
  | .and => .and
  | .or => .or

/-- A member joins the row before it. -/
def addSymbols (row : List Symbol) (first : Bool) (conjunction : Conjunction)
    (member : List Symbol) : List Symbol :=
  if first then member else row ++ joint conjunction :: member

/-- The row of a query whose nested queries stand in parentheses where `wraps` says so.  The
conditions are numbered from `start`. -/
def symbolsBy (wraps : Query → Bool) : Query → Nat → List Symbol
  | .empty, _ => []
  | .condition before conjunction _, start =>
    addSymbols (before.symbolsBy wraps start) before.isEmpty conjunction
      [.atom (start + before.conditions.length)]
  | .nested before conjunction q, start =>
    let member := q.symbolsBy wraps (start + before.conditions.length)
    addSymbols (before.symbolsBy wraps start) before.isEmpty conjunction
      (if wraps q then .opening :: member ++ [.closing] else member)

/-- The row that a query is rendered to, with parentheses around several members. -/
def symbols (query : Query) : List Symbol :=
  query.symbolsBy (fun q => 1 < q.length) 0

/-- The row with parentheses around every nested query. -/
def parenthesized (query : Query) : List Symbol :=
  query.symbolsBy (fun _ => true) 0

/-! ## Reading the row -/

variable {truth : Nat → Bool}

/-- A row that is read up to its last conjunction, with the truths of its members. -/
inductive Opened (truth : Nat → Bool) : List Symbol → List (List Bool) → Prop where
  | first {xs : List Symbol} {group : List Bool} (h : Reads truth .conjunction xs (group.all id)) :
      Opened truth xs [group]
  | later {xs ys : List Symbol} {group : List Bool} {earlier : List (List Bool)}
      (hx : Reads truth .disjunction xs (anyAll earlier))
      (hy : Reads truth .conjunction ys (group.all id)) :
      Opened truth (xs ++ .or :: ys) (group :: earlier)

/-- Such a row is read as the disjunction of its conjunctions. -/
theorem Opened.reads {xs : List Symbol} {groups : List (List Bool)}
    (h : Opened truth xs groups) : Reads truth .disjunction xs (anyAll groups) := by
  cases h with
  | @first _ group h =>
      have hvalue : anyAll [group] = group.all id := by simp [anyAll]
      rw [hvalue]
      exact .conjunction h
  | @later xs ys group earlier hx hy =>
      have hvalue : anyAll (group :: earlier) = (anyAll earlier || group.all id) := by
        simp [anyAll, Bool.or_comm]
      rw [hvalue]
      exact .or hx hy

/-- A member that is read as a factor joins the row as its truth joins the others. -/
theorem Opened.addMember {xs ys : List Symbol} {groups : List (List Bool)} {b : Bool}
    (h : Opened truth xs groups) (hy : Reads truth .factor ys b) (conjunction : Conjunction) :
    Opened truth (xs ++ joint conjunction :: ys) (addTruth groups conjunction b) := by
  have hgroup : ∀ group : List Bool, (group.all id && b) = (b :: group).all id := by
    intro group
    simp [Bool.and_comm]
  cases conjunction with
  | and =>
      cases h with
      | @first _ group h =>
          have hboth := Reads.and h hy
          rw [hgroup] at hboth
          exact .first hboth
      | @later xs zs group earlier hx hz =>
          have hboth := Reads.and hz hy
          rw [hgroup] at hboth
          rw [List.append_assoc]
          exact .later hx hboth
  | or =>
      have hsingle : Reads truth .conjunction ys ([b].all id) := by
        have hvalue : [b].all id = b := by simp
        rw [hvalue]
        exact .factor hy
      have hadded : addTruth groups .or b = [b] :: groups := by
        cases h with
        | first h => rfl
        | later hx hz => rfl
      rw [hadded]
      exact .later h.reads hsingle

theorem groups_of_isEmpty {query : Query} (h : query.isEmpty = true) (start : Nat) :
    query.groups truth start = [] := by
  rw [eq_empty_of_isEmpty h]
  rfl

/-- A member that is read as a factor joins what comes before it; if nothing does, the row is that
factor. -/
private theorem reads_addSymbols {before : Query} {wraps : Query → Bool} {start : Nat}
    {member : List Symbol} {b : Bool}
    (hbefore : before.isEmpty = false →
      Opened truth (before.symbolsBy wraps start) (before.groups truth start))
    (hmember : Reads truth .factor member b) (conjunction : Conjunction) :
    Opened truth (addSymbols (before.symbolsBy wraps start) before.isEmpty conjunction member)
        (addTruth (before.groups truth start) conjunction b) ∧
      (before.length + 1 = 1 → Reads truth .factor
        (addSymbols (before.symbolsBy wraps start) before.isEmpty conjunction member)
        (anyAll (addTruth (before.groups truth start) conjunction b))) := by
  unfold addSymbols
  cases hempty : before.isEmpty with
  | true =>
      have hsingle : Reads truth .conjunction member ([b].all id) := by
        have hvalue : [b].all id = b := by simp
        rw [hvalue]
        exact .factor hmember
      have hvalue : anyAll (addTruth [] conjunction b) = b := by simp [anyAll, addTruth]
      rw [if_pos rfl, groups_of_isEmpty hempty, hvalue]
      exact ⟨.first hsingle, fun _ => hmember⟩
  | false =>
      have hpos := length_pos hempty
      rw [if_neg Bool.false_ne_true]
      refine ⟨(hbefore hempty).addMember hmember conjunction, ?_⟩
      intro hone
      omega

/-- The row of a query is read as the query is meant, wherever it is numbered from.  If the query
has a single member, the row is even a factor, and needs no parentheses. -/
theorem Pruned.reads {query : Query} (h : query.Pruned) (hne : query.isEmpty = false)
    {wraps : Query → Bool} (hwraps : ∀ q : Query, 1 < q.length → wraps q = true) (start : Nat) :
    Opened truth (query.symbolsBy wraps start) (query.groups truth start) ∧
      (query.length = 1 → Reads truth .factor (query.symbolsBy wraps start)
        (anyAll (query.groups truth start))) := by
  induction query generalizing start with
  | empty => cases hne
  | condition before conjunction c ih =>
      obtain ⟨hbefore, -⟩ := h
      exact reads_addSymbols (fun hnot => (ih hbefore hnot start).1) (.atom _) conjunction
  | nested before conjunction q ihBefore ihNested =>
      obtain ⟨hbefore, hq, hqne⟩ := h
      obtain ⟨hopened, hfactor⟩ := ihNested hq hqne (start + before.conditions.length)
      refine reads_addSymbols (fun hnot => (ihBefore hbefore hnot start).1) ?_ conjunction
      -- parentheses may be missing only where the nested query is a factor by itself
      by_cases hwrapped : wraps q
      · rw [if_pos hwrapped]
        exact .parenthesized hopened.reads
      · rw [if_neg hwrapped]
        have hpos := length_pos hqne
        have hshort : ¬ 1 < q.length := fun hlong => hwrapped (hwraps q hlong)
        exact hfactor (by omega)

/-- So a query is meant as its row is read, with as few parentheses as it is rendered with and with
all of them. -/
theorem Pruned.reads_iff {query : Query} (h : query.Pruned) (hne : query.isEmpty = false)
    {wraps : Query → Bool} (hwraps : ∀ q : Query, 1 < q.length → wraps q = true) (b : Bool) :
    Reads truth .disjunction (query.symbolsBy wraps 0) b ↔ b = query.meaning truth := by
  have hread : Reads truth .disjunction (query.symbolsBy wraps 0) (query.meaning truth) :=
    (h.reads hne hwraps 0).1.reads
  constructor
  · intro hb
    exact hb.unique hread
  · intro hb
    rw [hb]
    exact hread

/-! ## Writing the row -/

/-- The text of a symbol, where the texts of the atoms are given. -/
def writeSymbol (texts : List String) : Symbol → String
  | .atom n => texts.getD n ""
  | .and => " AND "
  | .or => " OR "
  | .opening => "("
  | .closing => ")"

/-- The text of a row. -/
def write (texts : List String) : List Symbol → String
  | [] => ""
  | x :: xs => writeSymbol texts x ++ write texts xs

theorem write_append (texts : List String) (xs ys : List Symbol) :
    write texts (xs ++ ys) = write texts xs ++ write texts ys := by
  induction xs with
  | nil => simp [write]
  | cons x xs ih => simp [write, ih, String.append_assoc]

/-- Blanks stand around the conjunction of two members. -/
theorem joinMember_eq_write (texts : List String) {row member : List Symbol} {first : Bool}
    (hrow : first = true → row = []) (hrowText : first = false → write texts row ≠ "")
    (hmember : write texts member ≠ "") (conjunction : Conjunction) :
    joinMember first (write texts row) conjunction (write texts member) =
      write texts (addSymbols row first conjunction member) := by
  have hmember' : (write texts member).isEmpty = false := by simpa using hmember
  unfold joinMember addSymbols joinText
  cases first with
  | true =>
      rw [hrow rfl]
      simp [write, hmember']
  | false =>
      have hrowText' : (write texts row).isEmpty = false := by simpa using hrowText rfl
      cases conjunction with
      | and => simp [write_append, write, writeSymbol, joint, Conjunction.keyword, hmember',
          hrowText', String.append_assoc]
      | or => simp [write_append, write, writeSymbol, joint, Conjunction.keyword, hmember',
          hrowText', String.append_assoc]

end Query

/-- A condition that is not empty renders to some text, which is not empty either. -/
theorem Condition.exists_text {condition : Condition} (hne : condition.isEmpty = false)
    {s s' : Session} {text : Option String} (h : condition.render s = .ok text s') :
    ∃ t, text = some t ∧ t ≠ "" := by
  obtain ⟨glue, hglue, hmem⟩ := condition.operator.exists_text
  cases rendered_of_render h with
  | absent hparameters =>
      rw [isEmpty, hparameters] at hne
      cases hne
  | constant text hoperand hconstant =>
      rcases (constant_eq_some hconstant).2 with rfl | rfl
      · exact ⟨_, rfl, by decide⟩
      · exact ⟨_, rfl, by decide⟩
  | inlined column other source text t s' hoperand htarget hsource htext =>
      rw [Template.applyInline_eq_ok htext]
      exact ⟨_, rfl, Template.inline_ne_empty column other hglue hmem⟩
  | filled column values text t s' hparameters hconstant htarget htext =>
      obtain ⟨-, rfl, -⟩ := Template.apply_eq_ok htext
      exact ⟨_, rfl, Template.fill_ne_empty column values hglue hmem⟩

namespace Query

/-- Whether a nested query has several members, and is rendered in parentheses. -/
def several (q : Query) : Bool := 1 < q.length

/-- A query is rendered to its row, with these texts of its conditions.  The conditions are numbered
behind `prior` ones, and `later` ones may follow. -/
structure Written (query : Query) (s s' : Session) (text : String) (texts : List String) :
    Prop where
  length : texts.length = query.conditions.length
  conditions : query.conditions.mapM Condition.render s = .ok (texts.map some) s'
  nonempty : query.isEmpty = false → text ≠ ""
  row : ∀ prior later : List String,
    text = write (prior ++ texts ++ later) (query.symbolsBy several prior.length)

/-- The row of a member stands behind the row before it. -/
private theorem Written.join {before : Query} {s t : Session} {row text : String}
    {texts ms : List String} (h : before.Written s t row texts) (member : Nat → List Symbol)
    (htext : text ≠ "")
    (hmember : ∀ prior later : List String,
      text = write (prior ++ ms ++ later) (member prior.length))
    (conjunction : Conjunction) (prior later : List String) :
    joinMember before.isEmpty row conjunction text =
      write (prior ++ (texts ++ ms) ++ later)
        (addSymbols (before.symbolsBy several prior.length) before.isEmpty
          conjunction (member (prior.length + before.conditions.length))) := by
  have hrow := h.row prior (ms ++ later)
  have hthis := hmember (prior ++ texts) later
  rw [List.length_append, h.length] at hthis
  have hfirst : before.isEmpty = true → before.symbolsBy several prior.length = [] := by
    intro hempty
    rw [eq_empty_of_isEmpty hempty]
    rfl
  have hall : prior ++ texts ++ (ms ++ later) = prior ++ texts ++ ms ++ later := by
    rw [List.append_assoc (prior ++ texts)]
  rw [hall] at hrow
  have hjoin := joinMember_eq_write (prior ++ texts ++ ms ++ later) hfirst
    (fun hne => hrow ▸ h.nonempty hne) (hthis ▸ htext) conjunction
  rw [← hrow, ← hthis] at hjoin
  rw [hjoin, List.append_assoc prior texts ms]

/-- Members joined make some text. -/
theorem joinMember_ne_empty {first : Bool} {before member : String} (hmember : member ≠ "")
    (conjunction : Conjunction) : joinMember first before conjunction member ≠ "" := by
  have hmember' : ¬ member.isEmpty = true := fun h => hmember (String.isEmpty_iff.mp h)
  unfold joinMember
  generalize (if first = true then before else joinText before conjunction.keyword) = row
  unfold joinText
  rw [if_neg hmember']
  by_cases hrow : row.isEmpty
  · rw [if_pos hrow]
    exact hmember
  · rw [if_neg hrow]
    intro hempty
    exact hmember (String.append_eq_empty_iff.mp hempty).2

/-- Without members there is nothing to write. -/
theorem Written.empty (s : Session) : Query.empty.Written s s "" [] where
  length := rfl
  conditions := rfl
  nonempty hne := nomatch hne
  row _ _ := rfl

/-- A condition is one atom, with its own text. -/
theorem Written.addCondition {before : Query} {c : Condition} {s t s' : Session}
    {row text : String} {texts : List String} (h : before.Written s t row texts)
    (hrender : c.render t = .ok (some text) s') (htext : text ≠ "") (conjunction : Conjunction) :
    (Query.condition before conjunction c).Written s s'
      (joinMember before.isEmpty row conjunction text) (texts ++ [text]) := by
  have hatom : ∀ prior later : List String,
      text = write (prior ++ [text] ++ later) [.atom prior.length] := by
    intro prior later
    simp [write, writeSymbol]
  constructor
  · simp [Query.conditions, h.length]
  · rw [Query.conditions, List.map_append]
    exact Render.mapM_append_of_ok h.conditions (Render.mapM_singleton_of_ok hrender)
  · exact fun _ => joinMember_ne_empty htext conjunction
  · exact h.join (fun n => [.atom n]) htext hatom conjunction

/-- The text of a nested query, in parentheses if it has several members. -/
def wrapText (q : Query) (text : String) : String :=
  if 1 < q.length then "(" ++ text ++ ")" else text

/-- The row of a nested query, in parentheses if it has several members. -/
def wrapSymbols (q : Query) (start : Nat) : List Symbol :=
  if several q then .opening :: q.symbolsBy several start ++ [.closing]
  else q.symbolsBy several start

theorem wrapText_ne_empty {q : Query} {text : String} (h : text ≠ "") : q.wrapText text ≠ "" := by
  unfold wrapText
  by_cases hmany : 1 < q.length
  · rw [if_pos hmany]
    intro hempty
    obtain ⟨hleft, -⟩ := String.append_eq_empty_iff.mp hempty
    exact h (String.append_eq_empty_iff.mp hleft).2
  · rwa [if_neg hmany]

/-- A nested query has parentheses in its text where it has them in its row. -/
theorem Written.wrapText_eq_write {q : Query} {s s' : Session} {text : String}
    {texts : List String} (h : q.Written s s' text texts) (prior later : List String) :
    q.wrapText text = write (prior ++ texts ++ later) (q.wrapSymbols prior.length) := by
  have hrow := h.row prior later
  unfold wrapText wrapSymbols several
  by_cases hmany : 1 < q.length
  · simp only [hmany, decide_true, ↓reduceIte, List.cons_append, write, write_append,
      writeSymbol, String.append_empty, String.append_assoc]
    rw [hrow]
    rfl
  · simp only [hmany, decide_false, Bool.false_eq_true, ↓reduceIte]
    exact hrow

/-- A nested query that is not empty joins with its own row. -/
theorem Written.addQuery {before q : Query} {s t s' : Session} {row text : String}
    {texts ms : List String} (h : before.Written s t row texts) (hq : q.Written t s' text ms)
    (hne : q.isEmpty = false) (conjunction : Conjunction) :
    (Query.nested before conjunction q).Written s s'
      (joinMember before.isEmpty row conjunction (q.wrapText text)) (texts ++ ms) := by
  have htext : q.wrapText text ≠ "" := wrapText_ne_empty (hq.nonempty hne)
  constructor
  · simp [Query.conditions, h.length, hq.length]
  · rw [Query.conditions, List.map_append]
    exact Render.mapM_append_of_ok h.conditions hq.conditions
  · exact fun _ => joinMember_ne_empty htext conjunction
  · exact h.join q.wrapSymbols htext hq.wrapText_eq_write conjunction

section Members

variable {before : Query} {conjunction : Conjunction} {s s' : Session} {text : String}

/-- A condition is rendered after the members in front of it, and joins their row. -/
theorem renderMembers_condition_eq_ok {c : Condition}
    (h : (Query.condition before conjunction c).renderMembers s = .ok text s') :
    ∃ row t member, before.renderMembers s = .ok row t ∧ c.render t = .ok member s' ∧
      text = joinMember before.isEmpty row conjunction (member.getD "") := by
  unfold renderMembers at h
  obtain ⟨row, t, hrow, h⟩ := Step.bind_eq_ok h
  obtain ⟨member, u, hmember, h⟩ := Step.bind_eq_ok h
  obtain ⟨rfl, rfl⟩ := Step.pure_eq_ok h
  exact ⟨row, t, member, hrow, hmember, rfl⟩

/-- So is a nested query. -/
theorem renderMembers_nested_eq_ok {q : Query}
    (h : (Query.nested before conjunction q).renderMembers s = .ok text s') :
    ∃ row t member, before.renderMembers s = .ok row t ∧ q.renderMembers t = .ok member s' ∧
      text = joinMember before.isEmpty row conjunction (q.wrapText member) := by
  unfold renderMembers at h
  obtain ⟨row, t, hrow, h⟩ := Step.bind_eq_ok h
  obtain ⟨member, u, hmember, h⟩ := Step.bind_eq_ok h
  obtain ⟨rfl, rfl⟩ := Step.pure_eq_ok h
  exact ⟨row, t, member, hrow, hmember, rfl⟩

end Members

/-- Rendering a query renders its conditions in order, and writes its row with their texts. -/
theorem Pruned.written {query : Query} (h : query.Pruned) {s s' : Session} {text : String}
    (hrender : query.renderMembers s = .ok text s') : ∃ texts, query.Written s s' text texts := by
  induction query generalizing s s' text with
  | empty =>
      obtain ⟨rfl, rfl⟩ := Step.pure_eq_ok hrender
      exact ⟨[], .empty _⟩
  | condition before conjunction c ih =>
      obtain ⟨hbefore, hc⟩ := h
      obtain ⟨row, t, member, hrow, hmember, rfl⟩ := renderMembers_condition_eq_ok hrender
      obtain ⟨texts, hwritten⟩ := ih hbefore hrow
      obtain ⟨m, rfl, hm⟩ := Condition.exists_text hc hmember
      exact ⟨texts ++ [m], hwritten.addCondition hmember hm conjunction⟩
  | nested before conjunction q ihBefore ihNested =>
      obtain ⟨hbefore, hq, hqne⟩ := h
      obtain ⟨row, t, member, hrow, hmember, rfl⟩ := renderMembers_nested_eq_ok hrender
      obtain ⟨texts, hwritten⟩ := ihBefore hbefore hrow
      obtain ⟨ms, hnested⟩ := ihNested hq hmember
      exact ⟨texts ++ ms, hwritten.addQuery hnested hqne conjunction⟩

end Query

/-! ## Summary -/

/-- Let a query be built by adding members.  It is rendered to the texts of its conditions, in order
and with AND, OR and parentheses between them, and reading this row with precedence finds what the
query means, whatever the truth of its conditions is.  With parentheses around every nested query
the row is read in the same way. -/
theorem rendering_keeps_the_meaning {query : Query} (hbuilt : query.Built) {s s' : Session}
    {text : String} (hrender : query.render s = .ok (some text) s') :
    (∃ texts : List String, texts.length = query.conditions.length ∧
      query.conditions.mapM Condition.render s = .ok (texts.map some) s' ∧
      text = Query.write texts query.symbols) ∧
    ∀ (truth : Nat → Bool) (b : Bool),
      (Reads truth .disjunction query.symbols b ↔ b = query.meaning truth) ∧
      (Reads truth .disjunction query.parenthesized b ↔ b = query.meaning truth) := by
  have hpruned := hbuilt.pruned
  unfold Query.render at hrender
  by_cases hempty : query.isEmpty
  · rw [if_pos hempty] at hrender
    obtain ⟨hnone, -⟩ := Step.pure_eq_ok hrender
    cases hnone
  · have hne : query.isEmpty = false := by simpa using hempty
    rw [if_neg hempty] at hrender
    obtain ⟨written, t, hmembers, hrender⟩ := Step.bind_eq_ok hrender
    obtain ⟨hwritten, rfl⟩ := Step.pure_eq_ok hrender
    cases hwritten
    obtain ⟨texts, hrow⟩ := hpruned.written hmembers
    refine ⟨⟨texts, hrow.length, hrow.conditions, ?_⟩, ?_⟩
    · have htext := hrow.row [] []
      rw [List.nil_append, List.append_nil] at htext
      exact htext
    · intro truth b
      constructor
      · exact hpruned.reads_iff hne (fun q hmany => by simpa using hmany) b
      · exact hpruned.reads_iff hne (fun _ _ => rfl) b

/-- A condition, a nested query with a single nested query inside, and another condition. -/
def Query.wrapped : Query :=
  ((Query.empty.addCondition .and ⟨.raw "a", .eq, .value (.int 1)⟩).addQuery .and
    (Query.empty.addQuery .or
      ((Query.empty.addCondition .and ⟨.raw "b", .isNull, .unary⟩).addCondition .or
        ⟨.raw "c", .eq, .value (.int 2)⟩))).addCondition .or ⟨.raw "d", .notNull, .unary⟩

/-- The inner query is rendered in one pair of parentheses, and means what it says. -/
theorem reading_of_wrapped :
    Query.wrapped.Built ∧ ∃ text s',
      Query.wrapped.render (Session.start .full (.empty 5)) = .ok (some text) s' ∧
      ∀ truth b, Reads truth .disjunction Query.wrapped.symbols b ↔
        b = ((truth 0 && (truth 1 || truth 2)) || truth 3) := by
  have hbuilt : Query.wrapped.Built :=
    .addCondition _ _ (.addQuery _ (.addCondition _ _ .empty)
      (.addQuery _ .empty (.addCondition _ _ (.addCondition _ _ .empty))))
  have hmeaning : ∀ a b c d : Bool,
      Query.anyAll [[d], [Query.anyAll [[Query.anyAll [[c], [b]]]], a]] =
        ((a && (b || c)) || d) := by decide
  obtain ⟨text, s', hrender⟩ : ∃ text s',
      Query.wrapped.render (Session.start .full (.empty 5)) = .ok (some text) s' := ⟨_, _, rfl⟩
  refine ⟨hbuilt, text, s', hrender, ?_⟩
  intro truth b
  rw [← hmeaning (truth 0) (truth 1) (truth 2) (truth 3)]
  exact ((rendering_keeps_the_meaning hbuilt hrender).2 truth b).1

end QueryLoom

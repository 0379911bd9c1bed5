import QueryLoom.Proofs.EmptyMembers
import QueryLoom.Proofs.Failure
import QueryLoom.Proofs.OneBody

/-!
# Clauses in order

The stages of a chain allow many sequences of calls, and each call appends its own segments.  Yet
the segments always make up whole clauses, which stand in the order that SQL wants, each kind at
most once but for joins and paging.  A clause is left out when it has nothing to say, and otherwise
it has a text, so the statement is the row of these texts with single blanks between them.

## Main definitions

* `Clause`: clauses, with their segments and their texts.
* `Clause.Said`: clauses that have something to say.
* `Chain.joins`, `Chain.rowFilter`, `Chain.groupFilter`, `Chain.orders`, `Chain.counts`: what the
  calls of a selection contribute.
* `Chain.update?`: the assignments of an update.
* `Chain.selectionClauses`, `Chain.updateClauses`: the clauses of a chain in their order.

## Main results

* `Clause.direct_of_directAll`: the segments of a clause have its text, which is not empty.
* `Chain.body_eq`: the body of a selection consists of clauses.
* `clauses_stand_in_order`: the summary.
-/

namespace QueryLoom

open Step

/-! ## Clauses -/

/-- A join of a table, with its condition. -/
structure Join where
  kind : JoinKind
  table : TableRef
  condition : Query

/-- A clause of a statement. -/
inductive Clause where
  | select (items : List SelectItem)
  | fromTable (table : TableRef)
  | join (join : Join)
  | filter (query : Query)
  | groupBy (columns : List Column)
  | having (query : Query)
  | orderBy (orders : List Order)
  | limit (n : Int)
  | offset (n : Int)
  | update (source : TableSource)
  | set (assignments : Assignments)

namespace Clause

/-- The segments of a clause. -/
def segments : Clause → List Segment
  | .select items => [.keyword "SELECT", .selection items]
  | .fromTable table => [.keyword "FROM", .table table]
  | .join j => .join j.kind :: .table j.table :: Segment.clause "ON" j.condition
  | .filter query => [.keyword "WHERE", .query query]
  | .groupBy columns => [.groupBy columns]
  | .having query => [.keyword "HAVING", .query query]
  | .orderBy orders => [.orderBy orders]
  | .limit n => Segment.counting .limit n
  | .offset n => Segment.counting .offset n
  | .update source => [.keyword "UPDATE", .target source]
  | .set assignments => [.keyword "SET", .assignments assignments]

/-- The text of a clause, with its keyword.  Everything is selected, by a star, when there are no
items; a join has a condition when its query has members. -/
def direct (aliases : Aliases) : Clause → Except Error String
  | .select items =>
    if items.isEmpty then .ok "SELECT *" else do
      let texts ← items.mapM (SelectItem.direct aliases)
      pure ("SELECT " ++ ", ".intercalate texts.flatten)
  | .fromTable table => .ok ("FROM " ++ table.direct aliases)
  | .join j =>
    if j.condition.isEmpty then .ok (j.kind.keyword ++ " " ++ j.table.direct aliases) else do
      let text ← j.condition.directMembers aliases
      pure (j.kind.keyword ++ " " ++ j.table.direct aliases ++ " ON " ++ text)
  | .filter query => do
    let text ← query.directMembers aliases
    pure ("WHERE " ++ text)
  | .groupBy columns => do
    let texts ← columns.mapM (Column.direct aliases)
    pure ("GROUP BY " ++ ", ".intercalate texts)
  | .having query => do
    let text ← query.directMembers aliases
    pure ("HAVING " ++ text)
  | .orderBy orders => do
    let texts ← orders.mapM (Order.direct aliases)
    pure ("ORDER BY " ++ ", ".intercalate texts)
  | .limit n => .ok ("LIMIT " ++ toString n)
  | .offset n => .ok ("OFFSET " ++ toString n)
  | .update source => .ok ("UPDATE " ++ Identifier.quote source.directName)
  | .set assignments => do
    let texts ← assignments.mapM (Assignment.direct aliases)
    pure ("SET " ++ ", ".intercalate texts)

end Clause

/-- The item selects something: the entity of all fields has fields, and a raw text is not empty. -/
def SelectItem.Shown : SelectItem → Prop
  | .all entity => entity.properties ≠ []
  | .raw text => text ≠ ""
  | _ => True

/-- The clause has something to say. -/
def Clause.Said : Clause → Prop
  | .select items => ∀ item ∈ items, item.Shown
  | .join j => j.condition.Pruned
  | .filter query | .having query => query.Pruned ∧ query.isEmpty = false
  | .limit n | .offset n => 0 ≤ n
  | .set assignments => assignments ≠ []
  | .fromTable _ | .groupBy _ | .orderBy _ | .update _ => True

/-! ## Texts that are not empty -/

/-- A text with more text around it is not empty. -/
theorem append_ne_empty_left {a : String} (h : a ≠ "") (b : String) : a ++ b ≠ "" :=
  fun hempty => h (String.append_eq_empty_iff.mp hempty).1

theorem append_ne_empty_right {b : String} (h : b ≠ "") (a : String) : a ++ b ≠ "" :=
  fun hempty => h (String.append_eq_empty_iff.mp hempty).2

namespace Query

/-- Two texts are joined by a blank if neither is empty. -/
theorem joinText_of_ne_empty {a b : String} (ha : a ≠ "") (hb : b ≠ "") :
    joinText a b = a ++ " " ++ b := by
  unfold joinText
  rw [if_neg fun h => hb (String.isEmpty_iff.mp h), if_neg fun h => ha (String.isEmpty_iff.mp h)]

/-- A text joins a row of others before it. -/
theorem joinText_intercalate_cons {text : String} (htext : text ≠ "") {texts : List String}
    (hne : ∀ t ∈ texts, t ≠ "") :
    joinText text (" ".intercalate texts) = " ".intercalate (text :: texts) := by
  cases texts with
  | nil => simpa using joinText_empty_right text
  | cons next rest =>
      rw [String.intercalate_cons_cons]
      exact joinText_of_ne_empty htext (intercalate_ne_empty hne (List.cons_ne_nil next rest) " ")

end Query

/-- A condition that is not empty has some text. -/
theorem Condition.exists_direct {c : Condition} (hne : c.isEmpty = false) {aliases : Aliases}
    {text : Option String} (h : c.direct aliases = .ok text) : ∃ t, text = some t ∧ t ≠ "" := by
  obtain ⟨glue, hglue, hmem⟩ := c.operator.exists_text
  unfold direct at h
  cases hparameters : c.parameters? with
  | none =>
      rw [isEmpty, hparameters] at hne
      cases hne
  | some values =>
      rw [hparameters] at h
      cases hconstant : c.constant? with
      | some constant =>
          rw [hconstant] at h
          cases h
          rcases (constant_eq_some hconstant).2 with rfl | rfl
          · exact ⟨_, rfl, by decide⟩
          · exact ⟨_, rfl, by decide⟩
      | none =>
          rw [hconstant] at h
          obtain ⟨column, -, h⟩ := exists_of_bind_eq_ok h
          have hfilled : ∀ {text : Option String},
              (c.operator.template.filled column values >>= fun t => pure (some t)) = .ok text →
                ∃ t, text = some t ∧ t ≠ "" := by
            intro text h
            obtain ⟨written, hwritten, h⟩ := exists_of_bind_eq_ok h
            unfold Template.filled at hwritten
            split at hwritten
            · cases hwritten
              cases h
              exact ⟨_, rfl, Template.fill_ne_empty column values hglue hmem⟩
            · cases hwritten
          cases hoperand : c.operand with
          | column source =>
              rw [hoperand] at h
              obtain ⟨other, -, h⟩ := exists_of_bind_eq_ok h
              obtain ⟨written, hwritten, h⟩ := exists_of_bind_eq_ok h
              cases h
              rw [Template.applyInline_eq_ok hwritten]
              exact ⟨_, rfl, Template.inline_ne_empty column other hglue hmem⟩
          | _ =>
              rw [hoperand] at h
              exact hfilled h

/-- The members of a query that has some have some text. -/
theorem Query.Pruned.directMembers_ne_empty {query : Query} (h : query.Pruned)
    (hne : query.isEmpty = false) {aliases : Aliases} {text : String}
    (htext : query.directMembers aliases = .ok text) : text ≠ "" := by
  induction query generalizing text with
  | empty => cases hne
  | condition before conjunction c ih =>
      obtain ⟨row, -, htext⟩ := exists_of_bind_eq_ok htext
      obtain ⟨member, hmember, htext⟩ := exists_of_bind_eq_ok htext
      obtain ⟨written, rfl, hwritten⟩ := Condition.exists_direct h.2 hmember
      cases htext
      exact joinMember_ne_empty hwritten conjunction
  | nested before conjunction q ihBefore ihNested =>
      obtain ⟨row, -, htext⟩ := exists_of_bind_eq_ok htext
      obtain ⟨member, hmember, htext⟩ := exists_of_bind_eq_ok htext
      cases htext
      exact joinMember_ne_empty (wrapText_ne_empty (ihNested h.2.1 h.2.2 hmember)) conjunction

/-- An identifier is not empty, and neither is a field. -/
theorem Identifier.quote_ne_empty (name : String) : quote name ≠ "" := by
  intro hempty
  have hchars : quoteChars name.toList = [] := by
    simpa [quote] using congrArg String.toList hempty
  unfold quoteChars at hchars
  by_cases hquoted : isQuoted name.toList
  · rw [if_pos hquoted] at hchars
    rw [hchars] at hquoted
    cases hquoted
  · rw [if_neg hquoted] at hchars
    cases hchars

theorem Field.direct_ne_empty {f : Field} {aliases : Aliases} {text : String}
    (h : f.direct aliases = .ok text) : text ≠ "" := by
  obtain ⟨column, -, h⟩ := exists_of_bind_eq_ok h
  cases halias : aliases.aliasOf? (.ofEntity f.entity) with
  | some aliasName =>
      rw [halias] at h
      cases h
      exact append_ne_empty_right (Identifier.quote_ne_empty column) _
  | none =>
      rw [halias] at h
      cases h
      exact Identifier.quote_ne_empty column

theorem Field.directSelection_ne_empty {f : Field} {aliases : Aliases} {text : String}
    (h : f.directSelection aliases = .ok text) : text ≠ "" := by
  obtain ⟨name, hname, h⟩ := exists_of_bind_eq_ok h
  cases h
  exact append_ne_empty_left (append_ne_empty_left (direct_ne_empty hname) _) _

theorem Aggregate.direct_ne_empty {a : Aggregate} {aliases : Aliases} {text : String}
    (h : a.direct aliases = .ok text) : text ≠ "" := by
  obtain ⟨function, target, aliasName⟩ := a
  obtain ⟨argument, -, h⟩ := exists_of_bind_eq_ok h
  have hcall : function.keyword ++ "(" ++ argument ++ ")" ≠ "" :=
    append_ne_empty_right (by decide) _
  cases h
  cases aliasName with
  | some name => exact append_ne_empty_left (append_ne_empty_left hcall _) _
  | none => exact hcall

/-- An item that selects something has texts, and none of them is empty. -/
theorem SelectItem.Shown.direct_ne_empty {item : SelectItem} (h : item.Shown) {aliases : Aliases}
    {texts : List String} (htexts : item.direct aliases = .ok texts) :
    texts ≠ [] ∧ ∀ t ∈ texts, t ≠ "" := by
  have hone : ∀ {r : Except Error String}, (∀ t, r = .ok t → t ≠ "") →
      (r >>= fun t => pure [t]) = .ok texts → texts ≠ [] ∧ ∀ t ∈ texts, t ≠ "" := by
    intro r hr htexts
    obtain ⟨text, htext, htexts⟩ := exists_of_bind_eq_ok htexts
    cases htexts
    exact ⟨List.cons_ne_nil _ _, List.forall_mem_singleton.mpr (hr text htext)⟩
  cases item with
  | field f => exact hone (fun _ => Field.directSelection_ne_empty) htexts
  | aliased f aliasName => exact hone (fun _ => Field.directSelection_ne_empty) htexts
  | name f => exact hone (fun _ => Field.direct_ne_empty) htexts
  | aggregate a => exact hone (fun _ => Aggregate.direct_ne_empty) htexts
  | raw text =>
      cases htexts
      exact ⟨List.cons_ne_nil _ _, List.forall_mem_singleton.mpr h⟩
  | all entity =>
      refine ⟨ne_nil_of_mapM_eq_ok htexts h, fun t ht => ?_⟩
      obtain ⟨p, -, hp⟩ := (mem_of_mapM_eq_ok htexts).2 t ht
      exact Field.directSelection_ne_empty hp

/-! ## The text of a clause -/

theorem TableRef.direct_ne_empty (table : TableRef) (aliases : Aliases) :
    table.direct aliases ≠ "" :=
  append_ne_empty_left (append_ne_empty_left (Identifier.quote_ne_empty _) _) _

theorem JoinKind.keyword_ne_empty (kind : JoinKind) : kind.keyword ≠ "" := by
  cases kind <;> decide

theorem Assignment.direct_ne_empty {a : Assignment} {aliases : Aliases} {text : String}
    (h : a.direct aliases = .ok text) : text ≠ "" := by
  obtain ⟨target, source⟩ := a
  obtain ⟨column, -, h⟩ := exists_of_bind_eq_ok h
  cases source with
  | value v =>
      cases h
      exact append_ne_empty_right (by decide) _
  | column c =>
      obtain ⟨other, -, h⟩ := exists_of_bind_eq_ok h
      cases h
      exact append_ne_empty_left (append_ne_empty_right (by decide) _) _

/-- One segment has its own text. -/
theorem Segment.directAll_singleton_eq_ok {scope : Scope} {segment : Segment} {sql : String}
    (h : directAll scope [segment] = .ok sql) :
    ∃ text, segment.direct scope = .ok text ∧ sql = text.getD "" := by
  obtain ⟨text, others, htext, hothers, rfl⟩ := directAll_cons_eq_ok h
  cases hothers
  exact ⟨text, htext, Query.joinText_empty_right _⟩

/-- A keyword stands before the text of its segment. -/
theorem Segment.directAll_keyword_eq_ok {scope : Scope} {keyword sql : String} {segment : Segment}
    (h : directAll scope [.keyword keyword, segment] = .ok sql) :
    ∃ text, segment.direct scope = .ok text ∧ sql = Query.joinText keyword (text.getD "") := by
  obtain ⟨_, others, hkeyword, hothers, rfl⟩ := directAll_cons_eq_ok h
  obtain ⟨text, htext, rfl⟩ := directAll_singleton_eq_ok hothers
  cases hkeyword
  exact ⟨text, htext, rfl⟩

/-- A query with members stands behind its keyword. -/
theorem Segment.directAll_query_eq_ok {scope : Scope} {keyword sql : String} {q : Query}
    (hpruned : q.Pruned) (hne : q.isEmpty = false) (hkeyword : keyword ≠ "")
    (h : directAll scope [.keyword keyword, .query q] = .ok sql) :
    ∃ text, q.directMembers scope.aliases = .ok text ∧ sql = keyword ++ " " ++ text := by
  obtain ⟨text, htext, rfl⟩ := directAll_keyword_eq_ok h
  rw [direct, Query.direct, if_neg (by simp [hne])] at htext
  obtain ⟨members, hmembers, htext⟩ := exists_of_bind_eq_ok htext
  cases htext
  exact ⟨members, hmembers,
    Query.joinText_of_ne_empty hkeyword (hpruned.directMembers_ne_empty hne hmembers)⟩

namespace Clause

variable {aliases : Aliases} {sql : String}

theorem select_of_directAll {items : List SelectItem} (hshown : ∀ item ∈ items, item.Shown)
    (h : Segment.directAll ⟨aliases, .full⟩ (select items).segments = .ok sql) :
    (select items).direct aliases = .ok sql ∧ sql ≠ "" := by
  obtain ⟨text, htext, rfl⟩ := Segment.directAll_keyword_eq_ok h
  rw [Segment.direct_selection (by decide)] at htext
  obtain ⟨listed, hlisted, htext⟩ := exists_of_bind_eq_ok htext
  cases htext
  unfold SelectItem.directList at hlisted
  cases hitems : items with
  | nil =>
      rw [hitems] at hlisted
      cases hlisted
      exact ⟨rfl, by decide⟩
  | cons item rest =>
      rw [hitems] at hlisted hshown
      obtain ⟨texts, htexts, hlisted⟩ := exists_of_bind_eq_ok hlisted
      cases hlisted
      obtain ⟨hevery, hfrom⟩ := mem_of_mapM_eq_ok htexts
      have hne : ", ".intercalate texts.flatten ≠ "" := by
        refine intercalate_ne_empty (fun t ht => ?_) ?_ ", "
        · obtain ⟨row, hrow, ht⟩ := List.mem_flatten.mp ht
          obtain ⟨i, hi, hdirect⟩ := hfrom row hrow
          exact ((hshown i hi).direct_ne_empty hdirect).2 t ht
        · obtain ⟨row, hrow, hdirect⟩ := hevery item List.mem_cons_self
          obtain ⟨t, ht⟩ := List.exists_mem_of_ne_nil _
            ((hshown item List.mem_cons_self).direct_ne_empty hdirect).1
          exact List.ne_nil_of_mem (List.mem_flatten.mpr ⟨row, hrow, ht⟩)
      have hjoin : Query.joinText "SELECT" (", ".intercalate texts.flatten) =
          "SELECT " ++ ", ".intercalate texts.flatten :=
        Query.joinText_of_ne_empty (by decide) hne
      refine ⟨?_, ?_⟩
      · rw [Option.getD_some, hjoin, direct, if_neg (by simp), htexts]
        rfl
      · rw [Option.getD_some, hjoin]
        exact append_ne_empty_left (by decide) _

theorem join_of_directAll {j : Join} (hpruned : j.condition.Pruned)
    (h : Segment.directAll ⟨aliases, .full⟩ (join j).segments = .ok sql) :
    (join j).direct aliases = .ok sql ∧ sql ≠ "" := by
  obtain ⟨_, rest, hkeyword, hrest, rfl⟩ := Segment.directAll_cons_eq_ok h
  obtain ⟨_, others, htable, hothers, rfl⟩ := Segment.directAll_cons_eq_ok hrest
  cases hkeyword
  cases htable
  have htable := j.table.direct_ne_empty aliases
  have hkeyword := j.kind.keyword_ne_empty
  unfold direct
  unfold Segment.clause at hothers
  simp only [Option.getD_some]
  cases hempty : j.condition.isEmpty with
  | true =>
      rw [if_pos hempty] at hothers
      cases hothers
      rw [Query.joinText_empty_right, Query.joinText_of_ne_empty hkeyword htable]
      exact ⟨rfl, append_ne_empty_left (append_ne_empty_left hkeyword _) _⟩
  | false =>
      rw [if_neg (by simp [hempty])] at hothers
      obtain ⟨text, htext, rfl⟩ :=
        Segment.directAll_query_eq_ok hpruned hempty (by decide) hothers
      have hon : "ON" ++ " " ++ text ≠ "" := append_ne_empty_left (by decide) _
      rw [Query.joinText_of_ne_empty htable hon,
        Query.joinText_of_ne_empty hkeyword (append_ne_empty_right hon _), htext]
      refine ⟨?_, append_ne_empty_left (append_ne_empty_left hkeyword _) _⟩
      have hblanks : " " ++ ("ON" ++ " ") = " ON " := by decide
      show Except.ok (j.kind.keyword ++ " " ++ j.table.direct aliases ++ " ON " ++ text) = _
      rw [← hblanks]
      simp only [String.append_assoc]

theorem set_of_directAll {assignments : Assignments} (hsome : assignments ≠ [])
    (h : Segment.directAll ⟨aliases, .full⟩ (set assignments).segments = .ok sql) :
    (set assignments).direct aliases = .ok sql ∧ sql ≠ "" := by
  obtain ⟨text, htext, rfl⟩ := Segment.directAll_keyword_eq_ok h
  rw [Segment.direct, Assignments.direct, if_neg (by simpa using hsome)] at htext
  obtain ⟨texts, htexts, htext⟩ := exists_of_bind_eq_ok htext
  cases htext
  have hne : ", ".intercalate texts ≠ "" := by
    refine intercalate_ne_empty (fun t ht => ?_) (ne_nil_of_mapM_eq_ok htexts hsome) ", "
    obtain ⟨a, -, ha⟩ := (mem_of_mapM_eq_ok htexts).2 t ht
    exact Assignment.direct_ne_empty ha
  rw [Option.getD_some, Query.joinText_of_ne_empty (by decide) hne, direct, htexts]
  exact ⟨rfl, append_ne_empty_left (by decide) _⟩

/-- The segments of a clause that has something to say have its text, which is not empty. -/
theorem direct_of_directAll {clause : Clause} (hsaid : clause.Said)
    (h : Segment.directAll ⟨aliases, .full⟩ clause.segments = .ok sql) :
    clause.direct aliases = .ok sql ∧ sql ≠ "" := by
  cases clause with
  | select items => exact select_of_directAll hsaid h
  | fromTable table =>
      obtain ⟨text, htext, rfl⟩ := Segment.directAll_keyword_eq_ok h
      cases htext
      rw [Option.getD_some, Query.joinText_of_ne_empty (by decide) (table.direct_ne_empty aliases)]
      exact ⟨rfl, append_ne_empty_left (by decide) _⟩
  | join j => exact join_of_directAll hsaid h
  | filter q =>
      obtain ⟨text, htext, rfl⟩ := Segment.directAll_query_eq_ok hsaid.1 hsaid.2 (by decide) h
      rw [direct, htext]
      exact ⟨rfl, append_ne_empty_left (by decide) _⟩
  | having q =>
      obtain ⟨text, htext, rfl⟩ := Segment.directAll_query_eq_ok hsaid.1 hsaid.2 (by decide) h
      rw [direct, htext]
      exact ⟨rfl, append_ne_empty_left (by decide) _⟩
  | groupBy columns =>
      obtain ⟨text, htext, rfl⟩ := Segment.directAll_singleton_eq_ok h
      obtain ⟨texts, htexts, htext⟩ := exists_of_bind_eq_ok htext
      cases htext
      rw [direct, htexts]
      exact ⟨rfl, append_ne_empty_left (by decide) _⟩
  | orderBy orders =>
      obtain ⟨text, htext, rfl⟩ := Segment.directAll_singleton_eq_ok h
      obtain ⟨listed, hlisted, htext⟩ := exists_of_bind_eq_ok htext
      obtain ⟨texts, htexts, hlisted⟩ := exists_of_bind_eq_ok hlisted
      cases hlisted
      cases htext
      rw [direct, htexts]
      exact ⟨rfl, append_ne_empty_left (by decide) _⟩
  | limit n =>
      obtain ⟨n, rfl⟩ := Int.eq_ofNat_of_zero_le hsaid
      obtain ⟨text, htext, rfl⟩ := Segment.directAll_singleton_eq_ok h
      cases htext
      exact ⟨rfl, append_ne_empty_left (by decide) _⟩
  | offset n =>
      obtain ⟨n, rfl⟩ := Int.eq_ofNat_of_zero_le hsaid
      obtain ⟨text, htext, rfl⟩ := Segment.directAll_singleton_eq_ok h
      cases htext
      exact ⟨rfl, append_ne_empty_left (by decide) _⟩
  | update source =>
      obtain ⟨text, htext, rfl⟩ := Segment.directAll_keyword_eq_ok h
      cases htext
      rw [Option.getD_some,
        Query.joinText_of_ne_empty (by decide) (Identifier.quote_ne_empty source.directName)]
      exact ⟨rfl, append_ne_empty_left (by decide) _⟩
  | set assignments => exact set_of_directAll hsaid h

/-- Clauses are written one after the other, with single blanks between them. -/
theorem exists_texts {clauses : List Clause} (hsaid : ∀ c ∈ clauses, c.Said)
    (h : Segment.directAll ⟨aliases, .full⟩ (clauses.flatMap segments) = .ok sql) :
    ∃ texts, clauses.mapM (direct aliases) = .ok texts ∧ (∀ t ∈ texts, t ≠ "") ∧
      sql = " ".intercalate texts := by
  induction clauses generalizing sql with
  | nil =>
      cases h
      exact ⟨[], rfl, List.forall_mem_nil _, rfl⟩
  | cons clause rest ih =>
      obtain ⟨hfirst, hrest⟩ := List.forall_mem_cons.mp hsaid
      rw [List.flatMap_cons] at h
      obtain ⟨text, others, htext, hothers, rfl⟩ := Segment.directAll_append_eq_ok h
      obtain ⟨hdirect, hne⟩ := direct_of_directAll hfirst htext
      obtain ⟨texts, htexts, hnonempty, rfl⟩ := ih hrest hothers
      refine ⟨text :: texts, ?_, List.forall_mem_cons.mpr ⟨hne, hnonempty⟩,
        Query.joinText_intercalate_cons hne hnonempty⟩
      rw [List.mapM_cons, hdirect, htexts]
      rfl

end Clause

/-! ## The clauses of a chain -/

namespace Chain

/-- The joins of a selection, in the order of the calls; a join has no condition until it is
given. -/
def joins : {s : Stage} → Chain s → List Join
  | _, .join chain kind table => chain.joins ++ [⟨kind, table, .empty⟩]
  | _, .on (.join chain kind table) query => chain.joins ++ [⟨kind, table, query⟩]
  | _, .unconditioned chain => chain.joins
  | _, .matching chain _ => chain.joins
  | _, .groupBy _ chain _ => chain.joins
  | _, .having chain _ => chain.joins
  | _, .order _ chain _ => chain.joins
  | _, .limit _ chain _ => chain.joins
  | _, .offset _ chain _ => chain.joins
  | _, _ => []

/-- The query that chooses rows. -/
def rowFilter : {s : Stage} → Chain s → Query
  | _, .matching _ query => query
  | _, .groupBy _ chain _ => chain.rowFilter
  | _, .having chain _ => chain.rowFilter
  | _, .order _ chain _ => chain.rowFilter
  | _, .limit _ chain _ => chain.rowFilter
  | _, .offset _ chain _ => chain.rowFilter
  | _, .choosing _ query => query
  | _, _ => .empty

/-- The query that chooses groups. -/
def groupFilter : {s : Stage} → Chain s → Query
  | _, .having _ query => query
  | _, .order _ chain _ => chain.groupFilter
  | _, .limit _ chain _ => chain.groupFilter
  | _, .offset _ chain _ => chain.groupFilter
  | _, _ => .empty

/-- The terms of the order of a selection. -/
def orders : {s : Stage} → Chain s → List Order
  | _, .order _ _ orders => orders
  | _, .limit _ chain _ => chain.orders
  | _, .offset _ chain _ => chain.orders
  | _, _ => []

/-- The limits and offsets of a selection, in the order of the calls. -/
def counts : {s : Stage} → Chain s → List Clause
  | _, .limit _ chain n => chain.counts ++ [.limit n]
  | _, .offset _ chain n => chain.counts ++ [.offset n]
  | _, _ => []

/-- The assignments of an update, as they were collected. -/
def update? : {s : Stage} → Chain s → Option (Chain .updating)
  | _, .assign chain => some chain
  | _, .choosing chain _ => chain.update?
  | _, _ => none

/-- Before rows are chosen there is no query that does. -/
theorem unfiltered {s : Stage} (chain : Chain s) (h : s = .tabled ∨ s = .joined) :
    chain.rowFilter = .empty := by
  cases chain <;> first | rfl | (rcases h with h | h <;> cases h)

/-- Before groups are chosen there is no query that does. -/
theorem unrestricted {s : Stage} (chain : Chain s)
    (h : s.groupable = true ∨ s = .joined ∨ s = .grouped) : chain.groupFilter = .empty := by
  cases chain <;> first | rfl | (rcases h with h | h | h <;> cases h)

/-- The segments of the joins of a selection. -/
def joinSegments {s : Stage} (chain : Chain s) : List Segment :=
  chain.joins.flatMap fun j => (Clause.join j).segments

/-- The segment that groups rows; none if there are no columns. -/
def groupSegments {s : Stage} (chain : Chain s) : List Segment :=
  if chain.grouping.isEmpty then [] else [.groupBy chain.grouping]

/-- The body of a selection names its table, and then its joins follow, with their tables, the
query that chooses rows, the columns to group by and the query that chooses groups. -/
theorem body_eq {s : Stage} (chain : Chain s) (h : s.isNamed = true) :
    ∃ table, chain.tables = table :: chain.joins.map (·.table) ∧
      chain.body = .keyword "FROM" :: .table table :: (chain.joinSegments ++
        (Segment.clause "WHERE" chain.rowFilter ++ (chain.groupSegments ++
          Segment.clause "HAVING" chain.groupFilter))) := by
  have hnothing : ∀ keyword, Segment.clause keyword .empty = [] := fun _ => rfl
  have hungrouped : ∀ {s : Stage} (chain : Chain s), s.groupable = true ∨ s = .joined →
      chain.groupSegments = [] := by
    intro s chain h
    rw [groupSegments, chain.ungrouped h]
    rfl
  induction chain with
  | fromTable chain table ih =>
      cases chain with
      | select items => exact ⟨table, rfl, rfl⟩
  | join chain kind joined ih =>
      obtain ⟨table, htables, hbody⟩ := ih rfl
      rw [chain.unfiltered (.inl rfl), chain.unrestricted (.inl rfl), hungrouped chain (.inl rfl)]
        at hbody
      refine ⟨table, ?_, ?_⟩
      · rw [tables, htables]
        simp [joins]
      · rw [body, hbody]
        simp [joinSegments, joins, rowFilter, groupFilter, groupSegments, grouping, hnothing,
          Clause.segments]
  | on chain query ih =>
      obtain ⟨table, htables, hbody⟩ := ih rfl
      cases chain with
      | join chain kind joined =>
          refine ⟨table, ?_, ?_⟩
          · rw [tables, htables]
            simp [joins]
          · rw [body, hbody]
            simp [joinSegments, joins, rowFilter, groupFilter, groupSegments, grouping, hnothing,
              Clause.segments]
  | unconditioned chain ih =>
      obtain ⟨table, htables, hbody⟩ := ih rfl
      rw [chain.unfiltered (.inr rfl), chain.unrestricted (.inr (.inl rfl)),
        hungrouped chain (.inr rfl)] at hbody
      exact ⟨table, htables, hbody⟩
  | matching chain query ih =>
      obtain ⟨table, htables, hbody⟩ := ih rfl
      rw [chain.unfiltered (.inl rfl), chain.unrestricted (.inl rfl), hungrouped chain (.inl rfl)]
        at hbody
      refine ⟨table, htables, ?_⟩
      rw [body, hbody]
      simp [joinSegments, joins, rowFilter, groupFilter, groupSegments, grouping, hnothing]
  | groupBy groupable chain columns ih =>
      have hnamed := Stage.isNamed_of_limitable
        (Stage.limitable_of_orderable (Stage.orderable_of_groupable groupable))
      obtain ⟨table, htables, hbody⟩ := ih hnamed
      rw [chain.unrestricted (.inl groupable), hungrouped chain (.inl groupable)] at hbody
      refine ⟨table, htables, ?_⟩
      rw [body, hbody]
      simp [joinSegments, joins, rowFilter, groupFilter, groupSegments, grouping, hnothing]
  | having chain query ih =>
      obtain ⟨table, htables, hbody⟩ := ih rfl
      rw [chain.unrestricted (.inr (.inr rfl))] at hbody
      refine ⟨table, htables, ?_⟩
      rw [body, hbody]
      simp [joinSegments, joins, rowFilter, groupFilter, groupSegments, grouping, hnothing]
  | order orderable chain orders ih =>
      have hnamed := Stage.isNamed_of_limitable (Stage.limitable_of_orderable orderable)
      exact ih hnamed
  | limit limitable chain n ih => exact ih (Stage.isNamed_of_limitable limitable)
  | offset limitable chain n ih => exact ih (Stage.isNamed_of_limitable limitable)
  | _ => cases h

theorem ordering_eq {s : Stage} (chain : Chain s) :
    chain.ordering = if chain.orders.isEmpty then [] else [.orderBy chain.orders] := by
  induction chain with
  | limit limitable chain n ih => exact ih
  | offset limitable chain n ih => exact ih
  | _ => rfl

theorem pages_eq {s : Stage} (chain : Chain s) :
    chain.pages = chain.counts.flatMap Clause.segments := by
  induction chain with
  | limit limitable chain n ih => simp [pages, counts, ih, Clause.segments]
  | offset limitable chain n ih => simp [pages, counts, ih, Clause.segments]
  | _ => rfl

/-- Without faults the counts of rows are natural numbers. -/
theorem mem_counts {s : Stage} {chain : Chain s} (h : chain.faults = []) :
    ∀ c ∈ chain.counts, ∃ n : Nat, c = .limit n ∨ c = .offset n := by
  have hnatural : ∀ {fault : Int → ValidationFault} {n : Int},
      ValidationFault.ofCount fault n = [] → ∃ k : Nat, n = k := by
    intro fault n h
    unfold ValidationFault.ofCount at h
    split at h
    · cases h
    · next hnonneg => exact Int.eq_ofNat_of_zero_le (Int.not_lt.mp hnonneg)
  induction chain with
  | limit limitable chain n ih =>
      obtain ⟨hbefore, hlast⟩ := List.append_eq_nil_iff.mp h
      obtain ⟨k, rfl⟩ := hnatural hlast
      exact List.forall_mem_append.mpr
        ⟨ih hbefore, List.forall_mem_singleton.mpr ⟨k, .inl rfl⟩⟩
  | offset limitable chain n ih =>
      obtain ⟨hbefore, hlast⟩ := List.append_eq_nil_iff.mp h
      obtain ⟨k, rfl⟩ := hnatural hlast
      exact List.forall_mem_append.mpr
        ⟨ih hbefore, List.forall_mem_singleton.mpr ⟨k, .inr rfl⟩⟩
  | _ => exact List.forall_mem_nil _

end Chain

/-- What can be run without yielding rows is an update. -/
theorem Stage.updates_of_executable {s : Stage} (hexecutable : s.executable = true)
    (hfetchable : s.fetchable = false) : s = .assigned ∨ s = .conditioned := by
  cases s with
  | assigned => exact .inl rfl
  | conditioned => exact .inr rfl
  | selected | joined | updating => cases hexecutable
  | _ => cases hfetchable

/-- A clause that is left out when there is nothing to say. -/
def Clause.unlessEmpty (isEmpty : Bool) (clause : Clause) : List Clause :=
  if isEmpty then [] else [clause]

theorem Clause.segments_unlessEmpty (isEmpty : Bool) (clause : Clause) :
    (unlessEmpty isEmpty clause).flatMap segments = if isEmpty then [] else clause.segments := by
  cases isEmpty with
  | true => rfl
  | false => exact List.flatMap_singleton _ _

namespace Chain

/-- The clauses of a selection from a table, in order: those that are always there, the clauses of
rows, groups and order unless there is nothing to say, and limits and offsets as they were
called. -/
def selectionClauses {s : Stage} (chain : Chain s) (table : TableRef) : List Clause :=
  [Clause.select chain.selected, Clause.fromTable table] ++ chain.joins.map Clause.join ++
    Clause.unlessEmpty chain.rowFilter.isEmpty (.filter chain.rowFilter) ++
    Clause.unlessEmpty chain.grouping.isEmpty (.groupBy chain.grouping) ++
    Clause.unlessEmpty chain.groupFilter.isEmpty (.having chain.groupFilter) ++
    Clause.unlessEmpty chain.orders.isEmpty (.orderBy chain.orders) ++ chain.counts

/-- The clauses of an update with its assignments, in order. -/
def updateClauses {s : Stage} (chain : Chain s) (start : Chain .updating) : List Clause :=
  [Clause.update start.updated, Clause.set start.assignments] ++
    Clause.unlessEmpty chain.rowFilter.isEmpty (.filter chain.rowFilter)

/-- The statement of a selection consists of its clauses. -/
theorem segments_of_selection {s : Stage} (chain : Chain s) (h : s.isNamed = true) :
    ∃ table, chain.tables = table :: chain.joins.map (·.table) ∧
      chain.statement.segments = (chain.selectionClauses table).flatMap Clause.segments := by
  obtain ⟨table, htables, hbody⟩ := chain.body_eq h
  refine ⟨table, htables, ?_⟩
  rw [chain.segments_eq h, hbody, chain.ordering_eq, chain.pages_eq]
  simp [selectionClauses, joinSegments, groupSegments, Clause.segments_unlessEmpty,
    Clause.segments, Segment.clause, List.flatMap_map]

/-- The statement of an update consists of its clauses, and without faults it assigns something. -/
theorem segments_of_update {s : Stage} (chain : Chain s) (h : s = .assigned ∨ s = .conditioned) :
    ∃ start, chain.update? = some start ∧
      chain.statement.segments = (chain.updateClauses start).flatMap Clause.segments ∧
      (chain.faults = [] → start.assignments ≠ []) := by
  have hstart : ∀ (start : Chain .updating), start.assign.statement.segments =
      [.keyword "UPDATE", .target start.updated, .keyword "SET",
        .assignments start.assignments] := by
    intro start
    rw [statement, updateStatement]
    by_cases hnone : start.assignments.isEmpty
    · rw [if_pos hnone]
      rfl
    · rw [if_neg hnone]
      rfl
  have hassigned : ∀ start : Chain .updating, start.assign.faults = [] →
      start.assignments ≠ [] := by
    intro start hfaults hnone
    rw [faults, hnone] at hfaults
    cases hfaults
  cases chain with
  | assign start => exact ⟨start, rfl, hstart start, hassigned start⟩
  | choosing chain query =>
      cases chain with
      | assign start =>
          refine ⟨start, rfl, ?_, hassigned start⟩
          rw [statement, Statement.clause, segments_unless, hstart]
          simp [updateClauses, rowFilter, Clause.segments_unlessEmpty, Clause.segments]
  | _ => rcases h with h | h <;> cases h

end Chain

/-! ## Every clause has something to say -/

/-- The query of a segment. -/
def Segment.query? : Segment → Option Query
  | .query q => some q
  | _ => none

/-- The queries of a statement, in the order in which they are written. -/
def Statement.queries (statement : Statement) : List Query :=
  statement.segments.filterMap Segment.query?

/-- The queries in the segments of clauses are built by adding members. -/
def Clause.Queried (clauses : List Clause) : Prop :=
  ∀ c ∈ clauses, ∀ q, .query q ∈ c.segments → q.Built

namespace Clause

variable {c : Clause}

theorem mem_unlessEmpty {isEmpty : Bool} {d : Clause} (h : c ∈ unlessEmpty isEmpty d) :
    isEmpty = false ∧ c = d := by
  cases isEmpty with
  | true => cases h
  | false => exact ⟨rfl, List.mem_singleton.mp h⟩

/-- A clause of a query is there when the query has members, so it has something to say. -/
theorem said_filter {clauses : List Clause} (hqueried : Queried clauses) {q : Query}
    (hmem : c ∈ clauses) (h : c ∈ unlessEmpty q.isEmpty (.filter q)) : c.Said := by
  obtain ⟨hne, rfl⟩ := mem_unlessEmpty h
  exact ⟨(hqueried _ hmem q (by simp [segments])).pruned, hne⟩

theorem said_having {clauses : List Clause} (hqueried : Queried clauses) {q : Query}
    (hmem : c ∈ clauses) (h : c ∈ unlessEmpty q.isEmpty (.having q)) : c.Said := by
  obtain ⟨hne, rfl⟩ := mem_unlessEmpty h
  exact ⟨(hqueried _ hmem q (by simp [segments])).pruned, hne⟩

theorem said_join {clauses : List Clause} (hqueried : Queried clauses) {j : Join}
    (hmem : .join j ∈ clauses) : (Clause.join j).Said := by
  cases hempty : j.condition.isEmpty with
  | true =>
      show j.condition.Pruned
      rw [Query.eq_empty_of_isEmpty hempty]
      trivial
  | false => exact (hqueried _ hmem j.condition (by simp [segments, Segment.clause, hempty])).pruned

end Clause

namespace Chain

variable {s : Stage} {chain : Chain s}

theorem said_selection {table : TableRef} (hshown : ∀ item ∈ chain.selected, item.Shown)
    (hqueried : Clause.Queried (chain.selectionClauses table)) (hfaults : chain.faults = []) :
    ∀ c ∈ chain.selectionClauses table, c.Said := by
  intro c hmem
  have hc := hmem
  rw [selectionClauses] at hc
  simp only [List.mem_append, List.mem_cons, List.mem_map, List.not_mem_nil, or_false] at hc
  rcases hc with (((((((rfl | rfl) | ⟨j, hj, rfl⟩) | hc) | hc) | hc) | hc) | hc)
  · exact hshown
  · trivial
  · exact Clause.said_join hqueried hmem
  · exact Clause.said_filter hqueried hmem hc
  · rw [(Clause.mem_unlessEmpty hc).2]
    trivial
  · exact Clause.said_having hqueried hmem hc
  · rw [(Clause.mem_unlessEmpty hc).2]
    trivial
  · obtain ⟨n, rfl | rfl⟩ := mem_counts hfaults c hc
    · exact Int.natCast_nonneg n
    · exact Int.natCast_nonneg n

theorem said_update {start : Chain .updating} (hassigned : start.assignments ≠ [])
    (hqueried : Clause.Queried (chain.updateClauses start)) :
    ∀ c ∈ chain.updateClauses start, c.Said := by
  intro c hmem
  have hc := hmem
  rw [updateClauses] at hc
  simp only [List.mem_append, List.mem_cons, List.not_mem_nil, or_false] at hc
  rcases hc with (rfl | rfl) | hc
  · trivial
  · exact hassigned
  · exact Clause.said_filter hqueried hmem hc

/-- The statement for all rows is the row of the texts of its clauses. -/
theorem exists_texts {clauses : List Clause}
    (hsegments : chain.statement.segments = clauses.flatMap Clause.segments)
    (hsaid : ∀ c ∈ clauses, c.Said) {aliases : Aliases} {sql : String}
    (hsql : chain.statement.directText aliases .rows = .ok sql) :
    ∃ texts, clauses.mapM (Clause.direct aliases) = .ok texts ∧ (∀ t ∈ texts, t ≠ "") ∧
      sql = " ".intercalate texts := by
  rw [Statement.directText, hsegments] at hsql
  exact Clause.exists_texts hsaid hsql

end Chain

/-! ## Summary -/

/-- Let a chain at a stage that can be run be built, with queries to which only members with
something in them were added, and with a select list of which every item selects something.  Then
there are clauses whose texts, none of them empty, make up the statement, with single blanks between
them.

The clauses of a selection are the select list, which is a star when there are no items, its table
and its joins, each with a condition if its query has members; then, each unless it is empty, the
query that chooses rows, the columns to group by, the query that chooses groups and the order; and
last, limits and offsets in the order of the calls.  Those of an update are its table, its
assignments, and the query that chooses rows unless it is empty. -/
theorem clauses_stand_in_order {stage : Stage} (hexecutable : stage.executable = true)
    (chain : Chain stage) (hbuilt : ∀ q ∈ chain.statement.queries, q.Built)
    (hshown : ∀ item ∈ chain.selected, item.Shown) {catalog catalog' : Catalog}
    (hcatalog : catalog.Reached) {bound : BoundStatement}
    (hbuild : chain.statement.build catalog = .ok bound catalog') :
    ∃ aliases clauses texts, chain.statement.directAliases = .ok aliases ∧
      clauses.mapM (Clause.direct aliases) = .ok texts ∧ (∀ t ∈ texts, t ≠ "") ∧
      bound.sql = " ".intercalate texts ∧
      (stage.fetchable = true → ∃ table, chain.tables = table :: chain.joins.map (·.table) ∧
        (∀ c ∈ chain.counts, ∃ n : Nat, c = .limit n ∨ c = .offset n) ∧
        clauses = chain.selectionClauses table) ∧
      (stage.fetchable = false → ∃ start, chain.update? = some start ∧
        clauses = chain.updateClauses start) := by
  have hrows : chain.statement.buildAs .rows catalog = .ok bound catalog' := hbuild
  obtain ⟨hfault, aliases, haliases, hsql, -⟩ :=
    Statement.direct_eq_ok (Chain.direct_of_buildAs hcatalog hrows)
  have hfaults := Chain.faults_eq_nil hfault
  have hqueried : ∀ clauses : List Clause,
      chain.statement.segments = clauses.flatMap Clause.segments → Clause.Queried clauses := by
    intro clauses hsegments c hc q hq
    have hmem : .query q ∈ chain.statement.segments :=
      hsegments ▸ List.mem_flatMap.mpr ⟨c, hc, hq⟩
    exact hbuilt q (List.mem_filterMap.mpr ⟨_, hmem, rfl⟩)
  cases hfetchable : stage.fetchable with
  | true =>
      have hnamed := Stage.isNamed_of_fetchable hfetchable
      obtain ⟨table, htables, hsegments⟩ := chain.segments_of_selection hnamed
      obtain ⟨texts, htexts, hne, hjoined⟩ := Chain.exists_texts hsegments
        (Chain.said_selection hshown (hqueried _ hsegments) hfaults) hsql
      exact ⟨aliases, _, texts, haliases, htexts, hne, hjoined,
        fun _ => ⟨table, htables, Chain.mem_counts hfaults, rfl⟩, fun h => Bool.noConfusion h⟩
  | false =>
      obtain ⟨start, hstart, hsegments, hassigned⟩ :=
        chain.segments_of_update (Stage.updates_of_executable hexecutable hfetchable)
      obtain ⟨texts, htexts, hne, hjoined⟩ := Chain.exists_texts hsegments
        (Chain.said_update (hassigned hfaults) (hqueried _ hsegments)) hsql
      exact ⟨aliases, _, texts, haliases, htexts, hne, hjoined, (fun h => Bool.noConfusion h),
        fun _ => ⟨start, hstart, rfl⟩⟩

/-- A new name for one user. -/
def Chain.renamed : Chain .conditioned :=
  .choosing
    (.assign (.set (.update (.entity .user)) (.field ⟨.user, "name"⟩) (.text "x")))
    (Query.empty.addCondition .and ⟨.field ⟨.user, "id"⟩, .eq, .value (.int 7)⟩)

/-- The statement with its assignments gathered. -/
theorem Chain.statement_renamed : Chain.renamed.statement =
    (Chain.updateStatement (.entity .user)
      (Assignments.set [] (.field ⟨.user, "name"⟩) (.text "x"))).clause "WHERE"
      (Query.empty.addCondition .and ⟨.field ⟨.user, "id"⟩, .eq, .value (.int 7)⟩) := by
  simp [renamed, statement, assignments, updated]

/-- The busiest users take every kind of clause, and the new name those of an update. -/
theorem clauses_of_users :
    (∃ bound catalog', Chain.busiestUsers.statement.build (.empty 0) = .ok bound catalog' ∧
      bound.sql = " ".intercalate ["SELECT t1.\x60full_name\x60 AS \x60name\x60",
        "FROM \x60user\x60 \x60t1\x60",
        "LEFT JOIN \x60orders\x60 \x60o\x60 ON o.\x60user_id\x60 = t1.\x60id\x60",
        "WHERE t1.\x60id\x60 > ?", "GROUP BY t1.\x60full_name\x60",
        "HAVING o.\x60user_id\x60 < ?", "ORDER BY t1.\x60full_name\x60 DESC", "LIMIT 5"]) ∧
    ∃ bound catalog', Chain.renamed.statement.build (.empty 0) = .ok bound catalog' ∧
      bound.sql = " ".intercalate ["UPDATE \x60user\x60", "SET \x60full_name\x60 = ?",
        "WHERE \x60id\x60 = ?"] := by
  have hadded : ∀ c : Condition, (Query.empty.addCondition .and c).Built :=
    fun c => .addCondition .and c .empty
  constructor
  · obtain ⟨bound, catalog', hbuild⟩ : ∃ bound catalog',
        Chain.busiestUsers.statement.build (.empty 0) = .ok bound catalog' :=
      Step.exists_of_succeeds (by decide +kernel)
    have hbuilt : ∀ q ∈ Chain.busiestUsers.statement.queries, q.Built :=
      List.forall_mem_cons.mpr ⟨hadded _, List.forall_mem_cons.mpr ⟨hadded _,
        List.forall_mem_singleton.mpr (hadded _)⟩⟩
    have hshown : ∀ item ∈ Chain.busiestUsers.selected, item.Shown :=
      List.forall_mem_singleton.mpr trivial
    obtain ⟨aliases, clauses, texts, haliases, htexts, -, hsql, hselection, -⟩ :=
      clauses_stand_in_order rfl Chain.busiestUsers hbuilt hshown (.empty 0) hbuild
    obtain ⟨table, htables, -, rfl⟩ := hselection rfl
    obtain rfl : table = ⟨.entity .user, none⟩ := (List.cons.inj htables).1.symm
    have hdeclared : Chain.busiestUsers.statement.directAliases = .ok
        ⟨[⟨.ofEntity .order, some "orders", "o"⟩,
          ⟨.ofEntity .user, some "user", "t1"⟩], 1, []⟩ := by
      decide +kernel
    cases haliases.symm.trans hdeclared
    refine ⟨bound, catalog', hbuild, hsql.trans (congrArg _ ?_)⟩
    refine Except.ok.inj (htexts.symm.trans (?_ : _ = (.ok _ : Except Error _)))
    decide +kernel
  · obtain ⟨bound, catalog', hbuild⟩ : ∃ bound catalog',
        Chain.renamed.statement.build (.empty 0) = .ok bound catalog' :=
      Step.exists_of_succeeds (by rw [Chain.statement_renamed]; decide +kernel)
    have hbuilt : ∀ q ∈ Chain.renamed.statement.queries, q.Built := by
      rw [Chain.statement_renamed]
      exact List.forall_mem_singleton.mpr (hadded _)
    obtain ⟨aliases, clauses, texts, haliases, htexts, -, hsql, -, hupdate⟩ :=
      clauses_stand_in_order rfl Chain.renamed hbuilt (List.forall_mem_nil _) (.empty 0) hbuild
    obtain ⟨start, hstart, rfl⟩ := hupdate rfl
    cases hstart
    have hdeclared : Chain.renamed.statement.directAliases = .ok .empty := by
      rw [Chain.statement_renamed]
      rfl
    cases haliases.symm.trans hdeclared
    refine ⟨bound, catalog', hbuild, hsql.trans (congrArg _ ?_)⟩
    refine Except.ok.inj (htexts.symm.trans (?_ : _ = (.ok _ : Except Error _)))
    simp only [Chain.updateClauses, Chain.updated, Chain.assignments]
    decide +kernel

end QueryLoom

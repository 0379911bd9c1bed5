import QueryLoom.Proofs.Transparency

/-!
# One body for three statements

The statement for all rows, the one that counts them and the one for a page of them are rendered
separately, each in a session of its own and in its own mode.  They share the text from `FROM` to
the end of `HAVING`: none of its segments looks at the mode, and no segment for order or paging
stands among them.

## Main definitions

* `Chain.selected`, `Chain.body`, `Chain.ordering`, `Chain.pages`: the parts of a selection.
* `Chain.grouping`: the columns by which its rows are grouped.
* `joined`: texts with single blanks between them.

## Main results

* `Chain.segments_eq`: the statement of a selection consists of its parts, in this order.
* `Segment.directAll_eq_of_body`: the body has the same text in every mode.
* `statements_share_one_body`: the summary.
-/

namespace QueryLoom

open Step

/-! ## The parts of a selection -/

/-- The table is named, and the statement yields rows once a pending join is complete. -/
def Stage.isNamed (s : Stage) : Bool := s.fetchable || s == .joined

theorem Stage.isNamed_of_fetchable {s : Stage} (h : s.fetchable = true) : s.isNamed = true := by
  rw [isNamed, h, Bool.true_or]

theorem Stage.isNamed_of_limitable {s : Stage} (h : s.limitable = true) : s.isNamed = true := by
  cases s <;> first | rfl | cases h

theorem Stage.limitable_of_orderable {s : Stage} (h : s.orderable = true) :
    s.limitable = true := by
  cases s <;> first | rfl | cases h

theorem Stage.orderable_of_groupable {s : Stage} (h : s.groupable = true) :
    s.orderable = true := by
  cases s <;> first | rfl | cases h

/-- A clause with its keyword; left out if the query is empty. -/
def Segment.clause (keyword : String) (query : Query) : List Segment :=
  if query.isEmpty then [] else [.keyword keyword, .query query]

/-- A clause appends its segments. -/
theorem Statement.clause_eq_append (statement : Statement) (keyword : String) (query : Query) :
    statement.clause keyword query = statement.append (Segment.clause keyword query) := by
  rw [clause, Segment.clause]
  cases query.isEmpty with
  | true => exact congrArg (Statement.mk · _ _ _) (List.append_nil _).symm
  | false => rfl

/-- A count of rows; left out if it is negative. -/
def Segment.counting (segment : Nat → Segment) : Int → List Segment
  | .ofNat n => [segment n]
  | .negSucc _ => []

namespace Chain

/-- The select list of a selection. -/
def selected : {s : Stage} → Chain s → List SelectItem
  | _, .select items => items
  | _, .fromTable chain _ => chain.selected
  | _, .join chain _ _ => chain.selected
  | _, .on chain _ => chain.selected
  | _, .unconditioned chain => chain.selected
  | _, .matching chain _ => chain.selected
  | _, .groupBy _ chain _ => chain.selected
  | _, .having chain _ => chain.selected
  | _, .order _ chain _ => chain.selected
  | _, .limit _ chain _ => chain.selected
  | _, .offset _ chain _ => chain.selected
  | _, _ => []

/-- The segments of a selection from `FROM` to the end of `HAVING`. -/
def body : {s : Stage} → Chain s → List Segment
  | _, .fromTable _ table => [.keyword "FROM", .table table]
  | _, .join chain kind table => chain.body ++ [.join kind, .table table]
  | _, .on chain query => chain.body ++ Segment.clause "ON" query
  | _, .unconditioned chain => chain.body
  | _, .matching chain query => chain.body ++ Segment.clause "WHERE" query
  | _, .groupBy _ chain columns =>
    chain.body ++ if columns.isEmpty then [] else [.groupBy columns]
  | _, .having chain query => chain.body ++ Segment.clause "HAVING" query
  | _, .order _ chain _ => chain.body
  | _, .limit _ chain _ => chain.body
  | _, .offset _ chain _ => chain.body
  | _, _ => []

/-- The columns by which the rows of a selection are grouped. -/
def grouping : {s : Stage} → Chain s → List Column
  | _, .groupBy _ _ columns => columns
  | _, .having chain _ => chain.grouping
  | _, .order _ chain _ => chain.grouping
  | _, .limit _ chain _ => chain.grouping
  | _, .offset _ chain _ => chain.grouping
  | _, _ => []

/-- The order of a selection; no segment if there are no terms. -/
def ordering : {s : Stage} → Chain s → List Segment
  | _, .order _ _ orders => if orders.isEmpty then [] else [.orderBy orders]
  | _, .limit _ chain _ => chain.ordering
  | _, .offset _ chain _ => chain.ordering
  | _, _ => []

/-- The calls that page a selection by themselves, in order. -/
def pages : {s : Stage} → Chain s → List Segment
  | _, .limit _ chain n => chain.pages ++ Segment.counting .limit n
  | _, .offset _ chain n => chain.pages ++ Segment.counting .offset n
  | _, _ => []

/-- Before rows are sorted they are neither sorted nor paged. -/
theorem unsorted {s : Stage} (chain : Chain s) (h : s.orderable = true ∨ s = .joined) :
    chain.ordering = [] ∧ chain.pages = [] := by
  cases chain <;> first | exact ⟨rfl, rfl⟩ | (rcases h with h | h <;> cases h)

/-- Before rows are grouped they are not grouped. -/
theorem ungrouped {s : Stage} (chain : Chain s) (h : s.groupable = true ∨ s = .joined) :
    chain.grouping = [] := by
  cases chain <;> first | rfl | (rcases h with h | h <;> cases h)

/-- Segments are appended unless they are left out. -/
theorem segments_unless (leftOut : Bool) (statement : Statement) (segments : List Segment) :
    (if leftOut then statement else statement.append segments).segments =
      statement.segments ++ if leftOut then [] else segments := by
  cases leftOut with
  | true => exact (List.append_nil _).symm
  | false => rfl

theorem segments_paging (statement : Statement) (n : Int) (segment : Nat → Segment)
    (fault : Int → ValidationFault) :
    (paging statement n segment fault).segments =
      statement.segments ++ Segment.counting segment n := by
  cases n with
  | ofNat n => rfl
  | negSucc n => exact (List.append_nil _).symm

/-- What is appended before rows are sorted belongs to the body. -/
private theorem append_to_body {s : Stage} {chain : Chain s} (h : s.orderable = true ∨ s = .joined)
    (hsegments : chain.statement.segments = .keyword "SELECT" :: .selection chain.selected ::
      (chain.body ++ (chain.ordering ++ chain.pages))) (more : List Segment) :
    chain.statement.segments ++ more = .keyword "SELECT" :: .selection chain.selected ::
      (chain.body ++ more ++ ([] ++ [])) := by
  obtain ⟨hordering, hpages⟩ := chain.unsorted h
  rw [hsegments, hordering, hpages]
  simp

/-- The statement of a selection consists of its parts. -/
theorem segments_eq {s : Stage} (chain : Chain s) (h : s.isNamed = true) :
    chain.statement.segments = .keyword "SELECT" :: .selection chain.selected ::
      (chain.body ++ (chain.ordering ++ chain.pages)) := by
  induction chain with
  | fromTable chain table ih =>
      cases chain with
      | select items => rfl
  | join chain kind table ih => exact append_to_body (.inl rfl) (ih rfl) _
  | on chain query ih =>
      rw [statement, Statement.clause_eq_append]
      exact append_to_body (.inr rfl) (ih rfl) _
  | unconditioned chain ih =>
      have hnothing := append_to_body (.inr rfl) (ih rfl) []
      rwa [List.append_nil, List.append_nil] at hnothing
  | matching chain query ih =>
      rw [statement, Statement.clause_eq_append]
      exact append_to_body (.inl rfl) (ih rfl) _
  | groupBy groupable chain columns ih =>
      have horderable := Stage.orderable_of_groupable groupable
      have hnamed := Stage.isNamed_of_limitable (Stage.limitable_of_orderable horderable)
      rw [statement, segments_unless]
      exact append_to_body (.inl horderable) (ih hnamed) _
  | having chain query ih =>
      rw [statement, Statement.clause_eq_append]
      exact append_to_body (.inl rfl) (ih rfl) _
  | order orderable chain orders ih =>
      have hnamed := Stage.isNamed_of_limitable (Stage.limitable_of_orderable orderable)
      obtain ⟨hordering, hpages⟩ := chain.unsorted (.inl orderable)
      rw [statement, segments_unless, ih hnamed, hordering, hpages]
      simp [selected, body, ordering, pages]
  | limit limitable chain n ih =>
      rw [statement, segments_paging, ih (Stage.isNamed_of_limitable limitable)]
      simp [selected, body, ordering, pages]
  | offset limitable chain n ih =>
      rw [statement, segments_paging, ih (Stage.isNamed_of_limitable limitable)]
      simp [selected, body, ordering, pages]
  | _ => cases h

end Chain

/-! ## What the parts consist of -/

namespace Segment

/-- A segment that can stand in the body. -/
def isBody : Segment → Bool
  | .selection _ | .orderBy _ | .limit _ | .offset _ => false
  | _ => true

/-- A segment of the body has the same text in every mode. -/
theorem direct_eq_of_isBody {segment : Segment} (h : segment.isBody = true) (aliases : Aliases)
    (mode mode' : Mode) : segment.direct ⟨aliases, mode⟩ = segment.direct ⟨aliases, mode'⟩ := by
  cases segment <;> first | rfl | cases h

/-- So do all of them together. -/
theorem directAll_eq_of_body {segments : List Segment} (h : ∀ s ∈ segments, s.isBody = true)
    (aliases : Aliases) (mode mode' : Mode) :
    directAll ⟨aliases, mode⟩ segments = directAll ⟨aliases, mode'⟩ segments := by
  induction segments with
  | nil => rfl
  | cons segment rest ih =>
      obtain ⟨hfirst, hrest⟩ := List.forall_mem_cons.mp h
      rw [directAll, directAll, direct_eq_of_isBody hfirst aliases mode mode', ih hrest]

theorem isBody_clause (keyword : String) (query : Query) :
    ∀ s ∈ clause keyword query, s.isBody = true ∧ s.isGrouping = false := by
  unfold clause
  by_cases h : query.isEmpty
  · simp [h]
  · simp [h, isBody, isGrouping]

/-- Order and paging are left out in the other modes. -/
theorem directAll_of_not_full {segments : List Segment}
    (h : ∀ s ∈ segments, (∃ orders, s = .orderBy orders) ∨ s.isPaging = true) {scope : Scope}
    (hmode : scope.mode ≠ .full) : directAll scope segments = .ok "" := by
  induction segments with
  | nil => rfl
  | cons segment rest ih =>
      obtain ⟨hfirst, hrest⟩ := List.forall_mem_cons.mp h
      have hnone : segment.direct scope = .ok none := by
        rcases hfirst with ⟨orders, rfl⟩ | hpaging
        · exact if_neg hmode
        · cases segment with
          | limit n => exact if_neg hmode
          | offset n => exact if_neg hmode
          | _ => cases hpaging
      rw [directAll, hnone, ih hrest]
      rfl

/-- The texts of two rows of segments are joined. -/
theorem directAll_append (scope : Scope) (as bs : List Segment) :
    directAll scope (as ++ bs) = (do
      let a ← directAll scope as
      let b ← directAll scope bs
      pure (Query.joinText a b)) := by
  induction as with
  | nil =>
      show directAll scope bs = (directAll scope bs).map (Query.joinText "")
      rw [map_joinText_empty]
  | cons segment rest ih =>
      rw [List.cons_append, directAll, directAll, ih]
      simp only [bind_assoc, pure_bind, Query.joinText_assoc]

theorem directAll_append_eq_ok {scope : Scope} {as bs : List Segment} {sql : String}
    (h : directAll scope (as ++ bs) = .ok sql) :
    ∃ a b, directAll scope as = .ok a ∧ directAll scope bs = .ok b ∧ sql = Query.joinText a b := by
  rw [directAll_append] at h
  obtain ⟨a, ha, h⟩ := exists_of_bind_eq_ok h
  obtain ⟨b, hb, h⟩ := exists_of_bind_eq_ok h
  cases h
  exact ⟨a, b, ha, hb, rfl⟩

/-- The text of a selection is joined from the texts of its parts. -/
theorem directAll_selection {scope : Scope} {items : List SelectItem} {body rest : List Segment}
    {listed bodyText restText : String}
    (hlisted : (Segment.selection items).direct scope = .ok (some listed))
    (hbody : directAll scope body = .ok bodyText) (hrest : directAll scope rest = .ok restText) :
    directAll scope (.keyword "SELECT" :: .selection items :: (body ++ rest)) =
      .ok (Query.joinText "SELECT" (Query.joinText listed (Query.joinText bodyText restText))) := by
  rw [directAll, directAll, directAll_append, hlisted, hbody, hrest]
  rfl

end Segment

namespace Chain

theorem isBody_body {s : Stage} (chain : Chain s) : ∀ g ∈ chain.body, g.isBody = true := by
  have hclause : ∀ keyword query, ∀ g ∈ Segment.clause keyword query, g.isBody = true :=
    fun keyword query g hg => (Segment.isBody_clause keyword query g hg).1
  induction chain with
  | fromTable chain table ih => simp [body, Segment.isBody]
  | join chain kind table ih =>
      exact List.forall_mem_append.mpr ⟨ih, by simp [Segment.isBody]⟩
  | on chain query ih => exact List.forall_mem_append.mpr ⟨ih, hclause _ _⟩
  | unconditioned chain ih => exact ih
  | matching chain query ih => exact List.forall_mem_append.mpr ⟨ih, hclause _ _⟩
  | groupBy groupable chain columns ih =>
      refine List.forall_mem_append.mpr ⟨ih, ?_⟩
      by_cases h : columns.isEmpty <;> simp [h, Segment.isBody]
  | having chain query ih => exact List.forall_mem_append.mpr ⟨ih, hclause _ _⟩
  | order orderable chain orders ih => exact ih
  | limit limitable chain n ih => exact ih
  | offset limitable chain n ih => exact ih
  | _ => exact List.forall_mem_nil _

theorem mem_ordering {s : Stage} (chain : Chain s) :
    ∀ g ∈ chain.ordering, ∃ orders, g = .orderBy orders := by
  induction chain with
  | order orderable chain orders ih =>
      rw [ordering]
      by_cases h : orders.isEmpty <;> simp [h]
  | limit limitable chain n ih => exact ih
  | offset limitable chain n ih => exact ih
  | _ => exact List.forall_mem_nil _

theorem isPaging_pages {s : Stage} (chain : Chain s) : ∀ g ∈ chain.pages, g.isPaging = true := by
  have hcounting : ∀ (segment : Nat → Segment) (n : Int), (∀ k, (segment k).isPaging = true) →
      ∀ g ∈ Segment.counting segment n, g.isPaging = true := by
    intro segment n h g hg
    cases n with
    | ofNat k =>
        rw [List.mem_singleton.mp hg]
        exact h k
    | negSucc k => cases hg
  induction chain with
  | limit limitable chain n ih =>
      exact List.forall_mem_append.mpr ⟨ih, hcounting .limit n fun _ => rfl⟩
  | offset limitable chain n ih =>
      exact List.forall_mem_append.mpr ⟨ih, hcounting .offset n fun _ => rfl⟩
  | _ => exact List.forall_mem_nil _

/-- The body groups rows when there are columns to group them by. -/
theorem isGrouping_body {s : Stage} (chain : Chain s) :
    chain.body.any Segment.isGrouping = !chain.grouping.isEmpty := by
  have hclause : ∀ keyword query, (Segment.clause keyword query).any Segment.isGrouping = false :=
    fun keyword query => List.any_eq_false.mpr fun g hg => by
      rw [(Segment.isBody_clause keyword query g hg).2]
      exact Bool.false_ne_true
  induction chain with
  | fromTable chain table ih => rfl
  | join chain kind table ih =>
      rw [body, List.any_append, ih, chain.ungrouped (.inl rfl)]
      rfl
  | on chain query ih =>
      rw [body, List.any_append, ih, chain.ungrouped (.inr rfl), hclause]
      rfl
  | unconditioned chain ih =>
      rw [body, ih, chain.ungrouped (.inr rfl)]
      rfl
  | matching chain query ih =>
      rw [body, List.any_append, ih, chain.ungrouped (.inl rfl), hclause]
      rfl
  | groupBy groupable chain columns ih =>
      rw [body, List.any_append, ih, chain.ungrouped (.inl groupable), grouping]
      cases columns with
      | nil => rfl
      | cons column columns => rfl
  | having chain query ih =>
      rw [body, List.any_append, ih, hclause, Bool.or_false]
      rfl
  | order orderable chain orders ih => exact ih
  | limit limitable chain n ih => exact ih
  | offset limitable chain n ih => exact ih
  | _ => rfl

/-- Neither does anything else of a selection. -/
theorem isGrouping_segments {s : Stage} (chain : Chain s) (h : s.isNamed = true) :
    chain.statement.segments.any Segment.isGrouping = !chain.grouping.isEmpty := by
  have hordering : chain.ordering.any Segment.isGrouping = false :=
    List.any_eq_false.mpr fun g hg => by
      obtain ⟨orders, rfl⟩ := chain.mem_ordering g hg
      exact Bool.false_ne_true
  have hpages : chain.pages.any Segment.isGrouping = false :=
    List.any_eq_false.mpr fun g hg => by
      have hpaging := chain.isPaging_pages g hg
      cases g <;> first | exact Bool.false_ne_true | cases hpaging
  rw [chain.segments_eq h]
  simp only [List.any_cons, List.any_append, hordering, hpages, chain.isGrouping_body,
    Segment.isGrouping, Bool.or_false, Bool.false_or]

/-- A page replaces the paging of a selection. -/
theorem segments_paged {s : Stage} (chain : Chain s) (h : s.isNamed = true) (size offset : Nat) :
    (chain.statement.paged size offset).segments = .keyword "SELECT" ::
      .selection chain.selected ::
        (chain.body ++ (chain.ordering ++ [.limit size, .offset offset])) := by
  have hbody : chain.body.filter (fun g => !g.isPaging) = chain.body :=
    List.filter_eq_self.mpr fun g hg => by
      have hbody := chain.isBody_body g hg
      cases g <;> first | rfl | cases hbody
  have hordering : chain.ordering.filter (fun g => !g.isPaging) = chain.ordering :=
    List.filter_eq_self.mpr fun g hg => by
      obtain ⟨orders, rfl⟩ := chain.mem_ordering g hg
      rfl
  have hpages : chain.pages.filter (fun g => !g.isPaging) = [] :=
    List.filter_eq_nil_iff.mpr fun g hg => by
      rw [chain.isPaging_pages g hg]
      exact Bool.false_ne_true
  have hselect : (Segment.keyword "SELECT").isPaging = false := rfl
  have hselection : (Segment.selection chain.selected).isPaging = false := rfl
  rw [Statement.paged, chain.segments_eq h]
  simp [hselect, hselection, hbody, hordering, hpages]

end Chain

/-! ## The three texts -/

/-- Texts with single blanks between them, empty ones left out. -/
def joined : List String → String
  | [] => ""
  | [text] => text
  | text :: rest => Query.joinText text (joined rest)

/-- The texts of the parts of a selection: the select list, the body, the order, and the paging
that the selection has by itself. -/
structure Chain.Parts {s : Stage} (chain : Chain s) (aliases : Aliases)
    (listed body order paging : String) : Prop where
  declared : chain.statement.directAliases = .ok aliases
  select : SelectItem.directList aliases chain.selected = .ok listed
  body : Segment.directAll ⟨aliases, .full⟩ chain.body = .ok body
  order : Segment.directAll ⟨aliases, .full⟩ chain.ordering = .ok order
  paging : Segment.directAll ⟨aliases, .full⟩ chain.pages = .ok paging

/-- Outside a count the select list has its own text. -/
theorem Segment.direct_selection {aliases : Aliases} {mode : Mode} (hmode : mode ≠ .count)
    (items : List SelectItem) : (Segment.selection items).direct ⟨aliases, mode⟩ = (do
      let text ← SelectItem.directList aliases items
      pure (some text)) := by
  rw [direct, if_neg hmode]

namespace Chain

variable {s : Stage} {chain : Chain s}

/-- The statement for all rows is joined from the parts. -/
theorem exists_parts (hnamed : s.isNamed = true) {bound : BoundStatement}
    (h : chain.statement.direct .rows = .ok bound) :
    chain.statement.fault = none ∧ ∃ aliases listed body order paging,
      chain.Parts aliases listed body order paging ∧
        bound.sql = joined ["SELECT", listed, body, order, paging] := by
  obtain ⟨hfault, aliases, haliases, hsql, -⟩ := Statement.direct_eq_ok h
  rw [Statement.directText, chain.segments_eq hnamed] at hsql
  obtain ⟨select, rest, hselect, hrest, hsql⟩ := Segment.directAll_cons_eq_ok hsql
  obtain ⟨text, others, htext, hothers, rfl⟩ := Segment.directAll_cons_eq_ok hrest
  obtain ⟨body, tail, hbody, htail, rfl⟩ := Segment.directAll_append_eq_ok hothers
  obtain ⟨order, paging, horder, hpaging, rfl⟩ := Segment.directAll_append_eq_ok htail
  rw [Segment.direct_selection (by decide)] at htext
  obtain ⟨listed, hlisted, htext⟩ := exists_of_bind_eq_ok htext
  cases hselect
  cases htext
  exact ⟨hfault, aliases, listed, body, order, paging,
    ⟨haliases, hlisted, hbody, horder, hpaging⟩, hsql⟩

namespace Parts

variable {aliases : Aliases} {listed body order paging : String}

/-- In every mode but that of a count the select list and the body keep their texts. -/
theorem directAll_selection (h : chain.Parts aliases listed body order paging) {mode : Mode}
    (hmode : mode ≠ .count) {rest : List Segment} {restText : String}
    (hrest : Segment.directAll ⟨aliases, mode⟩ rest = .ok restText) :
    Segment.directAll ⟨aliases, mode⟩
        (.keyword "SELECT" :: .selection chain.selected :: (chain.body ++ rest)) =
      .ok (Query.joinText "SELECT" (Query.joinText listed (Query.joinText body restText))) := by
  have hlisted : (Segment.selection chain.selected).direct ⟨aliases, mode⟩ =
      .ok (some listed) := by
    rw [Segment.direct_selection hmode, h.select]
    rfl
  have hbody : Segment.directAll ⟨aliases, mode⟩ chain.body = .ok body := by
    rw [Segment.directAll_eq_of_body chain.isBody_body aliases mode .full, h.body]
  exact Segment.directAll_selection hlisted hbody hrest

/-- Nothing is left of order and paging when they are left out. -/
theorem directAll_tail (chain : Chain s) (aliases : Aliases) {mode : Mode} (hmode : mode ≠ .full) :
    Segment.directAll ⟨aliases, mode⟩ (chain.ordering ++ chain.pages) = .ok "" := by
  refine Segment.directAll_of_not_full (fun g hg => ?_) hmode
  rcases List.mem_append.mp hg with hordering | hpages
  · exact .inl (chain.mem_ordering g hordering)
  · exact .inr (chain.isPaging_pages g hpages)

/-- The statement that counts the rows is joined from the same body; a grouped one is counted as a
whole. -/
theorem direct_count (h : chain.Parts aliases listed body order paging)
    (hnamed : s.isNamed = true) (hfault : chain.statement.fault = none) :
    chain.statement.direct .count = .ok
      ⟨if chain.grouping.isEmpty then joined ["SELECT", "COUNT(1)", body]
        else Statement.counted (joined ["SELECT", listed, body]),
        chain.parameters, chain.statement.result⟩ := by
  rw [← chain.parameters_of_statement]
  refine Statement.direct_of_directText hfault h.declared ?_
  rw [Statement.directText, chain.isGrouping_segments hnamed, chain.segments_eq hnamed]
  have hunpaged : Mode.unpaged ≠ .full := by decide
  have hcounting : Mode.count ≠ .full := by decide
  cases hgrouping : chain.grouping.isEmpty with
  | true =>
      -- the row count stands in place of the select list
      have hcount : (Segment.selection chain.selected).direct ⟨aliases, .count⟩ =
          .ok (some "COUNT(1)") := rfl
      have hbody : Segment.directAll ⟨aliases, .count⟩ chain.body = .ok body := by
        rw [Segment.directAll_eq_of_body chain.isBody_body aliases .count .full, h.body]
      have hall := Segment.directAll_selection hcount hbody (directAll_tail chain aliases hcounting)
      rw [Query.joinText_empty_right] at hall
      exact hall
  | false =>
      -- the grouped statement keeps its select list and is counted from outside
      have hmode : Mode.unpaged ≠ .count := by decide
      have hall := h.directAll_selection hmode (directAll_tail chain aliases hunpaged)
      rw [Query.joinText_empty_right] at hall
      show (do
        let sql ← Segment.directAll ⟨aliases, .unpaged⟩ _
        pure (Statement.counted sql)) = _
      rw [hall]
      rfl

/-- The statement for a page is joined from the same body, with the paging that is asked for. -/
theorem direct_page (h : chain.Parts aliases listed body order paging)
    (hnamed : s.isNamed = true) (hfault : chain.statement.fault = none) (size offset : Nat) :
    chain.statement.direct (.page size offset) = .ok
      ⟨joined ["SELECT", listed, body, order, "LIMIT " ++ toString size,
        "OFFSET " ++ toString offset], chain.parameters, chain.statement.result⟩ := by
  rw [← chain.parameters_of_statement]
  refine Statement.direct_of_directText hfault h.declared ?_
  rw [Statement.directText, chain.segments_paged hnamed]
  have hpage : Segment.directAll ⟨aliases, .full⟩ [.limit size, .offset offset] =
      .ok (Query.joinText ("LIMIT " ++ toString size) ("OFFSET " ++ toString offset)) := rfl
  have htail : Segment.directAll ⟨aliases, .full⟩ (chain.ordering ++
      [.limit size, .offset offset]) = .ok (Query.joinText order
        (Query.joinText ("LIMIT " ++ toString size) ("OFFSET " ++ toString offset))) := by
    rw [Segment.directAll_append, h.order, hpage]
    rfl
  have hmode : Mode.full ≠ .count := by decide
  exact h.directAll_selection hmode htail

end Parts

end Chain

/-! ## Summary -/

/-- Let the statement of a selection over unambiguous entities be built.  Then the statements that
count its rows and that fetch a page of them are built too, from every catalog of these entities,
with the same values.

There are texts of the select list, of the body, of the order and of the selection's own paging.
The statement for all rows joins them behind `SELECT`.  The one for a page has the paging that is
asked for in place of its own.  The one that counts the rows has the row count in place of the
select list, and neither order nor paging; if rows are grouped, it counts the rows of the statement
that has neither. -/
theorem statements_share_one_body {known : Entity → Prop} (hunambiguous : Unambiguous known)
    {stage : Stage} (fetchable : stage.fetchable = true) (chain : Chain stage)
    (hknown : ∀ e ∈ chain.statement.entities, known e) {α : Type} (decoder : RowDecoder α)
    {catalog catalog' : Catalog} (hcatalog : catalog.Visited known) {bound : BoundStatement}
    (hbuild : (chain.fetch fetchable decoder).build catalog = .ok bound catalog')
    {page : Page α} (hpage : page.validate = .ok ()) :
    ∃ aliases listed body order paging, chain.Parts aliases listed body order paging ∧
      bound.sql = joined ["SELECT", listed, body, order, paging] ∧
      bound.params = chain.parameters ∧
      ∀ other : Catalog, other.Visited known →
        (∃ count other',
          (chain.fetch fetchable decoder).buildCount other = .ok count other' ∧
          count.params = bound.params ∧
          count.sql = if chain.grouping.isEmpty then joined ["SELECT", "COUNT(1)", body]
            else "SELECT COUNT(1) FROM (" ++ joined ["SELECT", listed, body] ++
              ") \x60counted\x60") ∧
        (∃ paged other',
          (chain.fetch fetchable decoder).buildPage page other = .ok paged other' ∧
          paged.params = bound.params ∧
          paged.sql = joined ["SELECT", listed, body, order,
            "LIMIT " ++ toString page.size.toNat, "OFFSET " ++ toString page.offset.toNat]) := by
  have hnamed := Stage.isNamed_of_fetchable fetchable
  have hclosed := chain.closed_statement
  obtain ⟨hrows, -⟩ := @Fetch.tells_build known α (chain.fetch fetchable decoder) hknown hclosed
    catalog hcatalog
  rw [hbuild] at hrows
  obtain ⟨rows, hdirect, hbound⟩ := exists_of_bind_eq_ok hrows.of_ok
  cases hbound
  have hdirect : chain.statement.direct .rows = .ok rows := hdirect
  obtain ⟨hfault, aliases, listed, body, order, paging, hparts, hsql⟩ :=
    Chain.exists_parts hnamed hdirect
  obtain ⟨-, -, -, -, hparams, -⟩ := Statement.direct_eq_ok hdirect
  rw [chain.parameters_of_statement] at hparams
  refine ⟨aliases, listed, body, order, paging, hparts, hsql, hparams, fun other hother => ?_⟩
  constructor
  · obtain ⟨hcount, -⟩ := @Fetch.tells_buildCount known α (chain.fetch fetchable decoder) hknown
      hclosed other hother
    have htold := @Fetch.directCount_of_direct α (chain.fetch fetchable decoder) _
      (hparts.direct_count hnamed hfault)
    rw [htold] at hcount
    exact ⟨_, _, Step.eq_ok_of_outcome (hcount.eq hunambiguous), hparams.symm, rfl⟩
  · obtain ⟨hpaged, -⟩ := @Fetch.tells_buildPage known α (chain.fetch fetchable decoder) hknown
      hclosed page other hother
    have htold := @Fetch.directPage_of_direct α (chain.fetch fetchable decoder) page hpage _
      (hparts.direct_page hnamed hfault _ _)
    rw [htold] at hpaged
    refine ⟨_, _, Step.eq_ok_of_outcome (hpaged.eq hunambiguous), hparams.symm, ?_⟩
    dsimp only

/-- Chosen rows can be grouped. -/
theorem Stage.groupable_filtered : Stage.filtered.groupable = true := rfl

/-- The busiest users with their numbers of orders, the first five of them. -/
def Chain.busiestUsers : Chain .limited :=
  .limit rfl
    (.order rfl
      (.having
        (.groupBy Stage.groupable_filtered
          (.matching Chain.usersWithOrders
            (Query.empty.addCondition .and ⟨.field ⟨.user, "id"⟩, .gt, .value (.int 7)⟩))
          [.field ⟨.user, "name"⟩])
        (Query.empty.addCondition .and ⟨.raw "o.user_id", .lt, .value (.int 9)⟩))
      [⟨.field ⟨.user, "name"⟩, .descending⟩])
    5

/-- The third page of them, twenty on each, and their number. -/
theorem texts_of_busiestUsers :
    ∃ bound count paged listed body order paging,
      outcome ((Chain.busiestUsers.fetch rfl Fetch.countDecoder).build (.empty 1)) = .ok bound ∧
      outcome ((Chain.busiestUsers.fetch rfl Fetch.countDecoder).buildCount (.empty 0)) =
        .ok count ∧
      outcome ((Chain.busiestUsers.fetch rfl Fetch.countDecoder).buildPage ⟨3, 20, 0, []⟩
        (.empty 0)) = .ok paged ∧
      bound.sql = joined ["SELECT", listed, body, order, paging] ∧
      count.sql = "SELECT COUNT(1) FROM (" ++ joined ["SELECT", listed, body] ++
        ") \x60counted\x60" ∧
      paged.sql = joined ["SELECT", listed, body, order, "LIMIT 20", "OFFSET 40"] ∧
      count.params = [.int 7, .int 9] ∧ paged.params = [.int 7, .int 9] := by
  have hknown : ∀ e ∈ Chain.busiestUsers.statement.entities,
      e ∈ [Entity.user, Entity.order] := by decide
  obtain ⟨bound, catalog', hbuild⟩ : ∃ bound catalog',
      (Chain.busiestUsers.fetch rfl Fetch.countDecoder).build (.empty 1) = .ok bound catalog' :=
    Step.exists_of_succeeds (by decide +kernel)
  have hpage : (⟨3, 20, 0, []⟩ : Page Int64).validate = .ok () := rfl
  obtain ⟨aliases, listed, body, order, paging, -, hsql, hparams, hothers⟩ :=
    statements_share_one_body unambiguous_user_order rfl Chain.busiestUsers hknown
      Fetch.countDecoder
      (.empty 1) hbuild hpage
  obtain ⟨⟨count, t, hcount, hcountParams, hcountSql⟩, paged, u, hpaged, hpagedParams, hpagedSql⟩ :=
    hothers (.empty 0) (.empty 0)
  exact ⟨bound, count, paged, listed, body, order, paging, outcome_of_eq_ok hbuild,
    outcome_of_eq_ok hcount, outcome_of_eq_ok hpaged, hsql, hcountSql, hpagedSql,
    hcountParams.trans hparams, hpagedParams.trans hparams⟩

end QueryLoom

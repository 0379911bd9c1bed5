import QueryLoom.Proofs.Clauses

/-!
# Limits and offsets

A selection that is limited may be limited again, and every call appends a clause of its own: no
call looks at the clauses that are there.  So a statement has as many limits and as many offsets as
it was given, while the statement for a page, which drops those it finds, has one of each.

## Main definitions

* `CountKind`: limits and offsets.
* `Statement.countsOf`: the limits of a statement, or its offsets.
* `Chain.calls`: the limits that a chain was given, or its offsets.

## Main results

* `Chain.countsOf_statement`: a statement has the limits and offsets of its calls.
* `Chain.countsOf_paged`: the statement for a page has one of each.
* `counts_are_as_many_as_calls`: the summary.
-/

namespace QueryLoom

open Step

/-! ## Counts of rows -/

/-- A count of rows says how many there may be, or how many are skipped. -/
inductive CountKind where
  | limit
  | offset
  deriving DecidableEq, Repr

/-- The count of a segment, if it is of the kind. -/
def Segment.count? (kind : CountKind) : Segment → Option Nat
  | .limit n => if kind = .limit then some n else none
  | .offset n => if kind = .offset then some n else none
  | _ => none

/-- The counts of a kind in a statement, in the order in which they are written. -/
def Statement.countsOf (statement : Statement) (kind : CountKind) : List Nat :=
  statement.segments.filterMap (Segment.count? kind)

/-- The count that a clause was called with, if it is of the kind. -/
def Clause.count? (kind : CountKind) : Clause → Option Int
  | .limit n => if kind = .limit then some n else none
  | .offset n => if kind = .offset then some n else none
  | _ => none

/-- The counts of a kind that a chain was called with, in the order of the calls. -/
def Chain.calls {s : Stage} (chain : Chain s) (kind : CountKind) : List Int :=
  chain.counts.filterMap (Clause.count? kind)

/-! ## Where counts are written -/

/-- Only segments for paging have counts. -/
theorem Segment.count?_of_not_isPaging {segment : Segment} (h : segment.isPaging = false)
    (kind : CountKind) : segment.count? kind = none := by
  cases segment with
  | limit n => cases h
  | offset n => cases h
  | _ => rfl

/-- A natural number is written as the count it was called with. -/
theorem Clause.counts_segments {clause : Clause} {n : Nat}
    (h : clause = .limit n ∨ clause = .offset n) (kind : CountKind) :
    (clause.segments.filterMap (Segment.count? kind)).map Int.ofNat =
      (clause.count? kind).toList := by
  rcases h with rfl | rfl <;> cases kind <;> rfl

/-- So are many of them. -/
theorem Clause.counts_flatMap {clauses : List Clause}
    (h : ∀ c ∈ clauses, ∃ n : Nat, c = .limit n ∨ c = .offset n) (kind : CountKind) :
    ((clauses.flatMap segments).filterMap (Segment.count? kind)).map Int.ofNat =
      clauses.filterMap (count? kind) := by
  induction clauses with
  | nil => rfl
  | cons clause rest ih =>
      obtain ⟨⟨n, hclause⟩, hrest⟩ := List.forall_mem_cons.mp h
      rw [List.flatMap_cons, List.filterMap_append, List.map_append, counts_segments hclause kind,
        ih hrest, List.filterMap_cons]
      cases clause.count? kind <;> rfl

namespace Chain

variable {s : Stage}

/-- Neither the body of a selection nor its order has counts. -/
theorem counts_body (chain : Chain s) (kind : CountKind) :
    (chain.body ++ chain.ordering).filterMap (Segment.count? kind) = [] := by
  rw [List.filterMap_eq_nil_iff]
  intro segment hmem
  apply Segment.count?_of_not_isPaging
  rcases List.mem_append.mp hmem with hbody | hordering
  · have hbody := chain.isBody_body segment hbody
    cases segment <;> first | rfl | cases hbody
  · obtain ⟨orders, rfl⟩ := chain.mem_ordering segment hordering
    rfl

/-- The counts of a selection are those behind its order. -/
theorem counts_selection (chain : Chain s) (pages : List Segment) (kind : CountKind) :
    (Segment.keyword "SELECT" :: .selection chain.selected ::
      (chain.body ++ (chain.ordering ++ pages))).filterMap (Segment.count? kind) =
        pages.filterMap (Segment.count? kind) := by
  have hselect : (Segment.keyword "SELECT").count? kind = none := rfl
  have hselection : (Segment.selection chain.selected).count? kind = none := rfl
  rw [List.filterMap_cons_none hselect, List.filterMap_cons_none hselection, ← List.append_assoc,
    List.filterMap_append, chain.counts_body kind, List.nil_append]

/-- Without faults a statement has the counts that its chain was called with. -/
theorem countsOf_statement {chain : Chain s} (hnamed : s.isNamed = true)
    (hfaults : chain.faults = []) (kind : CountKind) :
    (chain.statement.countsOf kind).map Int.ofNat = chain.calls kind := by
  rw [Statement.countsOf, chain.segments_eq hnamed, chain.counts_selection, chain.pages_eq]
  exact Clause.counts_flatMap (mem_counts hfaults) kind

/-- The statement for a page has those that are asked for in their place. -/
theorem countsOf_paged (chain : Chain s) (hnamed : s.isNamed = true) (size offset : Nat) :
    (chain.statement.paged size offset).countsOf .limit = [size] ∧
      (chain.statement.paged size offset).countsOf .offset = [offset] := by
  simp only [Statement.countsOf, chain.segments_paged hnamed, chain.counts_selection]
  exact ⟨rfl, rfl⟩

end Chain

/-! ## Summary -/

/-- Let the statement of a selection be built.  Its text joins the texts of the select list, the
body and the order behind `SELECT`, and then there follow the texts of the limits and offsets, one
for each call, in the order of the calls.  The counts of the statement are those of the calls, so it
has one limit and one offset at most exactly when each was called once at most.  The statement for a
page has exactly one of each, whatever was called. -/
theorem counts_are_as_many_as_calls {stage : Stage} (fetchable : stage.fetchable = true)
    (chain : Chain stage) {catalog catalog' : Catalog} (hcatalog : catalog.Reached)
    {bound : BoundStatement} (hbuild : chain.statement.build catalog = .ok bound catalog') :
    (∃ aliases listed body order texts,
      chain.Parts aliases listed body order (" ".intercalate texts) ∧
      chain.counts.mapM (Clause.direct aliases) = .ok texts ∧
      bound.sql = joined ["SELECT", listed, body, order, " ".intercalate texts]) ∧
    (∀ c ∈ chain.counts, ∃ n : Nat, c = .limit n ∨ c = .offset n) ∧
    (∀ kind, (chain.statement.countsOf kind).map Int.ofNat = chain.calls kind) ∧
    ((∀ kind, (chain.statement.countsOf kind).length ≤ 1) ↔
      ∀ kind, (chain.calls kind).length ≤ 1) ∧
    ∀ size offset, (chain.statement.paged size offset).countsOf .limit = [size] ∧
      (chain.statement.paged size offset).countsOf .offset = [offset] := by
  have hnamed := Stage.isNamed_of_fetchable fetchable
  have hrows : chain.statement.buildAs .rows catalog = .ok bound catalog' := hbuild
  obtain ⟨hfault, aliases, listed, body, order, paging, hparts, hsql⟩ :=
    Chain.exists_parts hnamed (Chain.direct_of_buildAs hcatalog hrows)
  have hfaults := Chain.faults_eq_nil hfault
  have hcounts := Chain.mem_counts hfaults
  have hsaid : ∀ c ∈ chain.counts, c.Said := by
    intro c hc
    obtain ⟨n, rfl | rfl⟩ := hcounts c hc
    · exact Int.natCast_nonneg n
    · exact Int.natCast_nonneg n
  have hpaging := hparts.paging
  rw [chain.pages_eq] at hpaging
  obtain ⟨texts, htexts, -, rfl⟩ := Clause.exists_texts hsaid hpaging
  have hcalls := fun kind => Chain.countsOf_statement hnamed hfaults kind
  refine ⟨⟨aliases, listed, body, order, texts, hparts, htexts, hsql⟩, hcounts, hcalls, ?_,
    chain.countsOf_paged hnamed⟩
  refine forall_congr' fun kind => ?_
  rw [← hcalls kind, List.length_map]

/-- The rows of a table can be limited, and once they are limited they can be limited again. -/
theorem Stage.limitable_tabled : Stage.tabled.limitable = true := rfl

theorem Stage.limitable_limited : Stage.limited.limitable = true := rfl

/-- All users, limited twice. -/
def Chain.limitedTwice : Chain .limited :=
  .limit Stage.limitable_limited
    (.limit Stage.limitable_tabled (.fromTable (.select []) ⟨.entity .user, none⟩) 5) 10

/-- Both limits are written: the second one does not take the place of the first. -/
theorem second_limit_joins_the_first :
    (outcome (Chain.limitedTwice.statement.build (.empty 0))).map (·.sql) =
      .ok "SELECT * FROM \x60user\x60 \x60t1\x60 LIMIT 5 LIMIT 10" ∧
    Chain.limitedTwice.statement.countsOf .limit = [5, 10] ∧
    ¬∀ (chain : Chain .limited) (bound : BoundStatement),
      outcome (chain.statement.build (.empty 0)) = .ok bound →
        ∀ kind, (chain.statement.countsOf kind).length ≤ 1 := by
  have hcounts : Chain.limitedTwice.statement.countsOf .limit = [5, 10] := by decide
  refine ⟨by decide +kernel, hcounts, fun hall => ?_⟩
  obtain ⟨bound, catalog', hbuild⟩ : ∃ bound catalog',
      Chain.limitedTwice.statement.build (.empty 0) = .ok bound catalog' :=
    Step.exists_of_succeeds (by decide +kernel)
  have honce := hall Chain.limitedTwice bound (outcome_of_eq_ok hbuild) .limit
  rw [hcounts] at honce
  exact absurd honce (by decide)

/-- The statement has both limits and no offset, and a page of it has one of each. -/
theorem counts_of_limitedTwice :
    ∃ bound catalog', Chain.limitedTwice.statement.build (.empty 0) = .ok bound catalog' ∧
      Chain.limitedTwice.statement.countsOf .limit = [5, 10] ∧
      Chain.limitedTwice.statement.countsOf .offset = [] ∧
      (Chain.limitedTwice.statement.paged 20 40).countsOf .limit = [20] ∧
      (Chain.limitedTwice.statement.paged 20 40).countsOf .offset = [40] := by
  obtain ⟨bound, catalog', hbuild⟩ : ∃ bound catalog',
      Chain.limitedTwice.statement.build (.empty 0) = .ok bound catalog' :=
    Step.exists_of_succeeds (by decide +kernel)
  obtain ⟨-, -, hcounts, -, hpaged⟩ :=
    counts_are_as_many_as_calls rfl Chain.limitedTwice (.empty 0) hbuild
  have hlimits : (Chain.limitedTwice.statement.countsOf .limit).map Int.ofNat = [5, 10] :=
    (hcounts .limit).trans rfl
  have hoffsets : (Chain.limitedTwice.statement.countsOf .offset).map Int.ofNat = [] :=
    (hcounts .offset).trans rfl
  refine ⟨bound, catalog', hbuild, ?_, List.map_eq_nil_iff.mp hoffsets, hpaged 20 40⟩
  exact List.map_injective_iff.mpr (fun _ _ => Int.ofNat.inj) hlimits

end QueryLoom

import QueryLoom.Proofs.Transparency

/-!
# How tables are declared

The aliases of a statement are settled before any text is written: its tables are declared, and
from then on no alias is generated, changed or dropped.  Every statement that is built from one
chain declares its tables in the order of the calls, each under the same alias.

## Main definitions

* `Contains`: texts that stand in another text, in this order.

## Main results

* `Statement.contains_directText`: the text of a statement declares its tables in order.
* `tables_are_declared_in_order`: the summary.
-/

namespace QueryLoom

open Step

/-! ## Texts within a text -/

/-- The parts stand in the text one behind the other, possibly with other text around them. -/
def Contains (text : String) (parts : List String) : Prop :=
  ∃ pieces : List String, text = String.join pieces ∧ parts.Sublist pieces

namespace Contains

theorem nothing (text : String) : Contains text [] :=
  ⟨[text], by simp, List.nil_sublist _⟩

theorem whole (text : String) : Contains text [text] :=
  ⟨[text], by simp, List.Sublist.refl _⟩

/-- What stands in two texts stands in them when one follows the other. -/
theorem append {a b : String} {as bs : List String} (ha : Contains a as) (hb : Contains b bs) :
    Contains (a ++ b) (as ++ bs) := by
  obtain ⟨pieces, rfl, hpieces⟩ := ha
  obtain ⟨others, rfl, hothers⟩ := hb
  exact ⟨pieces ++ others, (String.join_append ..).symm, hpieces.append hothers⟩

theorem joinText {a b : String} {as bs : List String} (ha : Contains a as) (hb : Contains b bs) :
    Contains (Query.joinText a b) (as ++ bs) := by
  have hblank : Query.joinText a b = a ++ b ∨ Query.joinText a b = a ++ " " ++ b := by
    unfold Query.joinText
    by_cases hb : b.isEmpty <;> by_cases ha : a.isEmpty <;> simp_all
  rcases hblank with hjoin | hjoin
  · rw [hjoin]
    exact ha.append hb
  · have hspaced := (ha.append (nothing " ")).append hb
    rw [hjoin]
    rwa [List.append_nil] at hspaced

end Contains

/-! ## Declarations in the text -/

/-- The tables of segments are declared in their text, in order. -/
theorem Segment.contains_directAll {scope : Scope} {segments : List Segment} {sql : String}
    (h : directAll scope segments = .ok sql) :
    Contains sql ((segments.filterMap table?).map (·.direct scope.aliases)) := by
  induction segments generalizing sql with
  | nil =>
      cases h
      exact .nothing ""
  | cons segment rest ih =>
      obtain ⟨text, others, htext, hothers, rfl⟩ := directAll_cons_eq_ok h
      have hrest := ih hothers
      cases segment with
      | table t =>
          cases htext
          exact (Contains.whole _).joinText hrest
      | _ => exact (Contains.nothing _).joinText hrest

namespace Statement

variable {statement : Statement}

/-- The text of each of the statements declares the tables in order. -/
theorem contains_directText {aliases : Aliases} {form : Form} {sql : String}
    (h : statement.directText aliases form = .ok sql) :
    Contains sql
      ((statement.segments.filterMap Segment.table?).map (·.direct aliases)) := by
  cases form with
  | rows =>
      have hall := Segment.contains_directAll h
      exact hall
  | count =>
      rw [directText] at h
      by_cases hgroups : statement.segments.any Segment.isGrouping
      · rw [if_pos hgroups] at h
        obtain ⟨body, hbody, h⟩ := exists_of_bind_eq_ok h
        cases h
        have hinner := Segment.contains_directAll hbody
        have hall := ((Contains.nothing "SELECT COUNT(1) FROM (").append hinner).append
          (Contains.nothing ") \x60counted\x60")
        rwa [List.append_nil] at hall
      · rw [if_neg hgroups] at h
        have hall := Segment.contains_directAll h
        exact hall
  | page size offset =>
      have hpage := Segment.contains_directAll h
      rwa [tables_paged] at hpage

end Statement

/-! ## Summary -/

/-- Let one of the statements of a chain be built.  Then its tables have aliases.  A table with an
explicit alias has it, and the `k`-th table without one has the `k`-th name of `t1`, `t2`, … that
is not an explicit alias of any table of the chain; so it is the alias of no other table.

With these aliases, and no others, all statements of the chain are written.  Each one declares the
tables in the order of the calls, by their quoted names and aliases. -/
theorem tables_are_declared_in_order {stage : Stage} (chain : Chain stage) {form : Form}
    {catalog catalog' : Catalog} (hcatalog : catalog.Reached) {bound : BoundStatement}
    (hbuild : chain.statement.buildAs form catalog = .ok bound catalog') :
    ∃ aliases : Aliases,
      (∀ t ∈ chain.tables, ∀ aliasName, t.explicitAlias? = some aliasName →
        aliases.aliasOf? t.key = some aliasName) ∧
      (∀ (k : Nat) (t : TableRef), (chain.tables.filter (·.explicitAlias?.isNone))[k]? = some t →
        aliases.aliasOf? t.key =
          some (Aliases.numbered (chain.tables.filterMap (·.explicitAlias?)) k)) ∧
      (chain.tables.Pairwise fun t u => t.explicitAlias? = none ∨ u.explicitAlias? = none →
        aliases.aliasOf? t.key ≠ aliases.aliasOf? u.key) ∧
      (∀ t ∈ chain.tables, ∃ aliasName, aliases.aliasOf? t.key = some aliasName ∧
        t.direct aliases =
          Identifier.quote t.source.directName ++ " " ++ Identifier.quote aliasName) ∧
      ∀ (other : Form) (start final : Catalog) (built : BoundStatement), start.Reached →
        chain.statement.buildAs other start = .ok built final →
          chain.statement.directText aliases other = .ok built.sql ∧
            Contains built.sql (chain.tables.map (·.direct aliases)) := by
  have hclosed := chain.closed_statement
  have hany : ∀ e ∈ chain.statement.entities, (fun _ : Entity => True) e := fun _ _ => trivial
  -- what is built without an error is what is told, even among ambiguous entities
  have htold : ∀ (form : Form) (start final : Catalog) (built : BoundStatement), start.Reached →
      chain.statement.buildAs form start = .ok built final →
        chain.statement.direct form = .ok built := by
    intro form start final built hstart hbuilt
    have htells := (Statement.tells_buildAs hany hclosed form start hstart.visited).1
    rw [hbuilt] at htells
    exact htells.of_ok
  obtain ⟨hdeclared, hmentioned⟩ := chain.lists_statement
  obtain ⟨-, aliases, haliases, -⟩ :=
    Statement.direct_eq_ok (htold form catalog catalog' bound hcatalog hbuild)
  rw [← hdeclared]
  refine ⟨aliases, ?_, ?_, Statement.pairwise_aliasOf_ne haliases, ?_, ?_⟩
  · exact fun t ht aliasName hgiven => Statement.aliasOf_of_explicit haliases ht hgiven
  · exact fun k t ht => Statement.aliasOf_of_unnamed haliases ht
  · intro t ht
    obtain ⟨aliasName, halias⟩ := Statement.exists_aliasOf haliases ht
    refine ⟨aliasName, halias, ?_⟩
    rw [TableRef.direct, Aliases.get, halias]
  · intro other start final built hstart hbuilt
    obtain ⟨-, aliases', haliases', hsql, -⟩ :=
      Statement.direct_eq_ok (htold other start final built hstart hbuilt)
    rw [haliases] at haliases'
    cases haliases'
    have hcontains := Statement.contains_directText hsql
    rw [hmentioned, ← hdeclared] at hcontains
    exact ⟨hsql, hcontains⟩

/-- Five tables, two of which are given aliases in the place of generated ones. -/
def Chain.crossed : Chain .tabled :=
  .unconditioned (.join (.unconditioned (.join (.unconditioned (.join (.unconditioned (.join
    (.fromTable (.select [.raw "1"]) ⟨.named "users", none⟩)
    .inner ⟨.named "orders", some "t1"⟩))
    .inner ⟨.named "items", none⟩))
    .left ⟨.named "lists", some "t3"⟩))
    .left ⟨.named "tags", some ""⟩)

/-- The other three have the next names. -/
theorem aliases_of_crossed : ∃ aliases : Aliases,
    aliases.aliasOf? (.namedAs "orders" "t1") = some "t1" ∧
    aliases.aliasOf? (.namedAs "lists" "t3") = some "t3" ∧
    aliases.aliasOf? (.named "users") = some "t2" ∧
    aliases.aliasOf? (.named "items") = some "t4" ∧
    aliases.aliasOf? (.named "tags") = some "t5" := by
  obtain ⟨bound, catalog', hbuild⟩ : ∃ bound catalog',
      Chain.crossed.statement.buildAs .rows (.empty 0) = .ok bound catalog' :=
    Step.exists_of_succeeds (by decide +kernel)
  obtain ⟨aliases, hexplicit, hunnamed, -⟩ :=
    tables_are_declared_in_order Chain.crossed (.empty 0) hbuild
  have hnumbered : ∀ n : Nat, Aliases.Free ["t1", "t3"] n →
      Aliases.numbered ["t1", "t3"] (Nat.count (Aliases.Free ["t1", "t3"]) n) =
        Aliases.generated n := by
    intro n hn
    rw [Aliases.numbered, Nat.nth_count hn]
  refine ⟨aliases, ?_, ?_, ?_, ?_, ?_⟩
  · exact hexplicit ⟨.named "orders", some "t1"⟩ (by decide) "t1" (by decide)
  · exact hexplicit ⟨.named "lists", some "t3"⟩ (by decide) "t3" (by decide)
  · exact (hunnamed 0 ⟨.named "users", none⟩ (by decide)).trans
      (congrArg some (hnumbered 2 (by decide)))
  · exact (hunnamed 1 ⟨.named "items", none⟩ (by decide)).trans
      (congrArg some (hnumbered 4 (by decide)))
  · exact (hunnamed 2 ⟨.named "tags", some ""⟩ (by decide)).trans
      (congrArg some (hnumbered 5 (by decide)))

end QueryLoom

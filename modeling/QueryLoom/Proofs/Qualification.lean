import QueryLoom.Proofs.Citing

/-!
# How fields are qualified

The aliases of a statement are settled when its first segment is rendered, and from then on no step
of rendering changes them.  So a field is written in the same way wherever it stands: behind the
alias of its table if the statement declares that table, even if it does so only later in the chain,
and by its column alone if it does not.

## Main definitions

* `Field.Qualified`: how a field is written among declared tables.

## Main results

* `Segment.aliases_renderAll`: rendering leaves the aliases alone, on success and on failure.
* `Statement.qualified_of_directAliases`: fields are written by the tables of their statement.
* `fields_are_qualified_alike`: the summary.
-/

namespace QueryLoom

open Step

/-! ## Settled aliases -/

/-- Segments whose tables are declared are rendered without a change to the aliases, whether or not
they succeed. -/
theorem Segment.aliases_renderAll {segments : List Segment} {s : Session}
    (hcatalog : s.catalog.Visited fun _ => True)
    (htables : ∀ t, .table t ∈ segments → ∃ aliasName, s.aliases.aliasOf? t.key = some aliasName)
    (before : String) : (left (renderAll before segments s)).aliases = s.aliases := by
  have hany : ∀ e ∈ segments.flatMap entities, (fun _ : Entity => True) e := fun _ _ => trivial
  obtain ⟨-, hwithin⟩ := @tells_renderAll (fun _ => True) ⟨s.aliases, s.mode⟩ segments hany htables
    before s ⟨hcatalog, rfl, rfl⟩
  exact hwithin.aliases

namespace Statement

variable {statement : Statement} {aliases : Aliases}

/-- A statement that declares its tables in a session settles its aliases, in every mode. -/
theorem aliases_of_declareTables (haliases : statement.directAliases = .ok aliases) {mode : Mode}
    {start : Catalog} (hstart : start.Reached) {us : List Unit} {s : Session}
    (h : statement.declareTables (Session.start mode start) = .ok us s) :
    s.aliases = aliases ∧ s.catalog.Visited fun _ => True := by
  have hany : ∀ e ∈ statement.entities, (fun _ : Entity => True) e := fun _ _ => trivial
  obtain ⟨hmatches, hvisited, -⟩ :=
    declares_declareTables hany (Session.start mode start) hstart.visited
  rw [h] at hmatches hvisited
  have htold : statement.directAliases = .ok s.aliases := hmatches.of_ok
  rw [haliases] at htold
  cases htold
  exact ⟨rfl, hvisited⟩

/-- Only declared tables have aliases. -/
theorem aliasOf_eq_none (h : statement.directAliases = .ok aliases) {key : TableKey}
    (hkey : ∀ t ∈ statement.tables, t.key ≠ key) : aliases.aliasOf? key = none := by
  have hentry : ∀ e ∈ aliases.entries, e.key ≠ key := by
    rw [(numbered_of_directAliases h).entries]
    refine List.forall_mem_append.mpr ⟨fun e he => ?_, fun e he => ?_⟩
    · obtain ⟨t, ht, hentry⟩ := List.mem_filterMap.mp he
      obtain ⟨aliasName, -, rfl⟩ := Option.map_eq_some_iff.mp hentry
      exact hkey t ht
    · obtain ⟨k, hk, rfl⟩ := List.mem_mapIdx.mp he
      exact hkey _ (List.mem_of_mem_filter (List.getElem_mem hk))
  have hnone : aliases.entry? key = none :=
    List.find?_eq_none.mpr fun e he => by simpa using hentry e he
  rw [Aliases.aliasOf?, hnone, Option.map_none]

end Statement

/-! ## Qualified fields -/

/-- The field is written by its column.  If its table is among the given ones, then that table is
declared under an alias, and the column stands behind this alias; if it is not, the column stands
alone. -/
def Field.Qualified (tables : List TableRef) (aliases : Aliases) (f : Field) : Prop :=
  ∃ column, (Names.ofEntity f.entity).column? f.property = some column ∧
    (∀ t ∈ tables, t.key = .ofEntity f.entity → ∃ aliasName,
      aliases.aliasOf? t.key = some aliasName ∧
      t.direct aliases =
        Identifier.quote t.source.directName ++ " " ++ Identifier.quote aliasName ∧
      f.direct aliases = .ok (aliasName ++ "." ++ Identifier.quote column)) ∧
    ((∀ t ∈ tables, t.key ≠ .ofEntity f.entity) →
      f.direct aliases = .ok (Identifier.quote column))

/-- A field that can be written is qualified by the tables of its statement. -/
theorem Statement.qualified_of_directAliases {statement : Statement} {aliases : Aliases}
    (h : statement.directAliases = .ok aliases) {f : Field} {text : String}
    (htext : f.direct aliases = .ok text) : f.Qualified statement.tables aliases := by
  cases hcolumn : (Names.ofEntity f.entity).column? f.property with
  | none =>
      rw [Field.direct_of_undeclared (f.column_eq_none_iff.mp hcolumn)] at htext
      cases htext
  | some column =>
      refine ⟨column, hcolumn, fun t ht hkey => ?_, fun hnone => ?_⟩
      · obtain ⟨aliasName, halias⟩ := exists_aliasOf h ht
        refine ⟨aliasName, halias, ?_, ?_⟩
        · rw [TableRef.direct, Aliases.get, halias]
        · rw [Field.direct_of_column hcolumn, ← hkey, halias]
          rfl
      · rw [Field.direct_of_column hcolumn, aliasOf_eq_none h hnone]
        rfl

/-- An update declares no tables. -/
theorem Chain.tables_of_update {s : Stage} (chain : Chain s)
    (h : s = .assigned ∨ s = .conditioned) : chain.tables = [] := by
  cases chain with
  | assign chain => rfl
  | choosing chain query =>
      cases chain with
      | assign chain => rfl
  | _ => rcases h with h | h <;> simp_all

/-! ## Summary -/

/-- Let one of the statements of a chain be built.  There are aliases, which its tables settle in
every mode, and which are the same, tables in order, sequence, and column aliases, after any number
of its segments is rendered in a session where they were settled.

Each of the statements of the chain that is built cites the fields of the chain in the order of the
calls, those of the select list and the order only where these are written, and declares the tables.
With the aliases each field is written in one way: by its column behind the alias under which the
statement declares its table, wherever in the chain that table stands, and by its column alone if
there is no such table.  In an update there never is one. -/
theorem fields_are_qualified_alike {stage : Stage} (chain : Chain stage) {form : Form}
    {catalog catalog' : Catalog} (hcatalog : catalog.Reached) {bound : BoundStatement}
    (hbuild : chain.statement.buildAs form catalog = .ok bound catalog') :
    ∃ aliases : Aliases,
      (∀ (mode : Mode) (start : Catalog) (us : List Unit) (s : Session), start.Reached →
        chain.statement.declareTables (Session.start mode start) = .ok us s →
          s.aliases = aliases ∧
          ∀ front : List Segment, (front <+: chain.statement.segments ∨
              ∃ size offset, front <+: (chain.statement.paged size offset).segments) →
            (left (Segment.renderAll "" front s)).aliases = aliases) ∧
      (∀ (other : Form) (start final : Catalog) (built : BoundStatement), start.Reached →
        chain.statement.buildAs other start = .ok built final →
          chain.statement.directText aliases other = .ok built.sql ∧
          Contains built.sql (chain.tables.map (·.direct aliases)) ∧
          (∃ texts, (chain.fields (chain.statement.modeOf other)).mapM (Field.direct aliases) =
            .ok texts ∧ Contains built.sql texts) ∧
          ∀ f ∈ chain.fields (chain.statement.modeOf other), f.Qualified chain.tables aliases) ∧
      (stage = .assigned ∨ stage = .conditioned → chain.tables = []) := by
  obtain ⟨hdeclared, hmentioned⟩ := chain.lists_statement
  obtain ⟨-, aliases, haliases, -⟩ :=
    Statement.direct_eq_ok (Chain.direct_of_buildAs hcatalog hbuild)
  refine ⟨aliases, ?_, ?_, chain.tables_of_update⟩
  · intro mode start us s hstart hdeclare
    obtain ⟨rfl, hvisited⟩ := Statement.aliases_of_declareTables haliases hstart hdeclare
    refine ⟨rfl, fun front hfront => Segment.aliases_renderAll hvisited (fun t ht => ?_) ""⟩
    have hclosed : t ∈ chain.statement.tables := by
      rcases hfront with hfront | ⟨size, offset, hfront⟩
      · exact chain.closed_statement t (hfront.subset ht)
      · exact chain.closed_statement.paged size offset t (hfront.subset ht)
    exact Statement.exists_aliasOf haliases hclosed
  · intro other start final built hstart hbuilt
    obtain ⟨-, aliases', haliases', hsql, -⟩ :=
      Statement.direct_eq_ok (Chain.direct_of_buildAs hstart hbuilt)
    rw [haliases] at haliases'
    cases haliases'
    have hcontains := Statement.contains_directText hsql
    rw [hmentioned] at hcontains
    have hcites := @Statement.cites_directText True chain.statement aliases other
      fun _ _ => .inl trivial
    rw [hsql, chain.fields_segments] at hcites
    cases hcites with
    | @written _ texts hfields hstands =>
        refine ⟨hsql, hcontains, ⟨texts, hfields, hstands⟩, fun f hf => ?_⟩
        obtain ⟨text, -, htext⟩ := (mem_of_mapM_eq_ok hfields).1 f hf
        rw [← hdeclared]
        exact Statement.qualified_of_directAliases haliases htext

/-- Users with what they visited and ordered; the first condition already speaks of the orders,
which are joined last. -/
def Chain.ahead : Chain .tabled :=
  .unconditioned (.join (.on (.join
    (.fromTable (.select [.name ⟨.order, "userId"⟩]) ⟨.entity .user, none⟩)
    .inner ⟨.named "visits", none⟩)
    (Query.empty.addCondition .and
      ⟨.field ⟨.order, "userId"⟩, .eq, .column (.field ⟨.user, "id"⟩)⟩))
    .left ⟨.entity .order, some "o"⟩)

/-- All of them stand behind the aliases that are declared. -/
theorem fields_of_ahead : ∃ bound catalog',
    Chain.ahead.statement.buildAs .rows (.empty 0) = .ok bound catalog' ∧
      Contains bound.sql ["o.\x60user_id\x60", "o.\x60user_id\x60", "t1.\x60id\x60"] := by
  obtain ⟨bound, catalog', hbuild⟩ : ∃ bound catalog',
      Chain.ahead.statement.buildAs .rows (.empty 0) = .ok bound catalog' :=
    Step.exists_of_succeeds (by decide +kernel)
  obtain ⟨us, s, hdeclare⟩ : ∃ us s,
      Chain.ahead.statement.declareTables (Session.start .full (.empty 0)) = .ok us s :=
    Step.exists_of_succeeds (by decide +kernel)
  obtain ⟨aliases, hsettled, hwritten, -⟩ :=
    fields_are_qualified_alike Chain.ahead (.empty 0) hbuild
  obtain ⟨rfl, -⟩ := hsettled .full (.empty 0) us s (.empty 0) hdeclare
  obtain ⟨-, -, ⟨texts, htexts, hcontains⟩, -⟩ :=
    hwritten .rows (.empty 0) catalog' bound (.empty 0) hbuild
  have haliases : s.aliases =
      (left (Chain.ahead.statement.declareTables (Session.start .full (.empty 0)))).aliases := by
    rw [hdeclare]
    rfl
  have hfields : (Chain.ahead.fields .full).mapM (Field.direct s.aliases) =
      .ok ["o.\x60user_id\x60", "o.\x60user_id\x60", "t1.\x60id\x60"] := by
    rw [haliases]
    decide +kernel
  have hsame : texts = _ := Except.ok.inj (htexts.symm.trans hfields)
  rw [hsame] at hcontains
  exact ⟨bound, catalog', hbuild, hcontains⟩

end QueryLoom

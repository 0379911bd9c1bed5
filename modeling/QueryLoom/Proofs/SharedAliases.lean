import QueryLoom.Proofs.Flushing

/-!
# When tables share an alias

A statement registers each table once, so tables that are the same cannot both be declared.
Different tables may be given the same explicit alias, and nothing else makes them share
one: a generated alias is the alias of no other table.  So the aliases of a statement are pairwise
distinct exactly when its explicit aliases are, and then every qualified field belongs to one table.

## Main definitions

* `TableRef.SharesAlias`: tables that were given the same explicit alias.

## Main results

* `Statement.pairwise_aliasOf_eq_iff`: only tables that were given the same alias share one.
* `Statement.nodup_aliases_iff`: all aliases are distinct when the explicit ones are.
* `TableRef.Registered.error_of_twice`: a table that is there twice is an error.
* `only_given_aliases_are_shared`: the summary.
-/

namespace QueryLoom

open Step

/-- Two tables were given the same explicit alias. -/
def TableRef.SharesAlias (t u : TableRef) : Prop :=
  ∃ aliasName, t.explicitAlias? = some aliasName ∧ u.explicitAlias? = some aliasName

/-! ## Aliases that are shared -/

namespace Statement

variable {statement : Statement} {aliases : Aliases}

/-- Among the tables of a statement, in order, no two are the same, and only tables that were given
the same alias share one. -/
theorem pairwise_aliasOf_eq_iff (h : statement.directAliases = .ok aliases) :
    statement.tables.Pairwise fun t u => ¬ t.Same u ∧
      (aliases.aliasOf? t.key = aliases.aliasOf? u.key ↔ t.SharesAlias u) := by
  have hkeys := List.pairwise_map.mp (nodup_keys h)
  refine List.Pairwise.imp_of_mem (fun {t u} ht hu hkey => ?_) (hkeys.and (pairwise_aliasOf_ne h))
  obtain ⟨hkey, hne⟩ := hkey
  refine ⟨fun hsame => hkey ((t.same_iff u).mp hsame), fun heq => ?_, ?_⟩
  · cases hgiven : t.explicitAlias? with
    | none => exact absurd heq (hne (.inl hgiven))
    | some aliasName =>
        cases hother : u.explicitAlias? with
        | none => exact absurd heq (hne (.inr hother))
        | some other =>
            rw [aliasOf_of_explicit h ht hgiven, aliasOf_of_explicit h hu hother] at heq
            exact ⟨aliasName, hgiven, hother.trans heq.symm⟩
  · rintro ⟨aliasName, hgiven, hother⟩
    rw [aliasOf_of_explicit h ht hgiven, aliasOf_of_explicit h hu hother]

/-- All aliases are distinct exactly when the explicit ones are. -/
theorem nodup_aliases_iff (h : statement.directAliases = .ok aliases) :
    (statement.tables.map fun t => aliases.aliasOf? t.key).Nodup ↔
      statement.explicitAliases.Nodup := by
  rw [explicitAliases, List.Nodup, List.Nodup, List.pairwise_map, List.pairwise_filterMap]
  constructor
  · intro hdistinct
    refine (hdistinct.and (pairwise_aliasOf_eq_iff h)).imp fun {t u} hboth => ?_
    rintro aliasName hgiven other hother rfl
    exact hboth.1 (hboth.2.2.mpr ⟨aliasName, hgiven, hother⟩)
  · intro hdistinct
    refine (hdistinct.and (pairwise_aliasOf_eq_iff h)).imp fun {t u} hboth heq => ?_
    obtain ⟨aliasName, hgiven, hother⟩ := hboth.2.2.mp heq
    exact hboth.1 aliasName hgiven aliasName hother rfl

end Statement

/-- Where no alias is shared, an alias belongs to one table. -/
theorem eq_of_aliasOf {tables : List TableRef} {aliases : Aliases}
    (hdistinct : (tables.map fun t => aliases.aliasOf? t.key).Nodup) {t u : TableRef}
    (ht : t ∈ tables) (hu : u ∈ tables) {aliasName : String}
    (htable : aliases.aliasOf? t.key = some aliasName)
    (hother : aliases.aliasOf? u.key = some aliasName) : u = t :=
  List.inj_on_of_nodup_map hdistinct hu ht (hother.trans htable.symm)

/-- Every field that is written in a statement has a text. -/
theorem Chain.exists_direct_of_field {s : Stage} {chain : Chain s} {form : Form} {aliases : Aliases}
    {sql : String} (hsql : chain.statement.directText aliases form = .ok sql) {f : Field}
    (hf : f ∈ chain.fields (chain.statement.modeOf form)) :
    ∃ text, f.direct aliases = .ok text := by
  have hcites := @Statement.cites_directText True chain.statement aliases form
    fun _ _ => .inl trivial
  rw [hsql, chain.fields_segments] at hcites
  cases hcites with
  | written hfields _ =>
      obtain ⟨text, -, htext⟩ := (mem_of_mapM_eq_ok hfields).1 f hf
      exact ⟨text, htext⟩

/-! ## Tables that are there twice -/

/-- Where a table is there twice, not all tables can be registered: a fault of a call comes first,
or a table is refused. -/
theorem TableRef.Registered.error_of_twice {α : Type} {fault : Option ValidationFault}
    {tables registered : List TableRef} {r : Except Error α}
    (h : Registered fault tables registered r) (hnodup : (registered.map TableRef.key).Nodup)
    (htwice : ∃ t, Twice tables t) :
    (∃ first, fault = some first ∧ r = .error (.validation first)) ∨
      fault = none ∧ ∃ front, ∃ t ∈ tables, ∃ e, t.Refused front e ∧ r = .error e := by
  cases h with
  | fault hfault => exact .inl ⟨_, hfault, rfl⟩
  | stopped hfault htables hrefused =>
      refine .inr ⟨hfault, _, _, ?_, _, hrefused, rfl⟩
      rw [← (registration_perm tables).mem_iff, htables]
      exact List.mem_append_right _ List.mem_cons_self
  | all =>
      obtain ⟨t, htwice⟩ := htwice
      have hkeys := ((registration_perm tables).map TableRef.key).nodup_iff.mp hnodup
      exact absurd htwice (not_twice hkeys t)

/-! ## Summary -/

/-- Let one of the statements of a chain be built.  It declares the tables of the chain in order,
each under an alias, which is the explicit one if it has one.  No two of the tables are the same,
and two of them share an alias exactly when they were given the same one.  So all aliases are
distinct exactly when the explicit ones are, and then every field of a declared table that is
written stands behind the alias of this table and of no other.

A chain with the same table twice is never built.  The error is one of validation, or else a
conflict about the type path of one of its tables; among unambiguous entities it is one of
validation. -/
theorem only_given_aliases_are_shared {stage : Stage} (chain : Chain stage) (form : Form)
    {catalog : Catalog} (hcatalog : catalog.Reached) :
    (∀ bound, outcome (chain.statement.buildAs form catalog) = .ok bound → ∃ aliases : Aliases,
      Contains bound.sql (chain.tables.map (·.direct aliases)) ∧
      (∀ t ∈ chain.tables, ∃ aliasName, aliases.aliasOf? t.key = some aliasName ∧
        (∀ given, t.explicitAlias? = some given → aliasName = given) ∧
        t.direct aliases =
          Identifier.quote t.source.directName ++ " " ++ Identifier.quote aliasName) ∧
      (chain.tables.Pairwise fun t u => ¬ t.Same u ∧
        (aliases.aliasOf? t.key = aliases.aliasOf? u.key ↔ t.SharesAlias u)) ∧
      ((chain.tables.map fun t => aliases.aliasOf? t.key).Nodup ↔
        (chain.tables.filterMap TableRef.explicitAlias?).Nodup) ∧
      ((chain.tables.filterMap TableRef.explicitAlias?).Nodup →
        ∀ f ∈ chain.fields (chain.statement.modeOf form), ∀ t ∈ chain.tables,
          t.key = .ofEntity f.entity → ∃ aliasName column,
            f.direct aliases = .ok (aliasName ++ "." ++ Identifier.quote column) ∧
            aliases.aliasOf? t.key = some aliasName ∧
            ∀ u ∈ chain.tables, aliases.aliasOf? u.key = some aliasName → u = t)) ∧
    ((∃ t, Twice chain.tables t) →
      (∃ e, outcome (chain.statement.buildAs form catalog) = .error e ∧
        (e.isValidation = true ∨ ∃ entity cached, (∃ t ∈ chain.tables, t.source = .entity entity) ∧
          e = .conflict entity.typePath cached entity.displayed)) ∧
      ∀ known : Entity → Prop, Unambiguous known → (∀ e ∈ chain.statement.entities, known e) →
        catalog.Visited known →
          ∃ fault,
            outcome (chain.statement.buildAs form catalog) = .error (.validation fault)) := by
  obtain ⟨hdeclared, hmentioned⟩ := chain.lists_statement
  constructor
  · intro bound hbuild
    obtain ⟨-, aliases, haliases, hsql, -⟩ :=
      Statement.direct_eq_ok (Chain.direct_of_buildAs hcatalog (eq_ok_of_outcome hbuild))
    have hdistinct := Statement.nodup_aliases_iff haliases
    rw [Statement.explicitAliases, hdeclared] at hdistinct
    refine ⟨aliases, ?_, fun t ht => ?_, ?_, hdistinct, fun hexplicit f hf t ht hkey => ?_⟩
    · rw [← hmentioned]
      exact Statement.contains_directText hsql
    · rw [← hdeclared] at ht
      obtain ⟨aliasName, halias⟩ := Statement.exists_aliasOf haliases ht
      refine ⟨aliasName, halias, fun given hgiven => ?_,
        by rw [TableRef.direct, Aliases.get, halias]⟩
      exact Option.some.inj (halias.symm.trans (Statement.aliasOf_of_explicit haliases ht hgiven))
    · rw [← hdeclared]
      exact Statement.pairwise_aliasOf_eq_iff haliases
    · obtain ⟨text, htext⟩ := Chain.exists_direct_of_field hsql hf
      obtain ⟨column, -, hqualified, -⟩ := Statement.qualified_of_directAliases haliases htext
      obtain ⟨aliasName, halias, -, hwritten⟩ := hqualified t (hdeclared ▸ ht) hkey
      exact ⟨aliasName, column, hwritten, halias, fun u hu hother =>
        eq_of_aliasOf (hdistinct.mpr hexplicit) ht hu halias hother⟩
  · intro htwice
    constructor
    · obtain ⟨mode, registered, hsession, hregistered⟩ := chain.registered_buildAs form catalog
      rcases hregistered.error_of_twice hsession.nodup htwice with
        ⟨fault, -, herror⟩ | ⟨-, front, t, ht, e, hrefused, herror⟩
      · exact ⟨_, herror, .inl rfl⟩
      · refine ⟨e, herror, ?_⟩
        cases hrefused with
        | there => exact .inl rfl
        | conflict entity cached hsource => exact .inr ⟨entity, cached, ⟨t, ht, hsource⟩, rfl⟩
    · intro known hunambiguous hknown hvisited
      have htold : outcome (chain.statement.buildAs form catalog) = chain.statement.direct form :=
        (Statement.tells_buildAs hknown chain.closed_statement form catalog hvisited).1.eq
          hunambiguous
      rw [htold]
      rcases hfaults : chain.faults with _ | ⟨fault, faults⟩
      · obtain ⟨t, -, herror⟩ := Chain.direct_of_twice hunambiguous hknown hfaults htwice
        exact ⟨_, herror⟩
      · exact ⟨fault, Chain.direct_of_fault (by rw [hfaults]; rfl)⟩

/-- In what users visited and ordered all aliases are distinct, and an order's user is looked for in
the orders only; users that are joined with users are refused. -/
theorem aliases_of_ahead_are_distinct :
    (∃ aliases : Aliases, (Chain.ahead.tables.map fun t => aliases.aliasOf? t.key).Nodup ∧
      ∃ aliasName column,
        (Field.mk .order "userId").direct aliases =
          .ok (aliasName ++ "." ++ Identifier.quote column) ∧
        ∀ u ∈ Chain.ahead.tables, aliases.aliasOf? u.key = some aliasName →
          u = ⟨.entity .order, some "o"⟩) ∧
    ∃ fault, outcome (Chain.selfJoined.statement.buildAs .rows (.empty 0)) =
      .error (.validation fault) := by
  constructor
  · obtain ⟨hbuilt, -⟩ := only_given_aliases_are_shared Chain.ahead .rows (.empty 0)
    obtain ⟨bound, catalog', hbuild⟩ : ∃ bound catalog',
        Chain.ahead.statement.buildAs .rows (.empty 0) = .ok bound catalog' :=
      Step.exists_of_succeeds (by decide +kernel)
    obtain ⟨aliases, -, -, -, hdistinct, hfields⟩ := hbuilt bound (by rw [hbuild]; rfl)
    obtain ⟨aliasName, column, hwritten, -, honly⟩ := hfields (by decide) ⟨.order, "userId"⟩
      (by decide) ⟨.entity .order, some "o"⟩ (by decide) rfl
    exact ⟨aliases, hdistinct.mpr (by decide), aliasName, column, hwritten, honly⟩
  · obtain ⟨-, htwice⟩ := only_given_aliases_are_shared Chain.selfJoined .rows (.empty 0)
    obtain ⟨-, hvalidation⟩ := htwice
      ⟨⟨.entity .user, some "a"⟩, ⟨.entity .user, some "b"⟩, List.Sublist.refl _, rfl⟩
    exact hvalidation _ unambiguous_user_order (by decide) (.empty 0)

/-- Users and the orders that are joined to them, all of them under one name. -/
def Chain.clashing : Chain .tabled :=
  .unconditioned (.join (.fromTable (.select []) ⟨.entity .user, some "x"⟩) .inner
    ⟨.named "orders", some "x"⟩)

/-- It is built, and declares the alias twice. -/
theorem clashing_aliases_are_built :
    (outcome (Chain.clashing.statement.buildAs .rows (.empty 0))).map (·.sql) =
      .ok "SELECT * FROM \x60user\x60 \x60x\x60 INNER JOIN \x60orders\x60 \x60x\x60" ∧
    ∃ aliases, Chain.clashing.statement.directAliases = .ok aliases ∧
      Chain.clashing.tables.map (fun t => aliases.aliasOf? t.key) = [some "x", some "x"] := by
  refine ⟨by decide +kernel, ?_⟩
  obtain ⟨aliases, haliases⟩ : ∃ aliases,
      Chain.clashing.statement.directAliases = .ok aliases := ⟨_, rfl⟩
  have hfirst : aliases.aliasOf? (TableRef.mk (.entity .user) (some "x")).key = some "x" :=
    Statement.aliasOf_of_explicit haliases (by decide) rfl
  have hsecond : aliases.aliasOf? (TableRef.mk (.named "orders") (some "x")).key = some "x" :=
    Statement.aliasOf_of_explicit haliases (by decide) rfl
  refine ⟨aliases, haliases, ?_⟩
  show [aliases.aliasOf? _, aliases.aliasOf? _] = _
  rw [hfirst, hsecond]

end QueryLoom

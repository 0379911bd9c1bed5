import QueryLoom.Proofs.OneBody
import QueryLoom.Proofs.Qualification
import QueryLoom.Proofs.Shown

/-!
# Output names of select lists

The alias of a selected field is not written from its item.  All items of a select list register
their aliases before anything is written, each under the key of its field, so the last one counts
for the field, and every item that selects the field is written with it.  An item whose field is
given another alias further to the right loses its own.

## Main definitions

* `SelectItem.lastAlias?`: the alias that a select list gives to a field.

## Main results

* `Chain.outputName_eq`: the output names of a chain are those of its select list.
* `Chain.exists_listed`: the statements of a chain begin with its select list.
* `aliased_field_has_the_last_alias`: the summary.
-/

namespace QueryLoom

open Step

/-! ## The aliases that a select list gives -/

namespace SelectItem

/-- The alias that an item registers, under the key of its field. -/
def registered? : SelectItem → Option ((String × String) × String)
  | .aliased f aliasName => some (f.key, aliasName)
  | _ => none

/-- The alias that an item gives to a field. -/
def aliasFor? (f : Field) : SelectItem → Option String
  | .aliased g aliasName => if g.same f then some aliasName else none
  | _ => none

/-- The alias that a select list gives to a field: the last one. -/
def lastAlias? (f : Field) (items : List SelectItem) : Option String :=
  items.reverse.findSome? (aliasFor? f)

variable {f : Field} {aliasName : String} {items : List SelectItem} {i : Nat}

@[simp] theorem aliasFor?_aliased (f : Field) (aliasName : String) :
    aliasFor? f (.aliased f aliasName) = some aliasName := by
  simp [aliasFor?, Field.same]

/-- An alias is looked up among the registered ones from left to right. -/
theorem lookup_registered (f : Field) (items : List SelectItem) :
    (items.filterMap registered?).lookup f.key = items.findSome? (aliasFor? f) := by
  induction items with
  | nil => rfl
  | cons item items ih =>
      cases item with
      | aliased g aliasName =>
          have hregistered : registered? (.aliased g aliasName) = some (g.key, aliasName) := rfl
          rw [List.filterMap_cons_some hregistered, List.findSome?_cons]
          by_cases hkey : g.key = f.key
          · simp [aliasFor?, Field.same, hkey]
          · have hother : (f.key == g.key) = false := beq_eq_false_iff_ne.mpr (Ne.symm hkey)
            simp [aliasFor?, Field.same, hkey, List.lookup_cons, hother, ih]
      | _ => exact ih

/-- The field of an aliased item has an alias. -/
theorem exists_lastAlias (h : items[i]? = some (.aliased f aliasName)) :
    ∃ last, lastAlias? f items = some last := by
  refine Option.isSome_iff_exists.mp (List.findSome?_isSome_iff.mpr ⟨.aliased f aliasName, ?_, ?_⟩)
  · exact List.mem_reverse.mpr (List.mem_of_getElem? h)
  · rw [aliasFor?_aliased, Option.isSome_some]

/-- It is the one of the item, unless another one is given further to the right. -/
theorem lastAlias?_eq (h : items[i]? = some (.aliased f aliasName))
    (hlater : ∀ j g other, i < j → items[j]? = some (.aliased g other) → g.same f = true →
      other = aliasName) : lastAlias? f items = some aliasName := by
  obtain ⟨hi, hitem⟩ := List.getElem?_eq_some_iff.mp h
  have hsplit : items = items.take i ++ .aliased f aliasName :: items.drop (i + 1) := by
    rw [← hitem, List.getElem_cons_drop, List.take_append_drop]
  rw [lastAlias?, hsplit, List.reverse_append, List.reverse_cons, List.append_assoc,
    List.findSome?_append]
  cases hlast : (items.drop (i + 1)).reverse.findSome? (aliasFor? f) with
  | none => simp
  | some other =>
      obtain ⟨item, hright, hother⟩ := List.exists_of_findSome?_eq_some hlast
      obtain ⟨k, hk⟩ := List.mem_iff_getElem?.mp (List.mem_reverse.mp hright)
      rw [List.getElem?_drop] at hk
      cases item with
      | aliased g name =>
          simp only [aliasFor?, Option.ite_none_right_eq_some, Option.some.injEq] at hother
          obtain ⟨hsame, rfl⟩ := hother
          rw [hlater _ g name (by omega) hk hsame, Option.some_or]
      | _ => cases hother

/-- An aliased item is written as its field, under the alias of the field. -/
theorem direct_aliased {aliases : Aliases} {texts : List String}
    (h : direct aliases (.aliased f aliasName) = .ok texts) :
    ∃ reference, f.direct aliases = .ok reference ∧
      texts = [reference ++ " AS " ++ Identifier.quote (aliases.outputName f)] := by
  obtain ⟨text, htext, h⟩ := exists_of_bind_eq_ok h
  obtain ⟨reference, hreference, htext⟩ := exists_of_bind_eq_ok htext
  cases htext
  cases h
  exact ⟨reference, hreference, rfl⟩

end SelectItem

/-! ## The select list of a chain -/

namespace Chain

/-- Updates select nothing. -/
theorem selected_of_update {s : Stage} (chain : Chain s)
    (h : s = .updating ∨ s = .assigned ∨ s = .conditioned) : chain.selected = [] := by
  cases chain <;> first | rfl | simp_all

theorem declarations_clause (statement : Statement) (keyword : String) (query : Query) :
    (statement.clause keyword query).declarations = statement.declarations := by
  rw [Statement.clause_eq_append]
  rfl

theorem declarations_paging (statement : Statement) (n : Int) (segment : Nat → Segment)
    (fault : Int → ValidationFault) :
    (paging statement n segment fault).declarations = statement.declarations := by
  cases n <;> rfl

/-- A chain declares the aliases of its select list. -/
theorem columns_declared {s : Stage} (chain : Chain s) :
    chain.statement.declarations.filterMap Declaration.columnAlias? =
      chain.selected.filterMap SelectItem.registered? := by
  have htable : ∀ (declarations : List Declaration) (t : TableRef),
      (declarations ++ [Declaration.table t]).filterMap Declaration.columnAlias? =
        declarations.filterMap Declaration.columnAlias? := by
    intro declarations t
    rw [List.filterMap_append]
    exact List.append_nil _
  induction chain with
  | select items =>
      show (columnDeclarations items).filterMap Declaration.columnAlias? = _
      rw [columnDeclarations, List.filterMap_filterMap]
      refine List.filterMap_congr fun item _ => ?_
      cases item <;> rfl
  | fromTable chain t ih => exact (htable _ t).trans ih
  | join chain kind t ih => exact (htable _ t).trans ih
  | on chain query ih | matching chain query ih | having chain query ih =>
      rw [statement, declarations_clause]
      exact ih
  | unconditioned chain ih => exact ih
  | groupBy groupable chain columns ih =>
      rw [statement]
      split <;> exact ih
  | order orderable chain orders ih =>
      rw [statement]
      split <;> exact ih
  | limit limitable chain n ih | offset limitable chain n ih =>
      rw [statement, declarations_paging]
      exact ih
  | update table => rfl
  | set chain target value ih | setNull chain target ih | setColumn chain target source ih =>
      rwa [chain.selected_of_update (.inl rfl)] at ih
  | assign chain ih =>
      rw [statement, updateStatement]
      split <;> rfl
  | choosing chain query ih =>
      rw [chain.selected_of_update (.inr (.inl rfl))] at ih
      rw [statement, declarations_clause]
      exact ih

/-- The output name of a field is the alias that the select list gives to it, or the name of its
property. -/
theorem outputName_eq {s : Stage} (chain : Chain s) (f : Field) :
    chain.statement.outputName f =
      (SelectItem.lastAlias? f chain.selected).getD f.property := by
  rw [Statement.outputName, Statement.columnAliases, chain.columns_declared,
    ← List.filterMap_reverse, SelectItem.lookup_registered, SelectItem.lastAlias?]

end Chain

/-- Outside a count the select list stands behind `SELECT`. -/
theorem Segment.exists_listed {aliases : Aliases} {mode : Mode} (hmode : mode ≠ .count)
    {items : List SelectItem} {rest : List Segment} {sql : String}
    (h : directAll ⟨aliases, mode⟩ (.keyword "SELECT" :: .selection items :: rest) = .ok sql) :
    ∃ listed others, SelectItem.directList aliases items = .ok listed ∧
      sql = joined ["SELECT", listed, others] := by
  obtain ⟨select, tail, hselect, htail, rfl⟩ := directAll_cons_eq_ok h
  obtain ⟨text, others, htext, -, rfl⟩ := directAll_cons_eq_ok htail
  rw [direct_selection hmode] at htext
  obtain ⟨listed, hlisted, htext⟩ := exists_of_bind_eq_ok htext
  cases hselect
  cases htext
  exact ⟨listed, others, hlisted, rfl⟩

/-- The statements of a chain begin with its select list, but for the one that counts the rows: if
they are grouped, it counts those of a statement with the select list. -/
theorem Chain.exists_listed {s : Stage} {chain : Chain s} (hnamed : s.isNamed = true) {form : Form}
    (hmode : chain.statement.modeOf form ≠ .count) {aliases : Aliases} {sql : String}
    (h : chain.statement.directText aliases form = .ok sql) :
    ∃ listed others, SelectItem.directList aliases chain.selected = .ok listed ∧
      sql = (if form = .count then Statement.counted else id)
        (joined ["SELECT", listed, others]) := by
  cases form with
  | rows =>
      rw [Statement.directText, chain.segments_eq hnamed] at h
      exact Segment.exists_listed (by decide) h
  | page size offset =>
      rw [Statement.directText, chain.segments_paged hnamed] at h
      exact Segment.exists_listed (by decide) h
  | count =>
      rw [Statement.modeOf] at hmode
      rw [Statement.directText] at h
      by_cases hgroups : chain.statement.segments.any Segment.isGrouping
      · rw [if_pos hgroups, chain.segments_eq hnamed] at h
        obtain ⟨text, htext, h⟩ := exists_of_bind_eq_ok h
        cases h
        obtain ⟨listed, others, hlisted, rfl⟩ := Segment.exists_listed (by decide) htext
        exact ⟨listed, others, hlisted, rfl⟩
      · exact absurd (if_neg hgroups) hmode

/-! ## Summary -/

/-- Let one of the statements of a selection be built, other than the mere count of its rows.  Its
text consists of the texts of the items behind `SELECT`, with commas between them, and of the rest;
if rows are grouped, the count has this text within it.

The text of an aliased item is the reference to its field, which stands behind the alias of the
field's table if that is declared, followed by `AS` and the quoted alias that the select list gives
to the field last.  So the item is written with an alias of its own exactly when that is quoted like
the last one, and surely when no other alias is given to the same field further to the right. -/
theorem aliased_field_has_the_last_alias {stage : Stage} (fetchable : stage.fetchable = true)
    (chain : Chain stage) (form : Form) {catalog : Catalog} (hcatalog : catalog.Reached)
    (hmode : chain.statement.modeOf form ≠ .count) {bound : BoundStatement}
    (hbuild : outcome (chain.statement.buildAs form catalog) = .ok bound) :
    ∃ (aliases : Aliases) (rows : List (List String)) (others : String),
      chain.statement.directAliases = .ok aliases ∧
      chain.selected.mapM (SelectItem.direct aliases) = .ok rows ∧
      (chain.selected ≠ [] → bound.sql = (if form = .count then Statement.counted else id)
        (joined ["SELECT", ", ".intercalate rows.flatten, others])) ∧
      ∀ (i : Nat) (f : Field) (aliasName : String),
        chain.selected[i]? = some (.aliased f aliasName) →
          ∃ reference last, f.direct aliases = .ok reference ∧ f.Qualified chain.tables aliases ∧
            SelectItem.lastAlias? f chain.selected = some last ∧
            rows[i]? = some [reference ++ " AS " ++ Identifier.quote last] ∧
            (rows[i]? = some [reference ++ " AS " ++ Identifier.quote aliasName] ↔
              Identifier.quote last = Identifier.quote aliasName) ∧
            ((∀ (j : Nat) (g : Field) (other : String), i < j →
              chain.selected[j]? = some (.aliased g other) → g.same f = true →
                other = aliasName) → last = aliasName) := by
  obtain ⟨hdeclared, -⟩ := chain.lists_statement
  have hnamed := Stage.isNamed_of_fetchable fetchable
  obtain ⟨-, aliases, haliases, hsql, -⟩ :=
    Statement.direct_eq_ok (Chain.direct_of_buildAs hcatalog (eq_ok_of_outcome hbuild))
  obtain ⟨listed, others, hlisted, hjoined⟩ := Chain.exists_listed hnamed hmode hsql
  obtain ⟨rows, hrows, htext⟩ : ∃ rows, chain.selected.mapM (SelectItem.direct aliases) = .ok rows ∧
      (chain.selected ≠ [] → listed = ", ".intercalate rows.flatten) := by
    unfold SelectItem.directList at hlisted
    by_cases hnone : chain.selected.isEmpty
    · rw [List.isEmpty_iff.mp hnone]
      exact ⟨[], rfl, fun hsome => absurd rfl hsome⟩
    · rw [if_neg hnone] at hlisted
      obtain ⟨rows, hrows, hlisted⟩ := exists_of_bind_eq_ok hlisted
      cases hlisted
      exact ⟨rows, hrows, fun _ => rfl⟩
  refine ⟨aliases, rows, others, haliases, hrows, fun hsome => htext hsome ▸ hjoined, ?_⟩
  intro i f aliasName hitem
  obtain ⟨texts, hrow, htexts⟩ := getElem?_of_mapM_eq_ok hrows hitem
  obtain ⟨reference, hreference, rfl⟩ := SelectItem.direct_aliased htexts
  obtain ⟨last, hlast⟩ := SelectItem.exists_lastAlias hitem
  have hname : aliases.outputName f = last := by
    rw [Statement.outputName_of_directAliases haliases, chain.outputName_eq, hlast,
      Option.getD_some]
  rw [hname] at hrow
  refine ⟨reference, last, hreference, ?_, hlast, hrow, ?_, fun hlater => ?_⟩
  · rw [← hdeclared]
    exact Statement.qualified_of_directAliases haliases hreference
  · rw [hrow]
    simp [String.append_right_inj]
  · exact Option.some.inj (hlast.symm.trans (SelectItem.lastAlias?_eq hitem hlater))

/-- Users whose identity is selected twice, under two names, with everything else in between. -/
def Chain.renamedUsers : Chain .tabled :=
  .fromTable (.select [.aliased ⟨.user, "id"⟩ "a", .all .user, .aliased ⟨.user, "name"⟩ "n",
    .aliased ⟨.user, "id"⟩ "b"]) ⟨.entity .user, none⟩

/-- The first of the names is lost: the first item is not written with the alias it was given. -/
theorem first_alias_is_lost :
    (outcome (Chain.renamedUsers.statement.buildAs .rows (.empty 0))).map (·.sql) =
      .ok ("SELECT t1.\x60id\x60 AS \x60b\x60, t1.\x60id\x60 AS \x60b\x60, " ++
        "t1.\x60full_name\x60 AS \x60n\x60, t1.\x60full_name\x60 AS \x60n\x60, " ++
        "t1.\x60id\x60 AS \x60b\x60 FROM \x60user\x60 \x60t1\x60") ∧
    ¬∀ (chain : Chain .tabled) (bound : BoundStatement),
      outcome (chain.statement.buildAs .rows (.empty 0)) = .ok bound →
        ∃ aliases rows, chain.statement.directAliases = .ok aliases ∧
          chain.selected.mapM (SelectItem.direct aliases) = .ok rows ∧
          ∀ (i : Nat) (f : Field) (aliasName : String),
            chain.selected[i]? = some (.aliased f aliasName) → ∃ reference,
              f.direct aliases = .ok reference ∧
              rows[i]? = some [reference ++ " AS " ++ Identifier.quote aliasName] := by
  refine ⟨by decide +kernel, fun hall => ?_⟩
  obtain ⟨bound, catalog', hbuild⟩ : ∃ bound catalog',
      Chain.renamedUsers.statement.buildAs .rows (.empty 0) = .ok bound catalog' :=
    Step.exists_of_succeeds (by decide +kernel)
  have hbuilt := outcome_of_eq_ok hbuild
  obtain ⟨aliases, rows, haliases, hrows, hown⟩ := hall Chain.renamedUsers bound hbuilt
  obtain ⟨reference, hreference, hfirst⟩ := hown 0 ⟨.user, "id"⟩ "a" rfl
  have htexts : (do
      let aliases ← Chain.renamedUsers.statement.directAliases
      let rows ← Chain.renamedUsers.selected.mapM (SelectItem.direct aliases)
      let reference ← (Field.mk .user "id").direct aliases
      pure (rows[0]?, reference)) =
        Except.ok (some ["t1.\x60id\x60 AS \x60b\x60"], "t1.\x60id\x60") := by
    decide +kernel
  obtain ⟨_, hsame, htexts⟩ := exists_of_bind_eq_ok htexts
  cases haliases.symm.trans hsame
  obtain ⟨_, hsame, htexts⟩ := exists_of_bind_eq_ok htexts
  cases hrows.symm.trans hsame
  obtain ⟨_, hsame, htexts⟩ := exists_of_bind_eq_ok htexts
  cases hreference.symm.trans hsame
  obtain ⟨htext, rfl⟩ := Prod.mk.inj (Except.ok.inj htexts)
  rw [hfirst] at htext
  exact absurd htext (by decide)

/-- The last of them stands for both, and the name of the user is selected under its own. -/
theorem aliases_of_renamedUsers :
    ∃ (bound : BoundStatement) (rows : List (List String)) (others : String),
    outcome (Chain.renamedUsers.statement.buildAs .rows (.empty 0)) = .ok bound ∧
    bound.sql = joined ["SELECT", ", ".intercalate rows.flatten, others] ∧
    (∃ reference, rows[0]? = some [reference ++ " AS " ++ Identifier.quote "b"]) ∧
    ∃ reference, rows[2]? = some [reference ++ " AS " ++ Identifier.quote "n"] := by
  obtain ⟨bound, catalog', hbuild⟩ : ∃ bound catalog',
      Chain.renamedUsers.statement.buildAs .rows (.empty 0) = .ok bound catalog' :=
    Step.exists_of_succeeds (by decide +kernel)
  have hbuilt := outcome_of_eq_ok hbuild
  obtain ⟨aliases, rows, others, -, -, hsql, hitems⟩ := aliased_field_has_the_last_alias rfl
    Chain.renamedUsers .rows (.empty 0) (by decide) hbuilt
  obtain ⟨first, last, -, -, hlast, hfirst, -⟩ := hitems 0 ⟨.user, "id"⟩ "a" rfl
  obtain ⟨second, own, -, -, -, hsecond, -, hown⟩ := hitems 2 ⟨.user, "name"⟩ "n" rfl
  have hb : SelectItem.lastAlias? ⟨.user, "id"⟩ Chain.renamedUsers.selected = some "b" := by decide
  cases hb.symm.trans hlast
  -- only the identity is given a name further to the right
  have hlater : ∀ (j : Nat) (g : Field) (other : String), 2 < j →
      Chain.renamedUsers.selected[j]? = some (.aliased g other) →
        g.same ⟨.user, "name"⟩ = true → other = "n" := by
    intro j g other hj hitem hsame
    obtain rfl | hbeyond : j = 3 ∨ 4 ≤ j := by omega
    · cases hitem
      exact absurd hsame (by decide)
    · have hnone : Chain.renamedUsers.selected[j]? = none :=
        List.getElem?_eq_none (Nat.le_trans (by decide) hbeyond)
      rw [hnone] at hitem
      cases hitem
  rw [hown hlater] at hsecond
  exact ⟨bound, rows, others, hbuilt, hsql (by decide), ⟨first, hfirst⟩, second, hsecond⟩

end QueryLoom

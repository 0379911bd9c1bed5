import QueryLoom.Fetch
import QueryLoom.Proofs.Told

/-!
# The catalog is transparent

A statement looks names up in the catalog, again and again while it is rendered, and every lookup
may find, add, move or drop entries.  Whatever the catalog keeps, the statement that is built is the
one that is told directly from its entities.

## Main definitions

* `Declares`: a step of declaring tables does to the aliases what is told of it.
* `Statement.directIn`: what is told of a statement in a mode of rendering.
* `Fetch.direct`, `Fetch.directCount`, `Fetch.directPage`: what is told of a fetch.

## Main results

* `Statement.declares_declareTables`: tables are declared as it is told.
* `Statement.tells_buildAs`: statements are built to what is told of them, whichever of the three
  is built.
* `catalog_is_transparent`: the summary.
-/

namespace QueryLoom

open Step Render

variable {known : Entity → Prop}

/-! ## Declaring tables -/

/-- A step of declaring tables does to the aliases what is told of it, or fails as it is told.  It
looks only known entities up, and keeps the mode. -/
def Declares (known : Entity → Prop) {α : Type} (m : Render α)
    (step : Aliases → Except Error Aliases) : Prop :=
  ∀ s : Session, s.catalog.Visited known →
    Matches known ((outcome (m s)).map fun _ => (left (m s)).aliases) (step s.aliases) ∧
      (left (m s)).catalog.Visited known ∧ (left (m s)).mode = s.mode

namespace Declares

variable {α β : Type}

theorem pure (a : α) : Declares known (pure a : Render α) .ok :=
  fun _ hs => ⟨.told _, hs, rfl⟩

/-- A sequence of steps does what its parts do. -/
theorem bind {m : Render α} {f : α → Render β} {step next : Aliases → Except Error Aliases}
    (hm : Declares known m step) (hf : ∀ a, Declares known (f a) next) :
    Declares known (m >>= f) fun aliases => step aliases >>= next := by
  intro s hs
  obtain ⟨hmatches, hvisited, hmode⟩ := hm s hs
  cases hms : m s with
  | ok a t =>
      rw [hms] at hmatches hvisited hmode
      obtain ⟨hrest, hvisited', hmode'⟩ := hf a t hvisited
      have hstep : step s.aliases = .ok t.aliases := hmatches.of_ok
      rw [bind_of_ok hms]
      show Matches known _ (step s.aliases >>= next) ∧ _
      rw [hstep]
      exact ⟨hrest, hvisited', hmode'.trans hmode⟩
  | error e t =>
      rw [hms] at hmatches hvisited hmode
      rw [bind_of_error hms]
      exact ⟨hmatches.of_error next, hvisited, hmode⟩

/-- A list of steps does what its elements do, one after the other. -/
theorem mapM {render : α → Render β} {step : Aliases → α → Except Error Aliases} {as : List α}
    (h : ∀ a ∈ as, Declares known (render a) fun aliases => step aliases a) :
    Declares known (as.mapM render) fun aliases => as.foldlM step aliases := by
  induction as with
  | nil => exact pure []
  | cons a as ih =>
      obtain ⟨hfirst, hrest⟩ := List.forall_mem_cons.mp h
      have hboth := bind hfirst fun b => bind (ih hrest) fun bs => pure (b :: bs)
      have htold : (fun aliases => (a :: as).foldlM step aliases) = fun aliases =>
          step aliases a >>= fun next => as.foldlM step next >>= .ok := by
        funext aliases
        rw [List.foldlM_cons]
        exact congrArg _ (funext fun next => (bind_pure _).symm)
      rw [List.mapM_cons, htold]
      exact hboth

end Declares

/-- A table is registered, unless it is registered already. -/
theorem TableRef.declares {t : TableRef} (h : ∀ e ∈ t.source.entities, known e) :
    Declares known t.declare t.directDeclare := by
  intro s hs
  obtain ⟨hname, hwithin⟩ := @TableSource.tells_name known ⟨s.aliases, s.mode⟩ t.source h s
    ⟨hs, rfl, rfl⟩
  unfold declare
  cases hresult : t.source.name s with
  | error e u =>
      rw [hresult] at hname hwithin
      rw [bind_of_error hresult]
      refine ⟨?_, hwithin.catalog, hwithin.mode⟩
      cases hname with
      | refused hconflict hambiguous => exact .refused hconflict hambiguous _
  | ok name u =>
      rw [hresult] at hname hwithin
      cases hname.of_ok
      rw [bind_of_ok hresult]
      have hlook : (get : Render Session) u = .ok u u := rfl
      have haliases : u.aliases = s.aliases := hwithin.aliases
      rw [bind_of_ok hlook, directDeclare, ← haliases]
      by_cases hhas : u.aliases.has t.key
      · rw [if_pos hhas, if_pos hhas]
        exact ⟨.told _, hwithin.catalog, hwithin.mode⟩
      · rw [if_neg hhas, if_neg hhas]
        obtain ⟨aliasName, v, hadd⟩ : ∃ aliasName v,
            addTable t.key t.source.directName t.aliasName u = .ok aliasName v := ⟨_, _, rfl⟩
        obtain ⟨-, hadded, -, hmode, hcatalog⟩ := onAliases_eq_ok hadd
        have hvisited : v.catalog.Visited known := by
          rcases hcatalog with hsame | hreport
          · rw [hsame]
            exact hwithin.catalog
          · rw [hreport]
            exact .report _ hwithin.catalog
        rw [bind_of_ok hadd, ← hadded]
        exact ⟨.told _, hvisited, hmode.trans hwithin.mode⟩

theorem Declaration.declares_explicit {declaration : Declaration}
    (h : ∀ t, declaration.table? = some t → ∀ e ∈ t.source.entities, known e) :
    Declares known declaration.declareExplicit fun aliases =>
      Declaration.directExplicit aliases declaration := by
  cases declaration with
  | column f aliasName => exact fun _ hs => ⟨.told _, hs, rfl⟩
  | table t =>
      by_cases hgiven : t.explicitAlias?.isSome
      · simp only [declareExplicit, directExplicit, hgiven, ↓reduceIte]
        exact t.declares (h t rfl)
      · simp only [declareExplicit, directExplicit, hgiven]
        exact Declares.pure ()

theorem Declaration.declares_implicit {declaration : Declaration}
    (h : ∀ t, declaration.table? = some t → ∀ e ∈ t.source.entities, known e) :
    Declares known declaration.declareImplicit fun aliases =>
      Declaration.directImplicit aliases declaration := by
  cases declaration with
  | column f aliasName => exact Declares.pure ()
  | table t =>
      by_cases hgiven : t.explicitAlias?.isSome
      · simp only [declareImplicit, directImplicit, hgiven, ↓reduceIte]
        exact Declares.pure ()
      · simp only [declareImplicit, directImplicit, hgiven]
        exact t.declares (h t rfl)

/-! ## Statements -/

namespace Statement

variable {statement : Statement}

/-- Every table that a segment mentions is declared. -/
def Closed (statement : Statement) : Prop :=
  ∀ t, .table t ∈ statement.segments → t ∈ statement.tables

/-- The text of a statement in a mode, or the error that prevents it. -/
def directSql (statement : Statement) (mode : Mode) : Except Error String :=
  match statement.fault with
  | some fault => .error (.validation fault)
  | none => do
    let aliases ← statement.directAliases
    Segment.directAll ⟨aliases, mode⟩ statement.segments

/-- The two passes of declaring tables. -/
def declareTables (statement : Statement) : Render (List Unit) := do
  let _ ← statement.declarations.mapM Declaration.declareExplicit
  statement.declarations.mapM Declaration.declareImplicit

theorem render_of_fault {fault : ValidationFault} (h : statement.fault = some fault) :
    statement.render = throw (.validation fault) := by
  unfold render
  rw [h]

theorem render_of_no_fault (h : statement.fault = none) :
    statement.render = statement.declareTables >>= fun _ =>
      Segment.renderAll "" statement.segments := by
  unfold render declareTables
  rw [h, bind_assoc]

/-- Declaring the tables does to the aliases what is told of it. -/
theorem declares_declareTables (h : ∀ e ∈ statement.entities, known e) :
    Declares known statement.declareTables fun aliases =>
      statement.declarations.foldlM Declaration.directExplicit aliases >>= fun next =>
        statement.declarations.foldlM Declaration.directImplicit next := by
  have hentities : ∀ d ∈ statement.declarations, ∀ t, d.table? = some t →
      ∀ e ∈ t.source.entities, known e := by
    intro d hd t ht e he
    have hmem : t ∈ statement.tables := List.mem_filterMap.mpr ⟨d, hd, ht⟩
    exact h e (List.mem_append_left _ (List.mem_flatMap.mpr ⟨t, hmem, he⟩))
  exact Declares.bind (Declares.mapM fun d hd => d.declares_explicit (hentities d hd)) fun _ =>
    Declares.mapM fun d hd => d.declares_implicit (hentities d hd)

/-- A statement is rendered to the text that is told of it. -/
theorem matches_render (h : ∀ e ∈ statement.entities, known e) (hclosed : statement.Closed)
    (mode : Mode) {catalog : Catalog} (hcatalog : catalog.Visited known) :
    Matches known (outcome (statement.render (Session.start mode catalog)))
        (statement.directSql mode) ∧
      (left (statement.render (Session.start mode catalog))).catalog.Visited known := by
  unfold directSql
  cases hfault : statement.fault with
  | some fault =>
      rw [render_of_fault hfault]
      exact ⟨.told _, hcatalog⟩
  | none =>
      rw [render_of_no_fault hfault]
      obtain ⟨hmatches, hvisited, hmode⟩ :=
        declares_declareTables h (Session.start mode catalog) hcatalog
      cases hdeclare : statement.declareTables (Session.start mode catalog) with
      | error e t =>
          rw [hdeclare] at hmatches hvisited
          rw [bind_of_error hdeclare]
          exact ⟨hmatches.of_error _, hvisited⟩
      | ok us t =>
          rw [hdeclare] at hmatches hvisited hmode
          -- from here on the aliases are settled, and every table that is mentioned has one
          have haliases : statement.directAliases = .ok t.aliases := hmatches.of_ok
          have htables : ∀ table, .table table ∈ statement.segments →
              ∃ aliasName, t.aliases.aliasOf? table.key = some aliasName := fun table htable =>
            exists_aliasOf haliases (hclosed table htable)
          have hsegments : ∀ e ∈ statement.segments.flatMap Segment.entities, known e :=
            fun e he => h e (List.mem_append_right _ he)
          obtain ⟨htext, hwithin⟩ := @Segment.tells_renderAll known ⟨t.aliases, mode⟩
            statement.segments hsegments htables "" t ⟨hvisited, rfl, hmode⟩
          rw [bind_of_ok hdeclare, haliases]
          refine ⟨?_, hwithin.catalog⟩
          rw [Segment.map_joinText_empty] at htext
          exact htext

/-- One of the statements in a mode, or the error that prevents it. -/
def directIn (statement : Statement) (mode : Mode) : Except Error BoundStatement := do
  let sql ← statement.directSql mode
  pure ⟨sql, statement.segments.flatMap Segment.parameters, statement.result⟩

/-- A statement is built to what is told of it. -/
theorem tells_buildIn (h : ∀ e ∈ statement.entities, known e) (hclosed : statement.Closed)
    (mode : Mode) :
    Tells known (Catalog.Visited known) (statement.buildIn mode) (statement.directIn mode) := by
  intro catalog hcatalog
  obtain ⟨hmatches, hvisited⟩ := matches_render h hclosed mode hcatalog
  unfold buildIn directIn
  cases hrender : statement.render (Session.start mode catalog) with
  | error e session =>
      rw [hrender] at hmatches hvisited
      exact ⟨hmatches.of_error _, .report _ hvisited⟩
  | ok sql session =>
      rw [hrender] at hmatches hvisited
      have hparams : session.params = statement.segments.flatMap Segment.parameters :=
        statement.binds_render _ _ _ hrender
      rw [hmatches.of_ok, ← hparams]
      exact ⟨.told _, .report _ hvisited⟩

/-! ## The three statements -/

theorem direct_rows : statement.direct .rows = statement.directIn .full := by
  unfold direct directIn directSql directText
  cases statement.fault with
  | some fault => rfl
  | none =>
      cases statement.directAliases with
      | error e => rfl
      | ok aliases => rfl

theorem direct_count : statement.direct .count =
    if statement.segments.any Segment.isGrouping then do
      let body ← statement.directIn .unpaged
      pure { body with sql := counted body.sql }
    else statement.directIn .count := by
  unfold direct directIn directSql directText
  by_cases hgroups : statement.segments.any Segment.isGrouping
  · simp only [hgroups, ↓reduceIte]
    cases statement.fault with
    | some fault => rfl
    | none =>
        cases statement.directAliases with
        | error e => rfl
        | ok aliases =>
            simp only [bind_assoc, pure_bind]
  · simp only [hgroups]
    cases statement.fault with
    | some fault => rfl
    | none =>
        cases statement.directAliases with
        | error e => rfl
        | ok aliases => rfl

theorem direct_page (size offset : Nat) :
    statement.direct (.page size offset) = (statement.paged size offset).directIn .full := by
  have hfault : (statement.paged size offset).fault = statement.fault := rfl
  have haliases : (statement.paged size offset).directAliases = statement.directAliases := rfl
  unfold direct directIn directSql directText
  rw [statement.parameters_of_paged, hfault, haliases]
  cases statement.fault with
  | some fault => rfl
  | none =>
      cases statement.directAliases with
      | error e => rfl
      | ok aliases => rfl

/-- Paging looks no names up. -/
theorem entities_paged (size offset : Nat) :
    (statement.paged size offset).entities = statement.entities := by
  have hpaging : ∀ segment : Segment, segment.isPaging = true → segment.entities = [] := by
    intro segment h
    cases segment <;> first | rfl | cases h
  exact congrArg (statement.tables.flatMap (·.source.entities) ++ ·)
    (statement.flatMap_paged size offset hpaging)

/-- Paging mentions no tables. -/
theorem tables_paged (size offset : Nat) :
    (statement.paged size offset).segments.filterMap Segment.table? =
      statement.segments.filterMap Segment.table? := by
  have hpaging : ∀ segment : Segment, segment.isPaging = true → segment.table?.toList = [] := by
    intro segment h
    cases segment <;> first | rfl | cases h
  rw [List.filterMap_eq_flatMap_toList, List.filterMap_eq_flatMap_toList,
    statement.flatMap_paged size offset hpaging]

theorem Closed.paged (h : statement.Closed) (size offset : Nat) :
    (statement.paged size offset).Closed := by
  intro t ht
  have hmentioned : t ∈ statement.segments.filterMap Segment.table? := by
    rw [← tables_paged size offset]
    exact List.mem_filterMap.mpr ⟨_, ht, rfl⟩
  obtain ⟨segment, hmem, htable⟩ := List.mem_filterMap.mp hmentioned
  cases segment with
  | table u =>
      cases htable
      exact h t hmem
  | _ => cases htable

/-- Each of the statements is built to what is told of it. -/
theorem tells_buildAs (h : ∀ e ∈ statement.entities, known e) (hclosed : statement.Closed)
    (form : Form) :
    Tells known (Catalog.Visited known) (statement.buildAs form) (statement.direct form) := by
  cases form with
  | rows =>
      rw [direct_rows]
      exact tells_buildIn h hclosed .full
  | count =>
      rw [direct_count]
      exact Tells.ite (Tells.bind (tells_buildIn h hclosed .unpaged) fun _ => Tells.pure _)
        (tells_buildIn h hclosed .count)
  | page size offset =>
      rw [direct_page]
      rw [← entities_paged size offset] at h
      exact tells_buildIn h (hclosed.paged size offset) .full

end Statement

/-- The tables that a chain mentions are declared. -/
theorem Chain.closed_statement {s : Stage} (chain : Chain s) : chain.statement.Closed := by
  intro t ht
  obtain ⟨hdeclared, hmentioned⟩ := chain.lists_statement
  rw [hdeclared, ← hmentioned]
  exact List.mem_filterMap.mpr ⟨_, ht, rfl⟩

/-- What is built from a catalog in use is what is told, even among ambiguous entities. -/
theorem Chain.direct_of_buildAs {s : Stage} {chain : Chain s} {form : Form}
    {catalog catalog' : Catalog} {bound : BoundStatement} (hcatalog : catalog.Reached)
    (h : chain.statement.buildAs form catalog = .ok bound catalog') :
    chain.statement.direct form = .ok bound := by
  have hany : ∀ e ∈ chain.statement.entities, (fun _ : Entity => True) e := fun _ _ => trivial
  have htells :=
    (Statement.tells_buildAs hany chain.closed_statement form catalog hcatalog.visited).1
  rw [h] at htells
  exact htells.of_ok

/-! ## Summary -/

namespace Fetch

variable {α : Type}

/-- The statement for all rows, or the error that prevents it. -/
def direct (fetch : Fetch α) : Except Error BoundStatement := do
  let bound ← fetch.statement.direct .rows
  pure { bound with result := .type fetch.decoder.name }

/-- The statement that counts the rows, or the error that prevents it. -/
def directCount (fetch : Fetch α) : Except Error BoundStatement := do
  let bound ← fetch.statement.direct .count
  pure { bound with result := countType }

/-- The statement for one page of the rows, or the error that prevents it. -/
def directPage (fetch : Fetch α) (page : Page α) : Except Error BoundStatement := do
  page.validate
  let bound ← fetch.statement.direct (.page page.size.toNat page.offset.toNat)
  pure { bound with result := .type fetch.decoder.name }

theorem directCount_of_direct {fetch : Fetch α} {bound : BoundStatement}
    (h : fetch.statement.direct .count = .ok bound) :
    fetch.directCount = .ok { bound with result := countType } := by
  unfold directCount
  rw [h]
  rfl

theorem directPage_of_direct {fetch : Fetch α} {page : Page α} (hpage : page.validate = .ok ())
    {bound : BoundStatement}
    (h : fetch.statement.direct (.page page.size.toNat page.offset.toNat) = .ok bound) :
    fetch.directPage page = .ok { bound with result := .type fetch.decoder.name } := by
  unfold directPage
  rw [hpage, h]
  rfl

theorem tells_build {fetch : Fetch α} (h : ∀ e ∈ fetch.statement.entities, known e)
    (hclosed : fetch.statement.Closed) :
    Tells known (Catalog.Visited known) fetch.build fetch.direct :=
  Tells.bind (Statement.tells_buildAs h hclosed .rows) fun _ => Tells.pure _

theorem tells_buildCount {fetch : Fetch α} (h : ∀ e ∈ fetch.statement.entities, known e)
    (hclosed : fetch.statement.Closed) :
    Tells known (Catalog.Visited known) fetch.buildCount fetch.directCount :=
  Tells.bind (Statement.tells_buildAs h hclosed .count) fun _ => Tells.pure _

theorem tells_buildPage {fetch : Fetch α} (h : ∀ e ∈ fetch.statement.entities, known e)
    (hclosed : fetch.statement.Closed) (page : Page α) :
    Tells known (Catalog.Visited known) (fetch.buildPage page) (fetch.directPage page) := by
  unfold buildPage directPage
  cases page.validate with
  | error e => exact Tells.throw e
  | ok _ => exact Tells.bind (Statement.tells_buildAs h hclosed (.page _ _)) fun _ => Tells.pure _

end Fetch

/-- Let no two known entities share a type path.  A chain over known entities is built to the same
statement, or fails with the same error, from every catalog that comes about by looking known
entities up and by changing the capacity, namely to the one that is told from the entities without
any catalog; and so is what is fetched by the chain, with its result types.  What is left is a
catalog of that kind again. -/
theorem catalog_is_transparent (hunambiguous : Unambiguous known) {stage : Stage}
    (chain : Chain stage) (hknown : ∀ e ∈ chain.statement.entities, known e) {catalog : Catalog}
    (hcatalog : catalog.Visited known) :
    (∀ form : Form,
      outcome (chain.statement.buildAs form catalog) = chain.statement.direct form ∧
        (left (chain.statement.buildAs form catalog)).Visited known) ∧
    ∀ (α : Type) (fetchable : stage.fetchable = true) (decoder : RowDecoder α) (page : Page α),
      let fetch := chain.fetch fetchable decoder
      (outcome (fetch.build catalog) = fetch.direct ∧ (left (fetch.build catalog)).Visited known) ∧
      (outcome (fetch.buildCount catalog) = fetch.directCount ∧
        (left (fetch.buildCount catalog)).Visited known) ∧
      (outcome (fetch.buildPage page catalog) = fetch.directPage page ∧
        (left (fetch.buildPage page catalog)).Visited known) := by
  have hclosed := chain.closed_statement
  have hsettle : ∀ {β : Type} {m : Catalog.Action β} {told : Except Error β},
      Tells known (Catalog.Visited known) m told →
        outcome (m catalog) = told ∧ (left (m catalog)).Visited known := by
    intro β m told h
    obtain ⟨hmatches, hvisited⟩ := h catalog hcatalog
    exact ⟨hmatches.eq hunambiguous, hvisited⟩
  refine ⟨fun form => hsettle (Statement.tells_buildAs hknown hclosed form), ?_⟩
  intro α fetchable decoder page
  exact ⟨hsettle (Fetch.tells_build hknown hclosed),
    hsettle (Fetch.tells_buildCount hknown hclosed),
    hsettle (Fetch.tells_buildPage hknown hclosed page)⟩

/-- Users, with a column that is given. -/
def Entity.user : Entity :=
  ⟨"app::User", "User", none, [⟨"id", none⟩, ⟨"name", some "full_name"⟩]⟩

/-- Orders, with a table that is given. -/
def Entity.order : Entity := ⟨"app::Order", "Order", some "orders", [⟨"userId", none⟩]⟩

theorem unambiguous_user_order : Unambiguous (· ∈ [Entity.user, Entity.order]) := by
  have hsame : ∀ a ∈ [Entity.user, Entity.order], ∀ b ∈ [Entity.user, Entity.order],
      a.typePath = b.typePath → a = b := by decide
  exact fun a b ha hb => hsame a ha b hb

/-- The names of users beside their orders. -/
def Chain.usersWithOrders : Chain .tabled :=
  .on (.join (.fromTable (.select [.field ⟨.user, "name"⟩]) ⟨.entity .user, none⟩) .left
      ⟨.entity .order, some "o"⟩)
    (Query.empty.addCondition .and
      ⟨.field ⟨.order, "userId"⟩, .eq, .column (.field ⟨.user, "id"⟩)⟩)

/-- A cache that keeps nothing and one that was cut down to a single entry lead to the same
statement. -/
theorem usersWithOrders_after_eviction :
    ∃ bound, outcome (Chain.usersWithOrders.statement.build (.empty 0)) = .ok bound ∧
      outcome (Chain.usersWithOrders.statement.build
        { (((Catalog.empty 2).fetch .user).2.fetch .order).2 with
          cache := (((Catalog.empty 2).fetch .user).2.fetch .order).2.cache.setCapacity 1 }) =
        .ok bound := by
  have hknown : ∀ e ∈ Chain.usersWithOrders.statement.entities,
      e ∈ [Entity.user, Entity.order] := by decide
  have hcut : Catalog.Visited (· ∈ [Entity.user, Entity.order])
      { (((Catalog.empty 2).fetch .user).2.fetch .order).2 with
        cache := (((Catalog.empty 2).fetch .user).2.fetch .order).2.cache.setCapacity 1 } :=
    .resize 1 (.fetch (by decide) (.fetch (by decide) (.empty 2)))
  obtain ⟨bound, catalog', hbuild⟩ : ∃ bound catalog',
      Chain.usersWithOrders.statement.build (.empty 0) = .ok bound catalog' :=
    Step.exists_of_succeeds (by decide +kernel)
  have hempty :=
    (catalog_is_transparent unambiguous_user_order Chain.usersWithOrders hknown (.empty 0)).1 .rows
  have hsame :=
    (catalog_is_transparent unambiguous_user_order Chain.usersWithOrders hknown hcut).1 .rows
  have hfirst := outcome_of_eq_ok hbuild
  exact ⟨bound, hfirst, hsame.1.trans (hempty.1.symm.trans hfirst)⟩

end QueryLoom

import QueryLoom.Proofs.Failure
import QueryLoom.Proofs.Qualification
import QueryLoom.Proofs.Registration

/-!
# Aliases are flushed once

Building a statement reports what it does.  Names may be computed on the way, and an alias is
reported for each table that gets a generated one; the last thing that is reported is that the
aliases were dropped, with the number of tables that were registered by then.  It is reported once,
whichever of the statements of a chain is built, from every state of the catalog, and whether or not
it is built.

## Main definitions

* `Event.generated?`: the table and the alias that an event reports.
* `Statement.session`: the session of one of the statements of a chain, as rendering leaves it.

## Main results

* `Session.Renders.exists_events`: what was reported before the aliases are dropped.
* `aliases_are_flushed_once`: the summary.
-/

namespace QueryLoom

open Step

/-! ## Events -/

/-- The table that got an alias, and the alias. -/
def Event.generated? : Event → Option (TableKey × String)
  | .aliasGenerated key aliasName => some (key, aliasName)
  | _ => none

/-- Fetching reports at most that names were computed. -/
theorem Catalog.trace_fetch (catalog : Catalog) (entity : Entity) :
    (catalog.fetch entity).2.trace = catalog.trace ∨
      ∃ table, (catalog.fetch entity).2.trace =
        catalog.trace ++ [.namesComputed entity.typePath table] := by
  unfold fetch
  split
  · exact .inl rfl
  · exact .inr ⟨_, rfl⟩

/-- Further tables do not change the alias of a registered one. -/
theorem Aliases.aliasOf_of_entries {aliases later : Aliases} {e : AliasEntry}
    (hentries : later.entries = aliases.entries ++ [e]) {key : TableKey} {aliasName : String}
    (h : aliases.aliasOf? key = some aliasName) : later.aliasOf? key = some aliasName := by
  obtain ⟨d, hd, rfl⟩ := Option.map_eq_some_iff.mp h
  have hlater : later.entry? key = some d := by
    unfold entry? at hd ⊢
    rw [hentries, List.find?_append, hd]
    rfl
  rw [aliasOf?, hlater, Option.map_some]

/-- The events report aliases of the tables in order, of each table the one that it has. -/
def Event.Report (aliases : Aliases) (tables : List TableRef) (events : List Event) : Prop :=
  List.Forall₂ (fun t reported => reported.1 = t.key ∧ aliases.aliasOf? t.key = some reported.2)
    tables (events.filterMap generated?)

namespace Session.Renders

variable {mode : Mode} {catalog : Catalog} {tables : List TableRef} {s : Session}

/-- Until the aliases are dropped, it is not reported that they are, and the tables without an
explicit alias are reported in order, each with its alias. -/
theorem exists_events (h : Renders mode catalog tables s) :
    ∃ events, s.catalog.trace = catalog.trace ++ events ∧
      (∀ event ∈ events, ∀ n, event ≠ .aliasesFlushed n) ∧
      Event.Report s.aliases (tables.filter (·.explicitAlias?.isNone)) events := by
  induction h with
  | start => exact ⟨[], (List.append_nil _).symm, nofun, .nil⟩
  | bind values _ ih => exact ih
  | column field aliasName _ ih => exact ih
  | @fetch tables s entity _ ih =>
      obtain ⟨events, htrace, hquiet, hreport⟩ := ih
      rcases s.catalog.trace_fetch entity with hsame | ⟨table, hcomputed⟩
      · exact ⟨events, hsame.trans htrace, hquiet, hreport⟩
      · refine ⟨events ++ [.namesComputed entity.typePath table], ?_, ?_, ?_⟩
        · rw [hcomputed, htrace, List.append_assoc]
        · exact List.forall_mem_append.mpr ⟨hquiet, List.forall_mem_singleton.mpr nofun⟩
        · have hnone :
              [Event.namesComputed entity.typePath table].filterMap Event.generated? = [] :=
            rfl
          rw [Event.Report, List.filterMap_append, hnone, List.append_nil]
          exact hreport
  | @named tables s t name aliasName h hnew hgiven ih =>
      obtain ⟨events, htrace, hquiet, hreport⟩ := ih
      refine ⟨events, htrace, hquiet, ?_⟩
      rw [List.filter_append, List.filter_cons_of_neg (by simp [hgiven]), List.filter_nil,
        List.append_nil]
      exact hreport.imp fun u reported hu => ⟨hu.1, Aliases.aliasOf_of_entries rfl hu.2⟩
  | @unnamed tables s t name h hnew hnone ih =>
      obtain ⟨events, htrace, hquiet, hreport⟩ := ih
      refine ⟨events ++ [.aliasGenerated t.key (Aliases.generated s.aliases.nextNumber)],
        ?_, ?_, ?_⟩
      · rw [← List.append_assoc, ← htrace]
        rfl
      · exact List.forall_mem_append.mpr ⟨hquiet, List.forall_mem_singleton.mpr nofun⟩
      · rw [List.filter_append, List.filter_cons_of_pos (by simp [hnone]), Event.Report,
          List.filterMap_append]
        have hkeys := (unnamed t name h hnew hnone).nodup
        rw [← (unnamed t name h hnew hnone).keys] at hkeys
        refine List.rel_append
          (hreport.imp fun u reported hu => ⟨hu.1, Aliases.aliasOf_of_entries rfl hu.2⟩)
          (.cons ⟨rfl, ?_⟩ .nil)
        exact Aliases.aliasOf_of_mem hkeys (List.mem_append_right _ List.mem_cons_self)

end Session.Renders

/-! ## Statements -/

/-- A result that leaves the same state as another one, and succeeds or fails with it. -/
def Step.EndsAs {σ α β : Type} (r : EStateM.Result Error σ α) (other : EStateM.Result Error σ β) :
    Prop :=
  left r = left other ∧ ∃ f, outcome r = (outcome other).map f

namespace Statement

/-- What comes of rendering one of the statements of a chain. -/
def rendered (statement : Statement) (form : Form) (catalog : Catalog) :
    EStateM.Result Error Session String :=
  match form with
  | .rows | .count => statement.render (.start (statement.modeOf form) catalog)
  | .page size offset => (statement.paged size offset).render (.start .full catalog)

/-- What comes of building a statement, when its session is closed. -/
theorem buildIn_ends (statement : Statement) (mode : Mode) (catalog : Catalog) :
    left (statement.buildIn mode catalog) =
        (left (statement.render (.start mode catalog))).close ∧
      ∃ f, outcome (statement.buildIn mode catalog) =
        (outcome (statement.render (.start mode catalog))).map f := by
  unfold buildIn
  cases statement.render (.start mode catalog) with
  | ok sql session => exact ⟨rfl, fun sql => ⟨sql, session.params, statement.result⟩, rfl⟩
  | error e session => exact ⟨rfl, fun sql => ⟨sql, session.params, statement.result⟩, rfl⟩

/-- Whichever statement is built, its session is closed. -/
theorem buildAs_ends (statement : Statement) (form : Form) (catalog : Catalog) :
    left (statement.buildAs form catalog) = (left (statement.rendered form catalog)).close ∧
      ∃ f, outcome (statement.buildAs form catalog) =
        (outcome (statement.rendered form catalog)).map f := by
  cases form with
  | rows => exact statement.buildIn_ends .full catalog
  | page size offset => exact (statement.paged size offset).buildIn_ends .full catalog
  | count =>
      show left (statement.buildCount catalog) =
          (left (statement.render (.start (statement.modeOf .count) catalog))).close ∧ ∃ f,
        outcome (statement.buildCount catalog) =
          (outcome (statement.render (.start (statement.modeOf .count) catalog))).map f
      unfold buildCount modeOf
      by_cases hgroups : statement.segments.any Segment.isGrouping
      · obtain ⟨hleft, f, houtcome⟩ := statement.buildIn_ends .unpaged catalog
        rw [if_pos hgroups, if_pos hgroups, left_map, outcome_map, houtcome]
        refine ⟨hleft, (fun body => { body with sql := counted body.sql }) ∘ f, ?_⟩
        cases outcome (statement.render (.start .unpaged catalog)) with
        | ok sql => rfl
        | error e => rfl
      · rw [if_neg hgroups, if_neg hgroups]
        exact statement.buildIn_ends .count catalog

/-- It leads to a session in which the tables of the statement are registered, all of them unless
there is an error. -/
theorem registered_rendered {statement : Statement} (hclosed : statement.Closed) (form : Form)
    (catalog : Catalog) :
    ∃ mode registered, (left (statement.rendered form catalog)).Renders mode catalog registered ∧
      TableRef.Registered statement.fault statement.tables registered
        (outcome (statement.rendered form catalog)) := by
  cases form with
  | rows | count =>
      obtain ⟨registered, hsession, hregistered⟩ :=
        registered_render hclosed (statement.modeOf _) catalog
      exact ⟨_, registered, hsession, hregistered⟩
  | page size offset =>
      obtain ⟨registered, hsession, hregistered⟩ :=
        registered_render (hclosed.paged size offset) .full catalog
      exact ⟨_, registered, hsession, hregistered⟩

end Statement

/-- A chain that is built, too, has registered its tables, all of them unless there is an error. -/
theorem Chain.registered_buildAs {s : Stage} (chain : Chain s) (form : Form) (catalog : Catalog) :
    ∃ mode registered,
      (left (chain.statement.rendered form catalog)).Renders mode catalog registered ∧
      TableRef.Registered chain.faults.head? chain.tables registered
        (outcome (chain.statement.buildAs form catalog)) := by
  obtain ⟨-, f, houtcome⟩ := chain.statement.buildAs_ends form catalog
  obtain ⟨mode, registered, hsession, hregistered⟩ :=
    Statement.registered_rendered chain.closed_statement form catalog
  rw [chain.fault_statement, chain.lists_statement.declared] at hregistered
  rw [houtcome]
  exact ⟨mode, registered, hsession, hregistered.map f⟩

namespace Fetch

variable {α : Type} {fetch : Fetch α}

theorem build_ends (fetch : Fetch α) (catalog : Catalog) :
    EndsAs (fetch.build catalog) (fetch.statement.buildAs .rows catalog) :=
  ⟨left_map _ _ _, _, outcome_map _ _ _⟩

theorem buildCount_ends (fetch : Fetch α) (catalog : Catalog) :
    EndsAs (fetch.buildCount catalog) (fetch.statement.buildAs .count catalog) :=
  ⟨left_map _ _ _, _, outcome_map _ _ _⟩

theorem buildPage_ends (fetch : Fetch α) {request : Page α} (hvalid : request.validate = .ok ())
    (catalog : Catalog) :
    EndsAs (fetch.buildPage request catalog)
      (fetch.statement.buildAs (.page request.size.toNat request.offset.toNat) catalog) := by
  unfold buildPage
  rw [hvalid]
  exact ⟨left_map _ _ _, _, outcome_map _ _ _⟩

end Fetch

/-! ## Summary -/

/-- Let one of the statements of a chain be built, from any state of the catalog.  What this reports
ends with the report that the aliases were dropped, and contains it nowhere else.  Its number is
that of the tables that were registered by then, under distinct keys: none if a call is at fault,
and otherwise the tables of the chain, those with an explicit alias first, up to one that is refused
if there is one, which is the error.  Before that the tables without an explicit alias are reported
in the order of the calls, each with the alias that it has in the session; if the statement is
built, these are all of them.

A fetch of the chain reports the same when its statement, the statement that counts the rows, or
that of a valid request for a page is built. -/
theorem aliases_are_flushed_once {stage : Stage} (chain : Chain stage) (form : Form)
    (catalog : Catalog) :
    let built := chain.statement.buildAs form catalog
    let aliases := (left (chain.statement.rendered form catalog)).aliases
    (∃ registered events, aliases.keys = registered.map TableRef.key ∧
      (registered.map TableRef.key).Nodup ∧
      TableRef.Registered chain.faults.head? chain.tables registered (outcome built) ∧
      (left built).trace = catalog.trace ++ events ++ [.aliasesFlushed registered.length] ∧
      (∀ event ∈ events, ∀ n, event ≠ .aliasesFlushed n) ∧
      Event.Report aliases (registered.filter (·.explicitAlias?.isNone)) events ∧
      ∀ bound, outcome built = .ok bound → registered.length = chain.tables.length ∧
        Event.Report aliases (chain.tables.filter (·.explicitAlias?.isNone)) events) ∧
    ∀ (α : Type) (fetchable : stage.fetchable = true) (decoder : RowDecoder α),
      let fetch := chain.fetch fetchable decoder
      EndsAs (fetch.build catalog) (chain.statement.buildAs .rows catalog) ∧
      EndsAs (fetch.buildCount catalog) (chain.statement.buildAs .count catalog) ∧
      ∀ request : Page α, request.validate = .ok () →
        EndsAs (fetch.buildPage request catalog)
          (chain.statement.buildAs (.page request.size.toNat request.offset.toNat) catalog) := by
  intro built aliases
  refine ⟨?_, fun α fetchable decoder => ?_⟩
  · obtain ⟨hleft, -⟩ := chain.statement.buildAs_ends form catalog
    obtain ⟨mode, registered, hsession, hbuilt⟩ := chain.registered_buildAs form catalog
    obtain ⟨events, htrace, hquiet, hreport⟩ := hsession.exists_events
    refine ⟨registered, events, hsession.keys, hsession.nodup, hbuilt, ?_, hquiet, hreport,
      fun bound hbound => ?_⟩
    · rw [hleft, ← hsession.tableCount, ← htrace]
      rfl
    · rw [show outcome built = .ok bound from hbound] at hbuilt
      have hall : registered = TableRef.registration chain.tables := hbuilt.of_ok
      rw [hall, TableRef.unnamed_registration] at hreport
      exact ⟨hall ▸ (TableRef.registration_perm chain.tables).length_eq, hreport⟩
  · exact ⟨Fetch.build_ends _ catalog, Fetch.buildCount_ends _ catalog,
      fun request hvalid => Fetch.buildPage_ends _ hvalid catalog⟩

/-- For a page of what users visited and ordered, two aliases are generated, and three
are dropped. -/
theorem flush_of_ahead :
    let fetch := Chain.ahead.fetch rfl Fetch.countDecoder
    ∃ aliases events,
      (left (fetch.buildPage {} (.empty 0))).trace = events ++ [.aliasesFlushed 3] ∧
      (∀ event ∈ events, ∀ n, event ≠ .aliasesFlushed n) ∧
      Event.Report aliases [⟨.entity .user, none⟩, ⟨.named "visits", none⟩] events := by
  intro fetch
  obtain ⟨⟨registered, events, -, -, -, htrace, hquiet, -, hall⟩, hfetch⟩ :=
    aliases_are_flushed_once Chain.ahead (.page 10 0) (.empty 0)
  obtain ⟨bound, catalog', hbuild⟩ : ∃ bound catalog',
      Chain.ahead.statement.buildAs (.page 10 0) (.empty 0) = .ok bound catalog' :=
    Step.exists_of_succeeds (by decide +kernel)
  obtain ⟨hlength, hreport⟩ := hall bound (by rw [hbuild]; rfl)
  obtain ⟨-, -, hpage⟩ := hfetch Int64 rfl Fetch.countDecoder
  obtain ⟨hleft, -⟩ := hpage {} rfl
  refine ⟨_, events, ?_, hquiet, hreport⟩
  rw [hleft, ← show registered.length = 3 from hlength]
  exact htrace

end QueryLoom

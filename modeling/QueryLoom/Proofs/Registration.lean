import QueryLoom.Proofs.Recency
import QueryLoom.Proofs.Transparency

/-!
# What rendering does to its session

A rendering step does few things to its session.  It looks names up, binds values, notes the alias
of a column, or registers a table whose key is new.  Tables are registered only while a statement
declares them; its segments are rendered without another one.  All of this holds from every state of
the catalog, and whether or not the steps succeed.

## Main definitions

* `Session.Renders`: the sessions that rendering leads to, with the tables registered on the way.
* `Render.Reads`: a step that registers no table.
* `Registering`: what comes of registering tables one after the other.

## Main results

* `Session.Renders.keys`: the registered tables are those of the aliases, in order.
* `Segment.reads_renderAll`: segments register no table that is not registered.
* `Statement.registering_render`: which tables a statement registers, and what stops it.
-/

namespace QueryLoom

open Step

/-! ## Sessions -/

/-- The sessions that rendering leads to from a new one, with the tables that it registered on the
way, in order. -/
inductive Session.Renders (mode : Mode) (catalog : Catalog) : List TableRef → Session → Prop where
  | start : Renders mode catalog [] (.start mode catalog)
  | fetch {tables : List TableRef} {s : Session} (entity : Entity)
      (h : Renders mode catalog tables s) :
      Renders mode catalog tables { s with catalog := (s.catalog.fetch entity).2 }
  | bind {tables : List TableRef} {s : Session} (values : List Value)
      (h : Renders mode catalog tables s) :
      Renders mode catalog tables { s with params := s.params ++ values }
  | column {tables : List TableRef} {s : Session} (field : Field) (aliasName : String)
      (h : Renders mode catalog tables s) :
      Renders mode catalog tables { s with aliases := s.aliases.addColumn field aliasName }
  /-- A table with an explicit alias. -/
  | named {tables : List TableRef} {s : Session} (t : TableRef) (name aliasName : String)
      (h : Renders mode catalog tables s) (hnew : t.key ∉ s.aliases.keys)
      (hgiven : t.explicitAlias? = some aliasName) :
      Renders mode catalog (tables ++ [t])
        { s with aliases := { s.aliases with
            entries := s.aliases.entries ++ [⟨t.key, some name, aliasName⟩] } }
  /-- A table without one, for which an alias is generated; this is reported. -/
  | unnamed {tables : List TableRef} {s : Session} (t : TableRef) (name : String)
      (h : Renders mode catalog tables s) (hnew : t.key ∉ s.aliases.keys)
      (hnone : t.explicitAlias? = none) :
      Renders mode catalog (tables ++ [t])
        { s with
          aliases := { s.aliases with
            entries := s.aliases.entries ++
              [⟨t.key, some name, Aliases.generated s.aliases.nextNumber⟩]
            sequence := s.aliases.nextNumber }
          catalog := s.catalog.report
            (.aliasGenerated t.key (Aliases.generated s.aliases.nextNumber)) }

namespace Session.Renders

variable {mode : Mode} {catalog : Catalog} {tables : List TableRef} {s : Session}

/-- The registered tables are those of the aliases. -/
theorem keys (h : Renders mode catalog tables s) : s.aliases.keys = tables.map TableRef.key := by
  induction h with
  | start => rfl
  | fetch entity _ ih => exact ih
  | bind values _ ih => exact ih
  | column field aliasName _ ih => exact ih
  | named t name aliasName _ _ _ ih =>
      rw [List.map_append, ← ih]
      exact List.map_append
  | unnamed t name _ _ _ ih =>
      rw [List.map_append, ← ih]
      exact List.map_append

theorem mem_keys (h : Renders mode catalog tables s) {t : TableRef} (ht : t ∈ tables) :
    t.key ∈ s.aliases.keys := by
  rw [h.keys]
  exact List.mem_map_of_mem ht

/-- No two of them have the same key. -/
theorem nodup (h : Renders mode catalog tables s) : (tables.map TableRef.key).Nodup := by
  induction h with
  | start => exact List.nodup_nil
  | fetch entity _ ih => exact ih
  | bind values _ ih => exact ih
  | column field aliasName _ ih => exact ih
  | named t name aliasName h hnew _ ih | unnamed t name h hnew _ ih =>
      rw [h.keys] at hnew
      rw [List.map_append, List.map_singleton, ← List.concat_eq_append]
      exact ih.concat hnew

theorem tableCount (h : Renders mode catalog tables s) :
    s.aliases.tableCount = tables.length := by
  rw [← List.length_map TableRef.key, ← h.keys, Aliases.keys, List.length_map]
  rfl

end Session.Renders

/-! ## Steps that register nothing -/

/-- From every session in which the given tables are registered, the step leads to one in which they
are, and no others, whether or not it succeeds. -/
def Render.Reads (tables : List TableRef) {α : Type} (m : Render α) : Prop :=
  ∀ (mode : Mode) (catalog : Catalog) (s : Session), s.Renders mode catalog tables →
    (left (m s)).Renders mode catalog tables

variable {tables : List TableRef} {α β : Type}

namespace Render.Reads

theorem pure (a : α) : Reads tables (pure a : Render α) := fun _ _ _ h => h

theorem throw (e : Error) : Reads tables (throw e : Render α) := fun _ _ _ h => h

/-- A sequence registers nothing if its parts do not. -/
theorem bind {m : Render α} {f : α → Render β} (hm : Reads tables m)
    (hf : ∀ a, Reads tables (f a)) : Reads tables (m >>= f) := by
  intro mode catalog s h
  have hfirst := hm mode catalog s h
  cases hms : m s with
  | ok a t =>
      rw [hms] at hfirst
      rw [bind_of_ok hms]
      exact hf a mode catalog t hfirst
  | error e t =>
      rw [hms] at hfirst
      rwa [bind_of_error hms]

theorem look {f : Session → Render β} (hf : ∀ s, Reads tables (f s)) : Reads tables (get >>= f) :=
  fun mode catalog s h => hf s mode catalog s h

theorem ite {c : Prop} [Decidable c] {m n : Render α} (hm : Reads tables m)
    (hn : Reads tables n) : Reads tables (if c then m else n) := by
  by_cases hc : c
  · rwa [if_pos hc]
  · rwa [if_neg hc]

theorem mapM {render : α → Render β} {as : List α} (h : ∀ a ∈ as, Reads tables (render a)) :
    Reads tables (as.mapM render) := by
  induction as with
  | nil => exact pure []
  | cons a as ih =>
      obtain ⟨hfirst, hrest⟩ := List.forall_mem_cons.mp h
      rw [List.mapM_cons]
      exact bind hfirst fun b => bind (ih hrest) fun bs => pure (b :: bs)

/-- Whatever comes of a lookup, the catalog has only fetched the entity. -/
theorem onCatalog {action : Catalog.Action α} (entity : Entity)
    (h : ∀ catalog, left (action catalog) = (catalog.fetch entity).2) :
    Reads tables (Render.onCatalog action) := by
  intro mode catalog s hs
  have hleft : left (Render.onCatalog action s) =
      { s with catalog := (s.catalog.fetch entity).2 } := by
    rw [← h s.catalog]
    unfold Render.onCatalog
    cases action s.catalog with
    | ok a catalog => rfl
    | error e catalog => rfl
  rw [hleft]
  exact .fetch entity hs

theorem values (vs : List Value) : Reads tables (Render.bind vs) := fun _ _ _ h => .bind vs h

end Render.Reads

theorem Catalog.left_tableName (catalog : Catalog) (entity : Entity) :
    left (tableName entity catalog) = (catalog.fetch entity).2 := by
  rw [← left_lookup]
  unfold tableName
  cases hlookup : lookup entity catalog with
  | ok names catalog' =>
      rw [bind_of_ok hlookup]
      rfl
  | error e catalog' =>
      rw [bind_of_error hlookup]
      rfl

theorem Catalog.left_columnName (catalog : Catalog) (field : Field) :
    left (columnName field catalog) = (catalog.fetch field.entity).2 := by
  rw [← left_lookup]
  unfold columnName
  cases hlookup : lookup field.entity catalog with
  | ok names catalog' =>
      rw [bind_of_ok hlookup]
      cases names.column field.property with
      | ok column => rfl
      | error e => rfl
  | error e catalog' =>
      rw [bind_of_error hlookup]
      rfl

open Render

/-! ## The parts of a statement -/

theorem Render.reads_fieldName (f : Field) : Reads tables (fieldName f) := by
  refine Reads.bind (.onCatalog f.entity (Catalog.left_columnName · f)) fun column => ?_
  refine Reads.look fun s => ?_
  cases s.aliases.aliasOf? (.ofEntity f.entity) with
  | some aliasName => exact .pure _
  | none => exact .pure _

theorem Render.reads_fieldSelection (f : Field) : Reads tables (fieldSelection f) :=
  .bind (reads_fieldName f) fun _ => .look fun _ => .pure _

theorem Column.reads_render (column : Column) : Reads tables column.render := by
  cases column with
  | field f => exact reads_fieldName f
  | raw text => exact .look fun _ => .pure _

theorem Aggregate.reads_render (a : Aggregate) : Reads tables a.render := by
  obtain ⟨function, target, aliasName⟩ := a
  cases target with
  | some column =>
      refine .bind column.reads_render fun argument => ?_
      cases aliasName with
      | some name => exact .pure _
      | none => exact .pure _
  | none =>
      refine .bind (.pure "1") fun argument => ?_
      cases aliasName with
      | some name => exact .pure _
      | none => exact .pure _

theorem SelectItem.reads_render (item : SelectItem) : Reads tables item.render := by
  cases item with
  | field f | aliased f => exact .bind (reads_fieldSelection f) fun _ => .pure _
  | name f => exact .bind (reads_fieldName f) fun _ => .pure _
  | all entity => exact .mapM fun p _ => reads_fieldSelection ⟨entity, p.name⟩
  | aggregate a => exact .bind a.reads_render fun _ => .pure _
  | raw text => exact .pure _

theorem SelectItem.reads_renderList (items : List SelectItem) :
    Reads tables (renderList items) :=
  .look fun _ => .ite (.pure _) (.ite (.pure _)
    (.bind (.mapM fun item _ => item.reads_render) fun _ => .pure _))

theorem TableSource.reads_name (source : TableSource) : Reads tables source.name := by
  cases source with
  | entity e => exact .onCatalog e (Catalog.left_tableName · e)
  | named table => exact .pure table

/-- A table that is registered has an alias, and no other one is generated. -/
theorem TableRef.reads_render {t : TableRef} (ht : t ∈ tables) : Reads tables t.render := by
  refine .bind t.source.reads_name fun name => .bind (fun mode catalog s hs => ?_) fun _ => .pure _
  have hhas : s.aliases.has t.key = true := (Aliases.has_iff _ _).mpr (hs.mem_keys ht)
  obtain ⟨e, he⟩ := Option.isSome_iff_exists.mp hhas
  have hget : s.aliases.get t.key = (e.aliasName, s.aliases) := by
    rw [Aliases.get, Aliases.aliasOf?, he]
    rfl
  have hleft : left (aliasFor t.key s) = s := by
    unfold aliasFor onAliases
    simp only [hget, ↓reduceIte]
    rfl
  rwa [hleft]

theorem Template.reads_apply (template : Template) (column : String) (values : List Value) :
    Reads tables (template.apply column values) :=
  .ite (.bind (.values _) fun _ => .pure _) (.throw _)

theorem Condition.reads_render (c : Condition) : Reads tables c.render := by
  obtain ⟨target, operator, operand⟩ := c
  unfold render
  cases (Condition.mk target operator operand).parameters? with
  | none => exact .pure none
  | some values =>
      cases (Condition.mk target operator operand).constant? with
      | some text => exact .pure (some text)
      | none =>
          refine .bind target.reads_render fun column => ?_
          cases operand with
          | column source =>
              refine .bind source.reads_render fun other => ?_
              cases operator.template.applyInline column other with
              | ok text => exact .pure (some text)
              | error e => exact .throw e
          | _ => exact .bind (operator.template.reads_apply _ _) fun _ => .pure _

theorem Query.reads_renderMembers (query : Query) : Reads tables query.renderMembers := by
  induction query with
  | empty => exact .pure ""
  | condition before conjunction c ih =>
      exact .bind ih fun _ => .bind c.reads_render fun _ => .pure _
  | nested before conjunction q ihBefore ihNested =>
      exact .bind ihBefore fun _ => .bind ihNested fun _ => .pure _

theorem Query.reads_render (query : Query) : Reads tables query.render :=
  .ite (.pure none) (.bind query.reads_renderMembers fun _ => .pure _)

theorem Assignments.reads_renderOne (a : Assignment) : Reads tables (renderOne a) := by
  obtain ⟨target, source⟩ := a
  refine .bind target.reads_render fun column => ?_
  cases source with
  | value v => exact .bind (.values [v]) fun _ => .pure _
  | column c => exact .bind c.reads_render fun _ => .pure _

theorem Assignments.reads_render (assignments : Assignments) : Reads tables assignments.render :=
  .ite (.pure none) (.bind (.mapM fun a _ => reads_renderOne a) fun _ => .pure _)

namespace Segment

theorem reads_unlessUnpaged {text : Render String} (h : Reads tables text) :
    Reads tables (unlessUnpaged text) :=
  .look fun _ => .ite (.bind h fun _ => .pure _) (.pure none)

/-- A segment registers no table that is not registered. -/
theorem reads_render {segment : Segment} (h : ∀ t, segment = .table t → t ∈ tables) :
    Reads tables segment.render := by
  cases segment with
  | keyword text => exact .pure _
  | selection items => exact .bind (SelectItem.reads_renderList items) fun _ => .pure _
  | table t => exact .bind (TableRef.reads_render (h t rfl)) fun _ => .pure _
  | target source => exact .bind (.bind source.reads_name fun _ => .pure _) fun _ => .pure _
  | join kind => exact .pure _
  | query q => exact q.reads_render
  | assignments a => exact Assignments.reads_render a
  | groupBy columns => exact .bind (.mapM fun c _ => c.reads_render) fun _ => .pure _
  | orderBy orders =>
      exact reads_unlessUnpaged
        (.bind (.mapM fun o _ => .bind o.target.reads_render fun _ => .pure _) fun _ => .pure _)
  | limit n => exact reads_unlessUnpaged (.pure _)
  | offset n => exact reads_unlessUnpaged (.pure _)

theorem reads_renderAll {segments : List Segment} (h : ∀ t, .table t ∈ segments → t ∈ tables)
    (before : String) : Reads tables (renderAll before segments) := by
  induction segments generalizing before with
  | nil => exact .pure before
  | cons segment rest ih =>
      refine .bind (reads_render fun t ht => h t (ht ▸ List.mem_cons_self)) fun text => ?_
      exact ih (fun t ht => h t (List.mem_cons_of_mem _ ht)) _

end Segment

/-! ## Registering tables -/

/-- Why a table is not registered beside other ones. -/
inductive TableRef.Refused (tables : List TableRef) (t : TableRef) : Error → Prop where
  /-- Its key is there already. -/
  | there (name : String) (hkey : t.key ∈ tables.map TableRef.key) :
      Refused tables t (.validation (.declaredTwice name))
  /-- Its entity claims a type path under which another one is known. -/
  | conflict (entity : Entity) (cached : String) (hsource : t.source = .entity entity) :
      Refused tables t (.conflict entity.typePath cached entity.displayed)

/-- What comes of registering more tables one after the other: all of them are registered, or those
before the first one that is refused. -/
inductive Registering (mode : Mode) (catalog : Catalog) (tables more : List TableRef) {α : Type} :
    EStateM.Result Error Session α → Prop where
  | all (a : α) {s : Session} (h : s.Renders mode catalog (tables ++ more)) :
      Registering mode catalog tables more (.ok a s)
  | stopped (front back : List TableRef) {t : TableRef} {e : Error} {s : Session}
      (hmore : more = front ++ t :: back) (h : s.Renders mode catalog (tables ++ front))
      (hrefused : t.Refused (tables ++ front) e) :
      Registering mode catalog tables more (.error e s)

/-- Only a conflict prevents a look at the name of a table. -/
theorem TableSource.name_eq_error {source : TableSource} {s s' : Session} {e : Error}
    (h : source.name s = .error e s') :
    ∃ entity cached, source = .entity entity ∧
      e = .conflict entity.typePath cached entity.displayed := by
  cases source with
  | named table => cases h
  | entity entity =>
      have houtcome : outcome (Catalog.tableName entity s.catalog) = .error e := by
        change Render.onCatalog (Catalog.tableName entity) s = _ at h
        unfold Render.onCatalog at h
        cases hname : Catalog.tableName entity s.catalog with
        | ok name catalog => rw [hname] at h; cases h
        | error e' catalog => rw [hname] at h; cases h; rfl
      have hlookup := Catalog.outcome_lookup s.catalog entity
      unfold Catalog.tableName at houtcome
      cases hfound : Catalog.lookup entity s.catalog with
      | ok names catalog =>
          rw [bind_of_ok hfound] at houtcome
          cases houtcome
      | error e' catalog =>
          rw [bind_of_error hfound] at houtcome
          rw [hfound] at hlookup
          cases houtcome
          unfold Catalog.compared at hlookup
          split at hlookup
          · cases hlookup
          · cases hlookup
            exact ⟨entity, _, rfl, rfl⟩

namespace Render

variable {key : TableKey} {given : Option String} {s : Session}

theorem left_addTable_explicit (hnew : key ∉ s.aliases.keys) (name : String) {aliasName : String}
    (hgiven : Aliases.explicit? given = some aliasName) :
    left (addTable key name given s) =
      { s with aliases := { s.aliases with
          entries := s.aliases.entries ++ [⟨key, some name, aliasName⟩] } } := by
  have hadded := Aliases.addTable_explicit hnew name hgiven
  unfold addTable onAliases
  simp only [hadded, ↓reduceIte]
  rfl

theorem left_addTable_generated (hnew : key ∉ s.aliases.keys) (name : String)
    (hnone : Aliases.explicit? given = none) :
    left (addTable key name given s) =
      { s with
        aliases := { s.aliases with
          entries := s.aliases.entries ++
            [⟨key, some name, Aliases.generated s.aliases.nextNumber⟩]
          sequence := s.aliases.nextNumber }
        catalog := s.catalog.report
          (.aliasGenerated key (Aliases.generated s.aliases.nextNumber)) } := by
  have hadded := Aliases.addTable_generated hnew name hnone
  have hnumber : s.aliases.nextNumber ≠ s.aliases.sequence :=
    (Nat.ne_of_lt s.aliases.nextNumber_spec.1).symm
  have hname : (s.aliases.addTable key name given).1 =
      Aliases.generated s.aliases.nextNumber := by
    have hunknown : s.aliases.aliasOf? key = none := Aliases.aliasOf_of_notMem hnew
    unfold Aliases.addTable Aliases.add
    simp only [hnone, Aliases.get, hunknown, Aliases.generate]
  unfold addTable onAliases
  simp only [hadded, hname, hnumber, ↓reduceIte]
  rfl

end Render

/-- A table is registered, or it is refused. -/
theorem TableRef.registering_declare {mode : Mode} {catalog : Catalog} {s : Session}
    (h : s.Renders mode catalog tables) (t : TableRef) :
    Registering mode catalog tables [t] (t.declare s) := by
  have hname := t.source.reads_name mode catalog s h
  unfold declare
  cases hresult : t.source.name s with
  | error e u =>
      rw [hresult] at hname
      rw [bind_of_error hresult]
      obtain ⟨entity, cached, hsource, rfl⟩ := TableSource.name_eq_error hresult
      exact .stopped [] [] rfl (by rwa [List.append_nil]) (.conflict entity cached hsource)
  | ok name u =>
      rw [hresult] at hname
      rw [bind_of_ok hresult]
      have hlook : (get : Render Session) u = .ok u u := rfl
      rw [bind_of_ok hlook]
      by_cases hhas : u.aliases.has t.key
      · rw [if_pos hhas]
        refine .stopped [] [] rfl (by rwa [List.append_nil]) (.there name ?_)
        rwa [List.append_nil, ← hname.keys, ← Aliases.has_iff]
      · rw [if_neg hhas]
        have hnew : t.key ∉ u.aliases.keys := fun hkey => hhas ((Aliases.has_iff _ _).mpr hkey)
        have hadd : Render.addTable t.key name t.aliasName u =
            .ok _ (left (Render.addTable t.key name t.aliasName u)) := rfl
        rw [bind_of_ok hadd]
        refine .all () ?_
        cases hgiven : t.explicitAlias? with
        | some aliasName =>
            rw [Render.left_addTable_explicit hnew name hgiven]
            exact .named t name aliasName hname hnew hgiven
        | none =>
            rw [Render.left_addTable_generated hnew name hgiven]
            exact .unnamed t name hname hnew hgiven

namespace Registering

variable {mode : Mode} {catalog : Catalog} {more later : List TableRef}
  {r : EStateM.Result Error Session α}

theorem nothing (a : α) {s : Session} (h : s.Renders mode catalog tables) :
    Registering mode catalog tables [] ((Pure.pure a : Render α) s) :=
  .all a (by rwa [List.append_nil])

/-- Tables are registered in two rows as in one. -/
theorem bind {m : Render α} {f : α → Render β} {s : Session}
    (hm : Registering mode catalog tables more (m s))
    (hf : ∀ (a : α) (t : Session), t.Renders mode catalog (tables ++ more) →
      Registering mode catalog (tables ++ more) later (f a t)) :
    Registering mode catalog tables (more ++ later) ((m >>= f) s) := by
  cases hms : m s with
  | ok a t =>
      rw [hms] at hm
      rw [bind_of_ok hms]
      cases hm with
      | all _ h =>
          have hlater := hf a t h
          generalize f a t = r at hlater
          cases hlater with
          | all b h => exact .all b (by rwa [List.append_assoc] at h)
          | stopped front back hmore h hrefused =>
              rw [List.append_assoc] at h hrefused
              exact .stopped (more ++ front) back (by rw [hmore, List.append_assoc]) h hrefused
  | error e t =>
      rw [hms] at hm
      rw [bind_of_error hms]
      cases hm with
      | stopped front back hmore h hrefused =>
          refine .stopped front (back ++ later) ?_ h hrefused
          rw [hmore, List.append_assoc, List.cons_append]

/-- A pass over declarations registers what each of them registers. -/
theorem mapM {declare : Declaration → Render Unit} {registers : Declaration → List TableRef}
    (h : ∀ (d : Declaration) (tables : List TableRef) (s : Session),
      s.Renders mode catalog tables → Registering mode catalog tables (registers d) (declare d s))
    (declarations : List Declaration) {s : Session} (hs : s.Renders mode catalog tables) :
    Registering mode catalog tables (declarations.flatMap registers)
      (declarations.mapM declare s) := by
  induction declarations generalizing tables s with
  | nil => exact .nothing [] hs
  | cons d rest ih =>
      rw [List.flatMap_cons, List.mapM_cons]
      refine .bind (h d tables s hs) fun a t ht => ?_
      rw [← List.append_nil (rest.flatMap registers)]
      exact .bind (ih ht) fun as u hu => .nothing (a :: as) hu

end Registering

/-! ## Statements -/

/-- Tables in the order in which a statement registers them, those with an explicit alias first. -/
def TableRef.registration (tables : List TableRef) : List TableRef :=
  tables.filter (·.explicitAlias?.isSome) ++ tables.filter (·.explicitAlias?.isNone)

theorem TableRef.registration_perm (tables : List TableRef) :
    (registration tables).Perm tables := by
  have hnone : (fun t : TableRef => t.explicitAlias?.isNone) =
      fun t => !t.explicitAlias?.isSome := by
    funext t
    cases t.explicitAlias? <;> rfl
  rw [registration, hnone]
  exact List.filter_append_perm _ _

/-- Those without an explicit alias keep their order. -/
theorem TableRef.unnamed_registration (tables : List TableRef) :
    (registration tables).filter (·.explicitAlias?.isNone) =
      tables.filter (·.explicitAlias?.isNone) := by
  have hnamed :
      (tables.filter (·.explicitAlias?.isSome)).filter (·.explicitAlias?.isNone) = [] := by
    rw [List.filter_eq_nil_iff]
    intro t ht
    rw [List.mem_filter, Option.isSome_iff_ne_none] at ht
    rw [Option.isNone_iff_eq_none]
    exact ht.2
  rw [registration, List.filter_append, hnamed, List.filter_filter]
  simp only [Bool.and_self, List.nil_append]

/-- What is told of a statement: the tables that it registered, and what came of it.  With a fault
there are none.  Otherwise they are its tables, or those before the one that is refused, which is
the error. -/
inductive TableRef.Registered (fault : Option ValidationFault) (tables : List TableRef) {α : Type} :
    List TableRef → Except Error α → Prop where
  | fault {first : ValidationFault} (h : fault = some first) :
      Registered fault tables [] (.error (.validation first))
  | all (h : fault = none) (outcome : Except Error α) :
      Registered fault tables (registration tables) outcome
  | stopped {front back : List TableRef} {t : TableRef} {e : Error} (h : fault = none)
      (htables : registration tables = front ++ t :: back) (hrefused : t.Refused front e) :
      Registered fault tables front (.error e)

namespace TableRef.Registered

variable {fault : Option ValidationFault} {tables registered : List TableRef} {r : Except Error α}

theorem map (h : Registered fault tables registered r) (f : α → β) :
    Registered fault tables registered (r.map f) := by
  cases h with
  | fault h => exact .fault h
  | all h => exact .all h _
  | stopped h htables hrefused => exact .stopped h htables hrefused

/-- On success all tables are registered. -/
theorem of_ok {a : α} (h : Registered fault tables registered (.ok a)) :
    registered = registration tables := by
  cases h
  rfl

end TableRef.Registered

namespace Declaration

theorem registering_explicit {mode : Mode} {catalog : Catalog} {s : Session}
    (h : s.Renders mode catalog tables) (d : Declaration) :
    Registering mode catalog tables (d.table?.toList.filter (·.explicitAlias?.isSome))
      (d.declareExplicit s) := by
  cases d with
  | column f aliasName => exact .nothing () (.column f aliasName h)
  | table t =>
      cases hgiven : t.explicitAlias? with
      | some aliasName => simpa [declareExplicit, table?, hgiven] using t.registering_declare h
      | none => simpa [declareExplicit, table?, hgiven] using Registering.nothing () h

theorem registering_implicit {mode : Mode} {catalog : Catalog} {s : Session}
    (h : s.Renders mode catalog tables) (d : Declaration) :
    Registering mode catalog tables (d.table?.toList.filter (·.explicitAlias?.isNone))
      (d.declareImplicit s) := by
  cases d with
  | column f aliasName => exact .nothing () h
  | table t =>
      cases hgiven : t.explicitAlias? with
      | some aliasName => simpa [declareImplicit, table?, hgiven] using Registering.nothing () h
      | none => simpa [declareImplicit, table?, hgiven] using t.registering_declare h

end Declaration

namespace Statement

/-- A statement registers its tables, until one of them is refused. -/
theorem registering_declareTables (statement : Statement) (mode : Mode) (catalog : Catalog) :
    Registering mode catalog [] (TableRef.registration statement.tables)
      (statement.declareTables (Session.start mode catalog)) := by
  have hfilter : ∀ chosen : TableRef → Bool,
      (statement.declarations.flatMap fun d => d.table?.toList.filter chosen) =
        statement.tables.filter chosen := by
    intro chosen
    rw [tables, List.filterMap_eq_flatMap_toList, List.filter_flatMap]
  rw [TableRef.registration, ← hfilter, ← hfilter]
  refine .bind (.mapM (fun d _ _ h => d.registering_explicit h) _ .start) fun _ s h => ?_
  exact .mapM (fun d _ _ h => d.registering_implicit h) _ h

/-- A statement whose segments mention the tables that it declares registers them, and no more,
whatever comes of its segments. -/
theorem registered_render {statement : Statement} (hclosed : statement.Closed) (mode : Mode)
    (catalog : Catalog) :
    ∃ registered, (left (statement.render (.start mode catalog))).Renders mode catalog registered ∧
      TableRef.Registered statement.fault statement.tables registered
        (outcome (statement.render (.start mode catalog))) := by
  cases hfault : statement.fault with
  | some fault =>
      rw [render_of_fault hfault]
      exact ⟨[], .start, .fault rfl⟩
  | none =>
      rw [render_of_no_fault hfault]
      have hdeclare := statement.registering_declareTables mode catalog
      cases hresult : statement.declareTables (.start mode catalog) with
      | error e s =>
          rw [hresult] at hdeclare
          rw [bind_of_error hresult]
          cases hdeclare with
          | stopped front back hmore h hrefused => exact ⟨_, h, .stopped rfl hmore hrefused⟩
      | ok us s =>
          rw [hresult] at hdeclare
          rw [bind_of_ok hresult]
          cases hdeclare with
          | all _ h =>
              refine ⟨_, ?_, .all rfl _⟩
              refine Segment.reads_renderAll (fun t ht => ?_) "" mode catalog s h
              exact (TableRef.registration_perm _).mem_iff.mpr (hclosed t ht)

end Statement

end QueryLoom

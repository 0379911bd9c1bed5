import QueryLoom.Proofs.Known
import QueryLoom.Proofs.Numbering

/-!
# Rendering what is told

While the segments of a statement are rendered, its aliases are settled and the catalog only looks
known entities up.  In such a session every step of rendering has the outcome that is told of it
directly, whatever the catalog keeps at the time.

## Main definitions

* `Segment.entities`, `Statement.entities`: the entities whose names are looked up.
* `Session.Within`: the sessions in which the segments of a statement are rendered.
* `Told`: in these sessions a step has the outcome that is told.

## Main results

* `Render.tells_onCatalog`: what is told of a lookup is told of the session.
* `Column.tells_render`, `Condition.tells_render`, `Query.tells_render`, `TableRef.tells_render`:
  the parts of a statement, one by one.
* `Segment.tells_renderAll`: segments are rendered to the texts that are told of them.
-/

namespace QueryLoom

open Step

variable {known : Entity → Prop}

/-! ## Entities of a statement -/

/-- The entity whose names a column looks up. -/
def Column.entities : Column → List Entity
  | .field f => [f.entity]
  | .raw _ => []

/-- The entity whose names an item of a select list looks up. -/
def SelectItem.entities : SelectItem → List Entity
  | .field f | .aliased f _ | .name f => [f.entity]
  | .all entity => [entity]
  | .aggregate a => a.target.elim [] Column.entities
  | .raw _ => []

/-- The entity whose names a table looks up. -/
def TableSource.entities : TableSource → List Entity
  | .entity e => [e]
  | .named _ => []

/-- The entities whose names a condition looks up. -/
def Condition.entities (c : Condition) : List Entity :=
  c.target.entities ++ match c.operand with
    | .column other => other.entities
    | _ => []

/-- The entities whose names an assignment looks up. -/
def Assignment.entities (a : Assignment) : List Entity :=
  a.target.entities ++ match a.source with
    | .value _ => []
    | .column c => c.entities

/-- The entities whose names a segment looks up. -/
def Segment.entities : Segment → List Entity
  | .selection items => items.flatMap SelectItem.entities
  | .table t => t.source.entities
  | .target source => source.entities
  | .query q => q.conditions.flatMap Condition.entities
  | .assignments as => as.flatMap Assignment.entities
  | .groupBy columns => columns.flatMap Column.entities
  | .orderBy orders => orders.flatMap fun o => o.target.entities
  | .keyword _ | .join _ | .limit _ | .offset _ => []

/-- The entities whose names a statement looks up, in its declarations and in its segments. -/
def Statement.entities (statement : Statement) : List Entity :=
  statement.tables.flatMap (·.source.entities) ++ statement.segments.flatMap Segment.entities

/-! ## Sessions of a statement -/

/-- The sessions in which the segments of a statement are rendered: with the aliases and the mode
of the statement, and with a catalog in which only known entities were looked up. -/
structure Session.Within (known : Entity → Prop) (scope : Scope) (s : Session) : Prop where
  catalog : s.catalog.Visited known
  aliases : s.aliases = scope.aliases
  mode : s.mode = scope.mode

/-- In the sessions of a statement the step has the outcome that is told. -/
abbrev Told (known : Entity → Prop) (scope : Scope) {α : Type} (m : Render α)
    (told : Except Error α) : Prop :=
  Tells known (Session.Within known scope) m told

namespace Render

variable {scope : Scope} {α β : Type}

/-- What is told of an action on the catalog is told of the session. -/
theorem tells_onCatalog {action : Catalog.Action α} {told : Except Error α}
    (h : Tells known (Catalog.Visited known) action told) :
    Told known scope (onCatalog action) told := by
  intro s hs
  obtain ⟨houtcome, hvisited⟩ := h s.catalog hs.catalog
  unfold onCatalog
  cases hresult : action s.catalog with
  | ok a catalog =>
      rw [hresult] at houtcome hvisited
      exact ⟨houtcome, hvisited, hs.aliases, hs.mode⟩
  | error e catalog =>
      rw [hresult] at houtcome hvisited
      exact ⟨houtcome, hvisited, hs.aliases, hs.mode⟩

/-- Binding values concerns neither catalog nor aliases. -/
theorem tells_bind (values : List Value) : Told known scope (Render.bind values) (.ok ()) :=
  fun _ hs => ⟨.told _, hs.catalog, hs.aliases, hs.mode⟩

/-- A list is rendered to what is told of its elements. -/
theorem tells_mapM {render : α → Render β} {direct : α → Except Error β} {as : List α}
    (h : ∀ a ∈ as, Told known scope (render a) (direct a)) :
    Told known scope (as.mapM render) (as.mapM direct) := by
  induction as with
  | nil => exact Tells.pure []
  | cons a as ih =>
      rw [List.mapM_cons, List.mapM_cons]
      obtain ⟨hfirst, hrest⟩ := List.forall_mem_cons.mp h
      exact Tells.bind hfirst fun b => Tells.bind (ih hrest) fun bs => Tells.pure (b :: bs)

end Render

open Render

variable {scope : Scope}

/-! ## Columns and select lists -/

theorem Render.tells_fieldName {f : Field} (h : known f.entity) :
    Told known scope (fieldName f) (f.direct scope.aliases) := by
  refine Tells.bind (tells_onCatalog (Catalog.tells_columnName h)) fun column => ?_
  refine Tells.look fun s hs => ?_
  rw [hs.aliases]
  cases scope.aliases.aliasOf? (.ofEntity f.entity) with
  | some aliasName => exact Tells.pure _
  | none => exact Tells.pure _

theorem Render.tells_fieldSelection {f : Field} (h : known f.entity) :
    Told known scope (fieldSelection f) (f.directSelection scope.aliases) := by
  refine Tells.bind (tells_fieldName h) fun name => Tells.look fun s hs => ?_
  rw [hs.aliases]
  exact Tells.pure _

/-- A column is rendered to the text that is told of it. -/
theorem Column.tells_render {column : Column} (h : ∀ e ∈ column.entities, known e) :
    Told known scope column.render (column.direct scope.aliases) := by
  cases column with
  | field f => exact tells_fieldName (h _ List.mem_cons_self)
  | raw text =>
      refine Tells.look fun s hs => ?_
      rw [hs.aliases]
      exact Tells.pure _

theorem Aggregate.tells_render {a : Aggregate}
    (h : ∀ e ∈ a.target.elim [] Column.entities, known e) :
    Told known scope a.render (a.direct scope.aliases) := by
  obtain ⟨function, target, aliasName⟩ := a
  cases target with
  | some column =>
      cases aliasName with
      | some name => exact Tells.bind (Column.tells_render h) fun argument => Tells.pure _
      | none => exact Tells.bind (Column.tells_render h) fun argument => Tells.pure _
  | none =>
      cases aliasName with
      | some name => exact Tells.pure _
      | none => exact Tells.pure _

/-- An item is rendered to the texts that are told of it. -/
theorem SelectItem.tells_render {item : SelectItem} (h : ∀ e ∈ item.entities, known e) :
    Told known scope item.render (item.direct scope.aliases) := by
  cases item with
  | field f =>
      exact Tells.bind (tells_fieldSelection (h _ List.mem_cons_self)) fun _ => Tells.pure _
  | aliased f aliasName =>
      exact Tells.bind (tells_fieldSelection (h _ List.mem_cons_self)) fun _ => Tells.pure _
  | name f => exact Tells.bind (tells_fieldName (h _ List.mem_cons_self)) fun _ => Tells.pure _
  | all entity =>
      have hentity : known entity := h _ List.mem_cons_self
      exact tells_mapM fun p _ => tells_fieldSelection (f := ⟨entity, p.name⟩) hentity
  | aggregate a => exact Tells.bind (Aggregate.tells_render h) fun _ => Tells.pure _
  | raw text => exact Tells.pure _

/-- A select list is rendered to the text that is told of it, unless rows are counted. -/
theorem SelectItem.tells_renderList {items : List SelectItem}
    (h : ∀ e ∈ items.flatMap entities, known e) :
    Told known scope (renderList items)
      (if scope.mode = .count then .ok "COUNT(1)" else directList scope.aliases items) := by
  refine Tells.look fun s hs => ?_
  rw [hs.mode]
  refine Tells.ite (Tells.pure _) (Tells.ite (Tells.pure _) ?_)
  refine Tells.bind (tells_mapM fun item hitem => tells_render fun e he => ?_) fun _ => Tells.pure _
  exact h e (List.mem_flatMap.mpr ⟨item, hitem, he⟩)

/-! ## Tables -/

theorem TableSource.tells_name {source : TableSource} (h : ∀ e ∈ source.entities, known e) :
    Told known scope source.name (.ok source.directName) := by
  cases source with
  | entity e => exact tells_onCatalog (Catalog.tells_tableName (h _ List.mem_cons_self))
  | named table => exact Tells.pure table

theorem TableSource.tells_quotedName {source : TableSource} (h : ∀ e ∈ source.entities, known e) :
    Told known scope source.quotedName (.ok (Identifier.quote source.directName)) :=
  Tells.bind (tells_name h) fun _ => Tells.pure _

/-- A table that has an alias keeps it, and no other is generated. -/
theorem Render.tells_aliasFor {key : TableKey} {aliasName : String}
    (h : scope.aliases.aliasOf? key = some aliasName) :
    Told known scope (aliasFor key) (.ok (scope.aliases.get key).1) := by
  intro s hs
  have hget : scope.aliases.get key = (aliasName, scope.aliases) := by
    unfold Aliases.get
    rw [h]
  unfold aliasFor onAliases
  simp only [hs.aliases, hget, ↓reduceIte]
  exact ⟨.told _, hs.catalog, rfl, hs.mode⟩

/-- A table with an alias is rendered to the text that is told of it. -/
theorem TableRef.tells_render {t : TableRef} (h : ∀ e ∈ t.source.entities, known e)
    {aliasName : String} (halias : scope.aliases.aliasOf? t.key = some aliasName) :
    Told known scope t.render (.ok (t.direct scope.aliases)) :=
  Tells.bind (TableSource.tells_name h) fun _ =>
    Tells.bind (tells_aliasFor halias) fun _ => Tells.pure _

/-! ## Conditions and queries -/

theorem Template.tells_apply (template : Template) (column : String) (values : List Value) :
    Told known scope (template.apply column values) (template.filled column values) :=
  Tells.ite (Tells.bind (tells_bind _) fun _ => Tells.pure _) (Tells.throw _)

/-- A condition is rendered to the text that is told of it. -/
theorem Condition.tells_render {c : Condition} (h : ∀ e ∈ c.entities, known e) :
    Told known scope c.render (c.direct scope.aliases) := by
  obtain ⟨target, operator, operand⟩ := c
  obtain ⟨htarget, hoperand⟩ := List.forall_mem_append.mp h
  unfold render direct
  cases (Condition.mk target operator operand).parameters? with
  | none => exact Tells.pure none
  | some values =>
      cases (Condition.mk target operator operand).constant? with
      | some text => exact Tells.pure (some text)
      | none =>
          refine Tells.bind (Column.tells_render htarget) fun column => ?_
          cases operand with
          | column source =>
              refine Tells.bind (Column.tells_render hoperand) fun other => ?_
              cases operator.template.applyInline column other with
              | ok text => exact Tells.pure (some text)
              | error e => exact Tells.throw e
          | _ => exact Tells.bind (Template.tells_apply _ _ _) fun _ => Tells.pure _

/-- The members of a query are rendered to the text that is told of them. -/
theorem Query.tells_renderMembers {query : Query}
    (h : ∀ e ∈ query.conditions.flatMap Condition.entities, known e) :
    Told known scope query.renderMembers (query.directMembers scope.aliases) := by
  induction query with
  | empty => exact Tells.pure ""
  | condition before conjunction c ih =>
      rw [conditions, List.flatMap_append, List.flatMap_singleton] at h
      obtain ⟨hbefore, hc⟩ := List.forall_mem_append.mp h
      exact Tells.bind (ih hbefore) fun text =>
        Tells.bind (Condition.tells_render hc) fun member => Tells.pure _
  | nested before conjunction q ihBefore ihNested =>
      rw [conditions, List.flatMap_append] at h
      obtain ⟨hbefore, hq⟩ := List.forall_mem_append.mp h
      exact Tells.bind (ihBefore hbefore) fun text =>
        Tells.bind (ihNested hq) fun member => Tells.pure _

theorem Query.tells_render {query : Query}
    (h : ∀ e ∈ query.conditions.flatMap Condition.entities, known e) :
    Told known scope query.render (query.direct scope.aliases) :=
  Tells.ite (Tells.pure none) (Tells.bind (tells_renderMembers h) fun _ => Tells.pure _)

/-! ## Assignments and orders -/

theorem Assignments.tells_renderOne {a : Assignment} (h : ∀ e ∈ a.entities, known e) :
    Told known scope (renderOne a) (a.direct scope.aliases) := by
  obtain ⟨target, source⟩ := a
  obtain ⟨htarget, hsource⟩ := List.forall_mem_append.mp h
  refine Tells.bind (Column.tells_render htarget) fun column => ?_
  cases source with
  | value v => exact Tells.bind (tells_bind [v]) fun _ => Tells.pure _
  | column c => exact Tells.bind (Column.tells_render hsource) fun _ => Tells.pure _

theorem Assignments.tells_render {assignments : Assignments}
    (h : ∀ e ∈ assignments.flatMap Assignment.entities, known e) :
    Told known scope assignments.render (assignments.direct scope.aliases) := by
  refine Tells.ite (Tells.pure none) (Tells.bind (tells_mapM fun a ha => ?_) fun _ => Tells.pure _)
  exact tells_renderOne fun e he => h e (List.mem_flatMap.mpr ⟨a, ha, he⟩)

theorem Order.tells_render {order : Order} (h : ∀ e ∈ order.target.entities, known e) :
    Told known scope order.render (order.direct scope.aliases) :=
  Tells.bind (Column.tells_render h) fun _ => Tells.pure _

/-! ## Segments -/

namespace Segment

theorem tells_unlessUnpaged {text : Render String} {told : Except Error String}
    (h : Told known scope text told) :
    Told known scope (unlessUnpaged text) (unlessUnpagedDirect scope.mode told) := by
  refine Tells.look fun s hs => ?_
  rw [hs.mode]
  exact Tells.ite (Tells.bind h fun _ => Tells.pure _) (Tells.pure none)

/-- A segment is rendered to the text that is told of it, if its table has an alias. -/
theorem tells_render {segment : Segment} (h : ∀ e ∈ segment.entities, known e)
    (htable : ∀ t, segment = .table t →
      ∃ aliasName, scope.aliases.aliasOf? t.key = some aliasName) :
    Told known scope segment.render (segment.direct scope) := by
  cases segment with
  | keyword text => exact Tells.pure _
  | selection items =>
      have hlist := @SelectItem.tells_renderList known scope items h
      rw [direct]
      by_cases hcount : scope.mode = .count
      · rw [if_pos hcount] at hlist ⊢
        exact Tells.bind hlist fun text => Tells.pure (some text)
      · rw [if_neg hcount] at hlist ⊢
        exact Tells.bind hlist fun text => Tells.pure (some text)
  | table t =>
      obtain ⟨aliasName, halias⟩ := htable t rfl
      exact Tells.bind (TableRef.tells_render h halias) fun _ => Tells.pure _
  | target source => exact Tells.bind (TableSource.tells_quotedName h) fun _ => Tells.pure _
  | join kind => exact Tells.pure _
  | query q => exact Query.tells_render h
  | assignments as => exact Assignments.tells_render h
  | groupBy columns =>
      refine Tells.bind (tells_mapM fun c hc => ?_) fun _ => Tells.pure _
      exact Column.tells_render fun e he => h e (List.mem_flatMap.mpr ⟨c, hc, he⟩)
  | orderBy orders =>
      refine tells_unlessUnpaged (Tells.bind (tells_mapM fun o ho => ?_) fun _ => Tells.pure _)
      exact Order.tells_render fun e he => h e (List.mem_flatMap.mpr ⟨o, ho, he⟩)
  | limit n => exact tells_unlessUnpaged (Tells.pure _)
  | offset n => exact tells_unlessUnpaged (Tells.pure _)

/-- Segments are rendered behind the text before them to the text that is told of them. -/
theorem tells_renderAll {segments : List Segment}
    (h : ∀ e ∈ segments.flatMap entities, known e)
    (htables : ∀ t, .table t ∈ segments →
      ∃ aliasName, scope.aliases.aliasOf? t.key = some aliasName)
    (before : String) :
    Told known scope (renderAll before segments)
      ((directAll scope segments).map (Query.joinText before)) := by
  induction segments generalizing before with
  | nil => exact Tells.pure before
  | cons segment rest ih =>
      obtain ⟨hsegment, hrest⟩ := List.forall_mem_append.mp h
      have hfirst := tells_render hsegment fun t ht => htables t (ht ▸ List.mem_cons_self)
      have hothers := ih hrest fun t ht => htables t (List.mem_cons_of_mem _ ht)
      have hall := Tells.bind hfirst fun text =>
        hothers (Query.joinText before (text.getD ""))
      -- texts are joined from the left while they are rendered, and from the right as they are told
      have htold : (directAll scope (segment :: rest)).map (Query.joinText before) =
          segment.direct scope >>= fun text =>
            (directAll scope rest).map (Query.joinText (Query.joinText before (text.getD ""))) := by
        rw [directAll]
        cases segment.direct scope with
        | error e => rfl
        | ok text =>
            cases directAll scope rest with
            | error e => rfl
            | ok others => exact congrArg Except.ok (Query.joinText_assoc _ _ _).symm
      rw [htold]
      exact hall

theorem map_joinText_empty (text : Except Error String) :
    text.map (Query.joinText "") = text := by
  cases text with
  | error e => rfl
  | ok text => exact congrArg Except.ok (Query.joinText_empty_left text)

end Segment

end QueryLoom

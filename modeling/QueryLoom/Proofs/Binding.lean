import QueryLoom.Proofs.Templates

/-!
# The values that a step binds

A rendering step that only writes names is blind: it neither looks at the values bound so far nor
binds any.  A step that does bind values appends a list that does not depend on the session.

## Main definitions

* `Render.Blind`: a step that has nothing to do with bound values.
* `Render.Binds`: a step that binds exactly the given values whenever it succeeds.

## Main results

* `Render.Blind.bind`, `Render.Binds.andThen`: sequences of steps.
* `Column.blind_render`, `SelectItem.blind_renderList`, `TableRef.blind_render`: names are blind.
* `Template.binds_apply`, `Condition.binds_render`: a condition binds its values.
-/

namespace QueryLoom

/-! ## Blind steps -/

namespace Render

variable {α β : Type}

/-- A result with other bound values. -/
def withParams (params : List Value) :
    EStateM.Result Error Session α → EStateM.Result Error Session α
  | .ok a s => .ok a { s with params }
  | .error e s => .error e { s with params }

/-- Whatever values are bound, the step does the same and leaves them as they are. -/
def Blind (m : Render α) : Prop :=
  ∀ s params, m { s with params } = withParams params (m s)

namespace Blind

theorem pure (a : α) : Blind (pure a : Render α) := fun _ _ => rfl

theorem throw (e : Error) : Blind (throw e : Render α) := fun _ _ => rfl

/-- A sequence of blind steps is blind. -/
theorem bind {m : Render α} {f : α → Render β} (hm : Blind m) (hf : ∀ a, Blind (f a)) :
    Blind (m >>= f) := by
  intro s params
  show EStateM.bind m f _ = withParams params (EStateM.bind m f s)
  unfold EStateM.bind
  rw [hm s params]
  cases m s with
  | ok a t => exact hf a t params
  | error e t => rfl

/-- A step may look at everything in the session but the bound values. -/
theorem look {f : Session → Render β} (hsame : ∀ s params, f { s with params } = f s)
    (hf : ∀ s, Blind (f s)) : Blind (get >>= f) := by
  intro s params
  show f { s with params } { s with params } = withParams params (f s s)
  rw [hsame s params]
  exact hf s s params

theorem ite {c : Prop} [Decidable c] {m n : Render α} (hm : Blind m) (hn : Blind n) :
    Blind (if c then m else n) := by
  by_cases hc : c
  · rwa [if_pos hc]
  · rwa [if_neg hc]

theorem onCatalog (action : Catalog.Action α) : Blind (onCatalog action) := by
  intro s params
  unfold Render.onCatalog
  cases action s.catalog with
  | ok a catalog => rfl
  | error e catalog => rfl

theorem onAliases (key : TableKey) (step : Aliases → String × Aliases) :
    Blind (onAliases key step) := fun _ _ => rfl

/-- Things that are blind one by one are blind together. -/
theorem mapM {render : α → Render β} (h : ∀ a, Blind (render a)) (as : List α) :
    Blind (as.mapM render) := by
  induction as with
  | nil => exact pure []
  | cons a as ih =>
      rw [List.mapM_cons]
      exact bind (h a) fun b => bind ih fun bs => pure (b :: bs)

end Blind

end Render

open Render

/-! ## Names are blind -/

theorem blind_fieldName (field : Field) : Blind (Render.fieldName field) := by
  unfold Render.fieldName
  refine Blind.bind (Blind.onCatalog _) fun column => Blind.look (fun _ _ => rfl) fun session => ?_
  cases session.aliases.aliasOf? (.ofEntity field.entity) with
  | some aliasName => exact Blind.pure _
  | none => exact Blind.pure _

theorem blind_fieldSelection (field : Field) : Blind (Render.fieldSelection field) := by
  unfold Render.fieldSelection
  apply Blind.bind (blind_fieldName field)
  intro name
  exact Blind.look (fun _ _ => rfl) fun session => Blind.pure _

theorem Column.blind_render (column : Column) : Blind column.render := by
  cases column with
  | field f => exact blind_fieldName f
  | raw text =>
      unfold Column.render
      exact Blind.look (fun _ _ => rfl) fun session => Blind.pure _

theorem Aggregate.blind_render (a : Aggregate) : Blind a.render := by
  obtain ⟨function, target, aliasName⟩ := a
  cases target with
  | some column =>
      cases aliasName with
      | some name => exact Blind.bind column.blind_render fun argument => Blind.pure _
      | none => exact Blind.bind column.blind_render fun argument => Blind.pure _
  | none =>
      cases aliasName with
      | some name => exact Blind.bind (Blind.pure "1") fun argument => Blind.pure _
      | none => exact Blind.bind (Blind.pure "1") fun argument => Blind.pure _

theorem SelectItem.blind_render (item : SelectItem) : Blind item.render := by
  unfold SelectItem.render
  cases item with
  | field f => exact Blind.bind (blind_fieldSelection f) fun _ => Blind.pure _
  | aliased f aliasName => exact Blind.bind (blind_fieldSelection f) fun _ => Blind.pure _
  | name f => exact Blind.bind (blind_fieldName f) fun _ => Blind.pure _
  | all entity => exact Blind.mapM (fun _ => blind_fieldSelection _) _
  | aggregate a => exact Blind.bind a.blind_render fun _ => Blind.pure _
  | raw text => exact Blind.pure _

theorem SelectItem.blind_renderList (items : List SelectItem) :
    Blind (SelectItem.renderList items) := by
  unfold SelectItem.renderList
  refine Blind.look (fun _ _ => rfl) fun session => Blind.ite (Blind.pure _) ?_
  refine Blind.ite (Blind.pure _) ?_
  exact Blind.bind (Blind.mapM SelectItem.blind_render items) fun _ => Blind.pure _

theorem TableSource.blind_name (source : TableSource) : Blind source.name := by
  cases source with
  | entity e => exact Blind.onCatalog _
  | named table => exact Blind.pure _

theorem TableSource.blind_quotedName (source : TableSource) : Blind source.quotedName := by
  unfold TableSource.quotedName
  exact Blind.bind source.blind_name fun _ => Blind.pure _

theorem TableRef.blind_render (table : TableRef) : Blind table.render := by
  unfold TableRef.render
  exact Blind.bind table.source.blind_name fun _ =>
    Blind.bind (Blind.onAliases _ _) fun _ => Blind.pure _

theorem TableRef.blind_declare (table : TableRef) : Blind table.declare := by
  unfold TableRef.declare
  apply Blind.bind table.source.blind_name
  intro name
  refine Blind.look (fun _ _ => rfl) fun session => Blind.ite (Blind.throw _) ?_
  exact Blind.bind (Blind.onAliases _ _) fun _ => Blind.pure _

theorem Declaration.blind_declareExplicit (declaration : Declaration) :
    Blind declaration.declareExplicit := by
  unfold declareExplicit
  cases declaration with
  | table t => exact Blind.ite t.blind_declare (Blind.pure _)
  | column f aliasName => exact fun _ _ => rfl

theorem Declaration.blind_declareImplicit (declaration : Declaration) :
    Blind declaration.declareImplicit := by
  unfold declareImplicit
  cases declaration with
  | table t => exact Blind.ite (Blind.pure _) t.blind_declare
  | column f aliasName => exact Blind.pure _

theorem Order.blind_render (order : Order) : Blind order.render := by
  unfold Order.render
  exact Blind.bind order.target.blind_render fun _ => Blind.pure _

/-! ## Steps that bind given values -/

namespace Render

variable {α β : Type}

/-- Whenever the step succeeds, it has appended exactly these values to those bound before. -/
def Binds (m : Render α) (values : List Value) : Prop :=
  ∀ s a s', m s = .ok a s' → s'.params = s.params ++ values

/-- A blind step binds nothing. -/
theorem Blind.binds {m : Render α} (h : Blind m) : Binds m [] := by
  intro s a s' hm
  have hself : m s = withParams s.params (m s) := h s s.params
  rw [hm] at hself
  simp only [withParams, EStateM.Result.ok.injEq, true_and] at hself
  rw [List.append_nil, hself]

namespace Binds

theorem pure (a : α) : Binds (pure a : Render α) [] := (Blind.pure a).binds

theorem values (values : List Value) : Binds (Render.bind values) values := by
  intro s b s' h
  cases h
  rfl

/-- A sequence binds what its parts bind. -/
theorem andThen {m : Render α} {f : α → Render β} {vs ws : List Value}
    (hm : Binds m vs) (hf : ∀ a, Binds (f a) ws) : Binds (m >>= f) (vs ++ ws) := by
  intro s b s' h
  obtain ⟨a, t, hfirst, hrest⟩ := Step.bind_eq_ok h
  rw [hf a t b s' hrest, hm s a t hfirst, List.append_assoc]

/-- A first step that binds nothing does not count. -/
theorem after {m : Render α} {f : α → Render β} {values : List Value}
    (hm : Blind m) (hf : ∀ a, Binds (f a) values) : Binds (m >>= f) values :=
  andThen hm.binds hf

/-- A second step that binds nothing does not count. -/
theorem before {m : Render α} {f : α → Render β} {values : List Value}
    (hm : Binds m values) (hf : ∀ a, Binds (f a) []) : Binds (m >>= f) values := by
  have hboth := andThen hm hf
  rwa [List.append_nil] at hboth

/-- A list of steps binds what they bind one by one. -/
theorem mapM {render : α → Render β} {values : α → List Value}
    (h : ∀ a, Binds (render a) (values a)) (as : List α) :
    Binds (as.mapM render) (as.flatMap values) := by
  induction as with
  | nil => exact pure []
  | cons a as ih =>
      rw [List.mapM_cons, List.flatMap_cons]
      exact andThen (h a) fun b => before ih fun bs => pure (b :: bs)

end Binds

end Render

/-! ## Conditions -/

/-- A filled template binds the values that it is given, and none when it refuses them. -/
theorem Template.binds_apply (template : Template) (column : String) (values : List Value) :
    Binds (template.apply column values) values := by
  intro s text s' h
  obtain ⟨-, -, rfl⟩ := apply_eq_ok h
  rfl

/-- A condition binds its own values: all of its operand when a template takes them, and none for
a column or a constant. -/
theorem Condition.binds_render (condition : Condition) :
    Binds condition.render (condition.parameters?.getD []) := by
  intro s text s' h
  cases rendered_of_render h with
  | absent hparameters => simp [hparameters]
  | constant text hoperand hconstant => simp [parameters?, hoperand, Operand.parameters?]
  | inlined column other source text t s' hoperand htarget hsource htext =>
      have hnone : condition.parameters?.getD [] = [] := by
        simp [parameters?, hoperand, Operand.parameters?]
      have htargetBinds := condition.target.blind_render.binds s column t htarget
      have hsourceBinds := source.blind_render.binds t other s' hsource
      rw [hnone, hsourceBinds, htargetBinds, List.append_nil]
  | filled column values text t s' hparameters hconstant htarget htext =>
      have htargetBinds := condition.target.blind_render.binds s column t htarget
      have htextBinds := Template.binds_apply _ column values t text s' htext
      rw [hparameters, htextBinds, htargetBinds, List.append_nil, Option.getD_some]

end QueryLoom

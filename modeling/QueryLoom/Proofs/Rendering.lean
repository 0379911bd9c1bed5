import QueryLoom.Chain

/-!
# Reasoning about rendering steps

A rendering step that succeeds is taken apart here once and for all: a sequence of steps succeeds
when its parts do, and a statement is built when its segments render in a session of its own.
Later modules cite these facts and never open the monad.

## Main definitions

* `Step.outcome`, `Step.left`: what a step yields, and the state it leaves.
* `Step.succeeds`: whether a program succeeds, told by running it.
* `Condition.Rendered`: the ways in which a condition renders.
* `Form`: the three statements that one chain is rendered to.
* `Statement.buildAs`: building one of them.

## Main results

* `Step.bind_eq_ok`, `Step.bind_of_ok`: a sequence succeeds when its parts do.
* `Condition.rendered_of_render`: a condition that renders does so in one of these ways.
* `Statement.buildIn_eq_ok`, `Statement.render_eq_ok`: the session behind a built statement.
-/

namespace QueryLoom

/-! ## Steps -/

namespace Step

variable {σ α β : Type}

/-- A sequence that succeeds has a first step that succeeds, and a second one that goes on from
there. -/
theorem bind_eq_ok {m : EStateM Error σ α} {f : α → EStateM Error σ β} {s s' : σ} {b : β}
    (h : (m >>= f) s = .ok b s') : ∃ a t, m s = .ok a t ∧ f a t = .ok b s' := by
  change EStateM.bind m f s = .ok b s' at h
  unfold EStateM.bind at h
  cases hm : m s with
  | ok a t =>
      rw [hm] at h
      exact ⟨a, t, rfl, h⟩
  | error e t =>
      rw [hm] at h
      cases h

/-- A sequence goes on from where its first step succeeds. -/
theorem bind_of_ok {m : EStateM Error σ α} {f : α → EStateM Error σ β} {s t : σ} {a : α}
    (h : m s = .ok a t) : (m >>= f) s = f a t := by
  show EStateM.bind m f s = f a t
  unfold EStateM.bind
  rw [h]

/-- A sequence ends where its first step fails. -/
theorem bind_of_error {m : EStateM Error σ α} {f : α → EStateM Error σ β} {s t : σ} {e : Error}
    (h : m s = .error e t) : (m >>= f) s = .error e t := by
  show EStateM.bind m f s = .error e t
  unfold EStateM.bind
  rw [h]

/-- A returned value leaves the state alone. -/
theorem pure_eq_ok {a b : α} {s s' : σ} (h : (pure a : EStateM Error σ α) s = .ok b s') :
    b = a ∧ s' = s := by
  cases h
  exact ⟨rfl, rfl⟩

/-- A failure never succeeds. -/
theorem throw_ne_ok {e : Error} {a : α} {s s' : σ} :
    (throw e : EStateM Error σ α) s ≠ .ok a s' := by
  intro h
  cases h

/-- What a step yields, without the state it leaves. -/
def outcome : EStateM.Result Error σ α → Except Error α
  | .ok a _ => .ok a
  | .error e _ => .error e

/-- The state that a step leaves, on success and on failure alike. -/
def left : EStateM.Result Error σ α → σ
  | .ok _ s => s
  | .error _ s => s

/-- A result is an outcome in a state. -/
theorem eq_ok_of_outcome {result : EStateM.Result Error σ α} {a : α}
    (h : outcome result = .ok a) : result = .ok a (left result) := by
  cases result with
  | ok b s =>
      cases h
      rfl
  | error e s => cases h

theorem outcome_of_eq_ok {result : EStateM.Result Error σ α} {a : α} {s : σ}
    (h : result = .ok a s) : outcome result = .ok a := by
  rw [h]
  rfl

theorem eq_error_of_outcome {result : EStateM.Result Error σ α} {e : Error}
    (h : outcome result = .error e) : result = .error e (left result) := by
  cases result with
  | ok a s => cases h
  | error e s =>
      cases h
      rfl

/-- A value that is only converted after a step does not change what the step leaves. -/
theorem left_map (m : EStateM Error σ α) (f : α → β) (s : σ) :
    left ((m >>= fun a => pure (f a)) s) = left (m s) := by
  cases hm : m s with
  | ok a t =>
      rw [bind_of_ok hm]
      rfl
  | error e t =>
      rw [bind_of_error hm]
      rfl

theorem outcome_map (m : EStateM Error σ α) (f : α → β) (s : σ) :
    outcome ((m >>= fun a => pure (f a)) s) = (outcome (m s)).map f := by
  cases hm : m s with
  | ok a t =>
      rw [bind_of_ok hm]
      rfl
  | error e t =>
      rw [bind_of_error hm]
      rfl

/-- Whether a result is one of success.  For a closed program this can be decided by running it,
where comparing the whole result would take long. -/
def succeeds : EStateM.Result Error σ α → Bool
  | .ok _ _ => true
  | .error _ _ => false

theorem exists_of_succeeds {result : EStateM.Result Error σ α} (h : succeeds result = true) :
    ∃ a s, result = .ok a s := by
  cases result with
  | ok a s => exact ⟨a, s, rfl⟩
  | error e s => cases h

end Step

namespace Render

variable {α β : Type}

theorem mapM_singleton_of_ok {render : α → Render β} {a : α} {b : β} {s t : Session}
    (h : render a s = .ok b t) : [a].mapM render s = .ok [b] t := by
  rw [List.mapM_cons, Step.bind_of_ok h]
  rfl

/-- Lists are rendered one behind the other. -/
theorem mapM_append_of_ok {render : α → Render β} {as₁ as₂ : List α} {bs₁ bs₂ : List β}
    {s t u : Session} (h₁ : as₁.mapM render s = .ok bs₁ t) (h₂ : as₂.mapM render t = .ok bs₂ u) :
    (as₁ ++ as₂).mapM render s = .ok (bs₁ ++ bs₂) u := by
  rw [List.mapM_append, Step.bind_of_ok h₁, Step.bind_of_ok h₂]
  rfl

/-- Work on the catalog changes nothing else. -/
theorem onCatalog_eq_ok {action : Catalog.Action α} {s s' : Session} {a : α}
    (h : onCatalog action s = .ok a s') :
    ∃ catalog, action s.catalog = .ok a catalog ∧ s' = { s with catalog } := by
  unfold onCatalog at h
  cases hc : action s.catalog with
  | ok b catalog =>
      simp only [hc, EStateM.Result.ok.injEq] at h
      obtain ⟨rfl, rfl⟩ := h
      exact ⟨catalog, rfl, rfl⟩
  | error e catalog =>
      simp only [hc] at h
      cases h

/-- A step of the aliases succeeds, and reports at most that an alias was generated. -/
theorem onAliases_eq_ok {key : TableKey} {step : Aliases → String × Aliases}
    {s s' : Session} {aliasName : String} (h : onAliases key step s = .ok aliasName s') :
    aliasName = (step s.aliases).1 ∧ s'.aliases = (step s.aliases).2 ∧ s'.params = s.params ∧
      s'.mode = s.mode ∧
      (s'.catalog = s.catalog ∨
        s'.catalog = s.catalog.report (.aliasGenerated key (step s.aliases).1)) := by
  unfold onAliases at h
  simp only [EStateM.Result.ok.injEq] at h
  obtain ⟨rfl, rfl⟩ := h
  refine ⟨rfl, rfl, rfl, rfl, ?_⟩
  by_cases hs : (step s.aliases).2.sequence = s.aliases.sequence
  · exact .inl (by simp only [hs, ↓reduceIte])
  · exact .inr (by simp only [hs, ↓reduceIte])

end Render

/-! ## Conditions -/

/-- The ways in which a condition renders. -/
inductive Condition.Rendered (condition : Condition) (s : Session) :
    Option String → Session → Prop where
  /-- There is nothing to compare with. -/
  | absent (hparameters : condition.parameters? = none) : Rendered condition s none s
  /-- Membership in an empty list. -/
  | constant (text : String) (hoperand : condition.operand = .list [])
      (hconstant : condition.constant? = some text) : Rendered condition s (some text) s
  /-- A comparison with another column. -/
  | inlined (column other : String) (source : Column) (text : String) (t s' : Session)
      (hoperand : condition.operand = .column source)
      (htarget : condition.target.render s = .ok column t)
      (hsource : source.render t = .ok other s')
      (htext : condition.operator.template.applyInline column other = .ok text) :
      Rendered condition s (some text) s'
  /-- A comparison with bound values. -/
  | filled (column : String) (values : List Value) (text : String) (t s' : Session)
      (hparameters : condition.parameters? = some values)
      (hconstant : condition.constant? = none)
      (htarget : condition.target.render s = .ok column t)
      (htext : condition.operator.template.apply column values t = .ok text s') :
      Rendered condition s (some text) s'

namespace Condition

/-- Only membership in an empty list is replaced by a constant, and there are two of them. -/
theorem constant_eq_some {condition : Condition} {text : String}
    (h : condition.constant? = some text) :
    condition.operand = .list [] ∧ (text = "1 = 0" ∨ text = "1 = 1") := by
  unfold constant? at h
  split at h
  · next hoperand _ =>
      cases h
      exact ⟨hoperand, .inl rfl⟩
  · next hoperand _ =>
      cases h
      exact ⟨hoperand, .inr rfl⟩
  · cases h

theorem render_absent {condition : Condition} (h : condition.parameters? = none) :
    condition.render = pure none := by
  unfold render
  rw [h]

theorem render_constant {condition : Condition} {text : String}
    (h : condition.constant? = some text) : condition.render = pure (some text) := by
  have hparameters : condition.parameters? = some [] := by
    rw [parameters?, (constant_eq_some h).1, Operand.parameters?]
  unfold render
  rw [hparameters, h]

/-- A condition on two columns renders both. -/
theorem render_inlined {condition : Condition} {source : Column}
    (h : condition.operand = .column source) :
    condition.render = (do
      let column ← condition.target.render
      let other ← source.render
      match condition.operator.template.applyInline column other with
      | .ok text => pure (some text)
      | .error e => throw e) := by
  obtain ⟨target, operator, operand⟩ := condition
  simp only at h
  subst h
  rfl

/-- Any other condition fills its template. -/
theorem render_filled {condition : Condition} {values : List Value}
    (hparameters : condition.parameters? = some values) (hconstant : condition.constant? = none)
    (hcolumn : ∀ source, condition.operand ≠ .column source) :
    condition.render = (do
      let column ← condition.target.render
      let text ← condition.operator.template.apply column values
      pure (some text)) := by
  unfold render
  rw [hparameters]
  simp only [hconstant]

/-- A condition that renders does so in one of the four ways. -/
theorem rendered_of_render {condition : Condition} {s s' : Session} {text : Option String}
    (h : condition.render s = .ok text s') : condition.Rendered s text s' := by
  cases hparameters : condition.parameters? with
  | none =>
      rw [render_absent hparameters] at h
      obtain ⟨rfl, rfl⟩ := Step.pure_eq_ok h
      exact .absent hparameters
  | some values =>
      cases hconstant : condition.constant? with
      | some constant =>
          rw [render_constant hconstant] at h
          obtain ⟨rfl, rfl⟩ := Step.pure_eq_ok h
          exact .constant constant (constant_eq_some hconstant).1 hconstant
      | none =>
          by_cases hoperand : ∃ source, condition.operand = .column source
          · obtain ⟨source, hsource⟩ := hoperand
            rw [render_inlined hsource] at h
            obtain ⟨column, t, htarget, h⟩ := Step.bind_eq_ok h
            obtain ⟨other, u, hother, h⟩ := Step.bind_eq_ok h
            cases htext : condition.operator.template.applyInline column other with
            | ok written =>
                simp only [htext] at h
                obtain ⟨rfl, rfl⟩ := Step.pure_eq_ok h
                exact .inlined column other source written t _ hsource htarget hother htext
            | error e =>
                simp only [htext] at h
                exact absurd h Step.throw_ne_ok
          · have hcolumn : ∀ source, condition.operand ≠ .column source :=
              fun source hsource => hoperand ⟨source, hsource⟩
            rw [render_filled hparameters hconstant hcolumn] at h
            obtain ⟨column, t, htarget, h⟩ := Step.bind_eq_ok h
            obtain ⟨written, u, htext, h⟩ := Step.bind_eq_ok h
            obtain ⟨rfl, rfl⟩ := Step.pure_eq_ok h
            exact .filled column values written t _ hparameters hconstant htarget htext

end Condition

/-! ## Statements -/

/-- The statements that one chain is rendered to. -/
inductive Form where
  /-- All rows. -/
  | rows
  /-- The number of rows. -/
  | count
  /-- One page of the rows. -/
  | page (size offset : Nat)
  deriving DecidableEq, Repr

namespace Statement

/-- Build one of the statements of a chain. -/
def buildAs (statement : Statement) : Form → Catalog.Action BoundStatement
  | .rows => statement.build
  | .count => statement.buildCount
  | .page size offset => statement.buildPage size offset

/-- A built statement is the text and the values of a session that rendered it. -/
theorem buildIn_eq_ok {statement : Statement} {mode : Mode} {catalog catalog' : Catalog}
    {bound : BoundStatement} (h : statement.buildIn mode catalog = .ok bound catalog') :
    ∃ session, statement.render (Session.start mode catalog) = .ok bound.sql session ∧
      bound.params = session.params ∧ bound.result = statement.result ∧
      catalog' = session.close := by
  unfold buildIn at h
  cases hr : statement.render (Session.start mode catalog) with
  | ok sql session =>
      simp only [hr, EStateM.Result.ok.injEq] at h
      obtain ⟨rfl, rfl⟩ := h
      exact ⟨session, rfl, rfl, rfl, rfl⟩
  | error e session =>
      simp only [hr] at h
      cases h

/-- A statement that renders has no fault; its tables are declared in two passes, and then its
segments render. -/
theorem render_eq_ok {statement : Statement} {s s' : Session} {sql : String}
    (h : statement.render s = .ok sql s') :
    statement.fault = none ∧ ∃ us t vs u,
      statement.declarations.mapM Declaration.declareExplicit s = .ok us t ∧
      statement.declarations.mapM Declaration.declareImplicit t = .ok vs u ∧
      Segment.renderAll "" statement.segments u = .ok sql s' := by
  unfold render at h
  cases hf : statement.fault with
  | some fault =>
      simp only [hf] at h
      exact absurd h Step.throw_ne_ok
  | none =>
      simp only [hf] at h
      obtain ⟨us, t, hexplicit, h⟩ := Step.bind_eq_ok h
      obtain ⟨vs, u, himplicit, h⟩ := Step.bind_eq_ok h
      exact ⟨rfl, us, t, vs, u, hexplicit, himplicit, h⟩

/-- The number of rows is counted in place of the select list, or, when rows are grouped, over the
whole statement. -/
theorem buildCount_eq_ok {statement : Statement} {catalog catalog' : Catalog}
    {bound : BoundStatement} (h : statement.buildCount catalog = .ok bound catalog') :
    statement.buildIn .count catalog = .ok bound catalog' ∨
      ∃ body, statement.buildIn .unpaged catalog = .ok body catalog' ∧
        bound =
          { body with sql := "SELECT COUNT(1) FROM (" ++ body.sql ++ ") \x60counted\x60" } := by
  unfold buildCount at h
  by_cases hg : statement.segments.any Segment.isGrouping
  · rw [if_pos hg] at h
    obtain ⟨body, t, hbody, h⟩ := Step.bind_eq_ok h
    obtain ⟨rfl, rfl⟩ := Step.pure_eq_ok h
    exact .inr ⟨body, hbody, rfl⟩
  · rw [if_neg hg] at h
    exact .inl h

end Statement

end QueryLoom

import Mathlib.Data.List.Forall2
import QueryLoom.Proofs.Binding

/-!
# Two runs side by side

Two rendering steps are compared that differ at most in the values they bind.  They agree if, in
sessions that are alike up to bound values, they yield the same or fail with the same error, and
leave sessions that are alike again.

## Main definitions

* `Value.Turns`: a value stays as it is, or is replaced by another one.
* `Session.Alike`: sessions that differ at most in their bound values, which correspond.
* `Render.Agree`: steps that do the same up to bound values.

## Main results

* `Render.Blind.agree`: a step that has nothing to do with bound values agrees with itself.
* `Render.Agree.bind`, `Render.Agree.mapM`: sequences of steps that agree.
-/

namespace QueryLoom

/-- A value stays as it is, or is replaced by another one. -/
def Value.Turns (ρ : Value → Value → Prop) (v w : Value) : Prop := v = w ∨ ρ v w

/-- Sessions that differ at most in their bound values, which correspond to each other one by
one. -/
structure Session.Alike (ρ : Value → Value → Prop) (s t : Session) : Prop where
  same : t = { s with params := t.params }
  params : List.Forall₂ (Value.Turns ρ) s.params t.params

/-- A session is like itself. -/
theorem Session.Alike.refl (ρ : Value → Value → Prop) (s : Session) : s.Alike ρ s :=
  ⟨rfl, List.forall₂_same.mpr fun _ _ => .inl rfl⟩

namespace Render

variable {α β : Type} {ρ : Value → Value → Prop}

/-- The same result or the same error, in sessions that are alike. -/
inductive SameResult (ρ : Value → Value → Prop) :
    EStateM.Result Error Session α → EStateM.Result Error Session α → Prop where
  | ok (a : α) {s t : Session} (h : s.Alike ρ t) : SameResult ρ (.ok a s) (.ok a t)
  | error (e : Error) {s t : Session} (h : s.Alike ρ t) : SameResult ρ (.error e s) (.error e t)

/-- Steps that do the same in sessions that are alike. -/
def Agree (ρ : Value → Value → Prop) (m n : Render α) : Prop :=
  ∀ s t, s.Alike ρ t → SameResult ρ (m s) (n t)

/-- A blind step leaves the bound values as they are, on success and on failure alike. -/
theorem Blind.withParams_self {m : Render α} (h : Blind m) (s : Session) :
    withParams s.params (m s) = m s := (h s s.params).symm

/-- A blind step agrees with itself. -/
theorem Blind.agree {m : Render α} (h : Blind m) : Agree ρ m m := by
  intro s t hst
  have hself := h.withParams_self s
  have hother : m t = withParams t.params (m s) := by
    have hblind := h s t.params
    rwa [← hst.same] at hblind
  rw [hother]
  cases hm : m s with
  | ok a s' =>
      rw [hm] at hself
      simp only [withParams, EStateM.Result.ok.injEq, true_and] at hself
      refine .ok a ⟨rfl, ?_⟩
      rw [← hself]
      exact hst.params
  | error e s' =>
      rw [hm] at hself
      simp only [withParams, EStateM.Result.error.injEq, true_and] at hself
      refine .error e ⟨rfl, ?_⟩
      rw [← hself]
      exact hst.params

namespace Agree

/-- Both steps succeed with the same result, or both fail with the same error. -/
theorem outcome {m n : Render α} (h : Agree ρ m n) {s t : Session} (hst : s.Alike ρ t) :
    (∃ a s' t', m s = .ok a s' ∧ n t = .ok a t' ∧ s'.Alike ρ t') ∨
      ∃ e s' t', m s = .error e s' ∧ n t = .error e t' ∧ s'.Alike ρ t' := by
  have hresults := h s t hst
  generalize hm : m s = r at hresults
  generalize hn : n t = r' at hresults
  cases hresults with
  | ok a hst' => exact .inl ⟨a, _, _, rfl, rfl, hst'⟩
  | error e hst' => exact .inr ⟨e, _, _, rfl, rfl, hst'⟩

/-- Sequences agree if their parts do. -/
theorem bind {m n : Render α} {f g : α → Render β} (hm : Agree ρ m n)
    (hf : ∀ a, Agree ρ (f a) (g a)) : Agree ρ (m >>= f) (n >>= g) := by
  intro s t hst
  show SameResult ρ (EStateM.bind m f s) (EStateM.bind n g t)
  unfold EStateM.bind
  rcases hm.outcome hst with ⟨a, s', t', hms, hnt, hst'⟩ | ⟨e, s', t', hms, hnt, hst'⟩
  · rw [hms, hnt]
    exact hf a s' t' hst'
  · rw [hms, hnt]
    exact .error e hst'

theorem pure (a : α) : Agree ρ (pure a : Render α) (pure a) := (Blind.pure a).agree

/-- Values that correspond are bound. -/
theorem values {vs ws : List Value} (h : List.Forall₂ (Value.Turns ρ) vs ws) :
    Agree ρ (Render.bind vs) (Render.bind ws) := by
  intro s t hst
  refine .ok () ⟨?_, List.rel_append hst.params h⟩
  have hsame := hst.same
  rw [hsame]

/-- Things that agree one by one agree together. -/
theorem mapM {render : α → Render β} {as bs : List α}
    (h : List.Forall₂ (fun a b => Agree ρ (render a) (render b)) as bs) :
    Agree ρ (as.mapM render) (bs.mapM render) := by
  induction h with
  | nil => exact pure []
  | cons head tail ih =>
      rw [List.mapM_cons, List.mapM_cons]
      exact bind head fun b => bind ih fun bs => pure (b :: bs)

end Agree

end Render

end QueryLoom

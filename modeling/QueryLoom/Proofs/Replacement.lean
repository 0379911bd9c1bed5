import QueryLoom.Proofs.Parameters
import QueryLoom.Proofs.TwoRuns

/-!
# Replacing bound values

Two queries may differ in the values that they bind, where a single value stays absent or present
as it was and a list keeps its length.  Rendering them does the same, text and errors alike.

## Main definitions

* `Value.Stands`: a value stays, or is replaced by one that is absent exactly when it was.
* `Operand.Alike`, `Condition.Alike`, `Query.Alike`, `Assignment.Alike`: equal up to replaced
  values.

## Main results

* `Template.agree_apply`: a template looks at the number of values only.
* `Condition.Alike.agree`, `Query.Alike.agree_render`, `Assignments.agree_render`: rendering does
  the same.
-/

namespace QueryLoom

open Render

variable {ρ : Value → Value → Prop}

/-! ## Operands and conditions -/

/-- A value stays, or is replaced by another one that is absent exactly when it was. -/
structure Value.Stands (ρ : Value → Value → Prop) (v w : Value) : Prop where
  turns : v.Turns ρ w
  absent : v.isAbsent = w.isAbsent

/-- Operands that are equal but for replaced values. -/
inductive Operand.Alike (ρ : Value → Value → Prop) : Operand → Operand → Prop where
  | unary : Alike ρ .unary .unary
  | absent : Alike ρ .absent .absent
  | value {v w : Value} (h : v.Stands ρ w) : Alike ρ (.value v) (.value w)
  | range {low low' high high' : Value} (hlow : low.Stands ρ low') (hhigh : high.Stands ρ high') :
      Alike ρ (.range low high) (.range low' high')
  | list {vs ws : List Value} (h : List.Forall₂ (Value.Turns ρ) vs ws) :
      Alike ρ (.list vs) (.list ws)
  | column (c : Column) : Alike ρ (.column c) (.column c)

/-- Conditions that are equal but for replaced values. -/
structure Condition.Alike (ρ : Value → Value → Prop) (c d : Condition) : Prop where
  target : c.target = d.target
  operator : c.operator = d.operator
  operand : c.operand.Alike ρ d.operand

/-- Either both operands have nothing to compare with, or they bind values that correspond. -/
theorem Operand.Alike.parameters {o p : Operand} (h : o.Alike ρ p) :
    (o.parameters? = none ∧ p.parameters? = none) ∨
      ∃ vs ws, o.parameters? = some vs ∧ p.parameters? = some ws ∧
        List.Forall₂ (Value.Turns ρ) vs ws := by
  cases h with
  | unary => exact .inr ⟨[], [], rfl, rfl, .nil⟩
  | absent => exact .inl ⟨rfl, rfl⟩
  | @value v w h =>
      have hv : (Operand.value v).parameters? = if v.isAbsent then none else some [v] := rfl
      have hw : (Operand.value w).parameters? = if v.isAbsent then none else some [w] := by
        rw [h.absent]
        rfl
      rw [hv, hw]
      by_cases habsent : v.isAbsent
      · exact .inl ⟨if_pos habsent, if_pos habsent⟩
      · exact .inr ⟨[v], [w], if_neg habsent, if_neg habsent, .cons h.turns .nil⟩
  | @range low low' high high' hlow hhigh =>
      have hv : (Operand.range low high).parameters? =
          if low.isAbsent || high.isAbsent then none else some [low, high] := rfl
      have hw : (Operand.range low' high').parameters? =
          if low.isAbsent || high.isAbsent then none else some [low', high'] := by
        rw [hlow.absent, hhigh.absent]
        rfl
      rw [hv, hw]
      by_cases habsent : low.isAbsent || high.isAbsent
      · exact .inl ⟨if_pos habsent, if_pos habsent⟩
      · exact .inr ⟨[low, high], [low', high'], if_neg habsent, if_neg habsent,
          .cons hlow.turns (.cons hhigh.turns .nil)⟩
  | @list vs ws h => exact .inr ⟨vs, ws, rfl, rfl, h⟩
  | column c => exact .inr ⟨[], [], rfl, rfl, .nil⟩

/-- Only values are replaced, so columns stand for themselves. -/
theorem Operand.Alike.eq_column_iff {o p : Operand} (h : o.Alike ρ p) (source : Column) :
    o = .column source ↔ p = .column source := by
  cases h with
  | column c => exact Iff.rfl
  | unary => exact Iff.rfl
  | absent => exact Iff.rfl
  | value h => simp
  | range hlow hhigh => simp
  | list h => simp

namespace Condition.Alike

/-- Conditions that are alike are both empty or both not. -/
theorem isEmpty_eq {c d : Condition} (h : c.Alike ρ d) : c.isEmpty = d.isEmpty := by
  unfold isEmpty parameters?
  rcases h.operand.parameters with ⟨hc, hd⟩ | ⟨vs, ws, hc, hd, -⟩
  · rw [hc, hd]
  · rw [hc, hd]
    rfl

/-- They stand for the same constant, since only the emptiness of a list counts. -/
theorem constant_eq {c d : Condition} (h : c.Alike ρ d) : c.constant? = d.constant? := by
  obtain ⟨target, operator, operand⟩ := c
  obtain ⟨target', operator', operand'⟩ := d
  obtain ⟨htarget, hoperator, hoperand⟩ := h
  simp only at htarget hoperator hoperand
  subst htarget hoperator
  cases hoperand with
  | unary => rfl
  | absent => rfl
  | value h => rfl
  | range hlow hhigh => rfl
  | list h =>
      cases h with
      | nil => rfl
      | cons head tail => rfl
  | column c => rfl

end Condition.Alike

/-- The text of a filled template depends on the number of values only. -/
theorem Template.fill_text_congr (column : String) (parts : List Part) {vs ws : List Value}
    (h : vs.length = ws.length) : (fill column parts vs).1 = (fill column parts ws).1 := by
  induction parts generalizing vs ws with
  | nil => rfl
  | cons part rest ih =>
      cases part with
      | text s => exact congrArg (s ++ ·) (ih h)
      | column => exact congrArg (column ++ ·) (ih h)
      | param =>
          cases vs with
          | nil =>
              cases ws with
              | nil => rfl
              | cons w ws => cases h
          | cons v vs =>
              cases ws with
              | nil => cases h
              | cons w ws =>
                  have hrest : vs.length = ws.length := by simpa using h
                  exact congrArg ("?" ++ ·) (ih hrest)
      | params =>
          show placeholders vs.length ++ (fill column rest []).1 =
            placeholders ws.length ++ (fill column rest []).1
          rw [h]

/-- So a template does the same with values that correspond, also when it refuses them. -/
theorem Template.agree_apply (template : Template) (column : String) {vs ws : List Value}
    (h : List.Forall₂ (Value.Turns ρ) vs ws) :
    Agree ρ (template.apply column vs) (template.apply column ws) := by
  have hlength : vs.length = ws.length := h.length_eq
  unfold apply
  rw [← hlength]
  by_cases haccepts : template.accepts vs.length
  · have haccepts' : template.accepts ws.length = true := by rwa [← hlength]
    rw [if_pos haccepts, if_pos haccepts]
    have htext := fill_text_congr column template.parts hlength
    have hv := fill_bound template column vs haccepts
    have hw := fill_bound template column ws haccepts'
    simp only [hv, hw, htext]
    exact Agree.bind (Agree.values h) fun _ => Agree.pure _
  · rw [if_neg haccepts, if_neg haccepts]
    exact (Blind.throw _).agree

/-- Conditions that are alike do the same. -/
theorem Condition.Alike.agree {c d : Condition} (h : c.Alike ρ d) : Agree ρ c.render d.render := by
  have hconstant := h.constant_eq
  rcases h.operand.parameters with ⟨hc, hd⟩ | ⟨vs, ws, hc, hd, hvalues⟩
  · rw [render_absent hc, render_absent hd]
    exact Agree.pure none
  · cases hconst : c.constant? with
    | some text =>
        rw [render_constant hconst, render_constant (hconstant ▸ hconst)]
        exact Agree.pure (some text)
    | none =>
        have hconst' : d.constant? = none := hconstant ▸ hconst
        by_cases hoperand : ∃ source, c.operand = .column source
        · obtain ⟨source, hsource⟩ := hoperand
          have hsource' : d.operand = .column source := (h.operand.eq_column_iff source).mp hsource
          rw [render_inlined hsource, render_inlined hsource', ← h.target, ← h.operator]
          apply Agree.bind c.target.blind_render.agree
          intro column
          apply Agree.bind source.blind_render.agree
          intro other
          cases c.operator.template.applyInline column other with
          | ok text => exact Agree.pure (some text)
          | error e => exact (Blind.throw e).agree
        · have hcolumn : ∀ source, c.operand ≠ .column source :=
            fun source hsource => hoperand ⟨source, hsource⟩
          have hcolumn' : ∀ source, d.operand ≠ .column source :=
            fun source hsource => hcolumn source ((h.operand.eq_column_iff source).mpr hsource)
          rw [render_filled hc hconst hcolumn, render_filled hd hconst' hcolumn', ← h.target,
            ← h.operator]
          apply Agree.bind c.target.blind_render.agree
          intro column
          apply Agree.bind (Template.agree_apply _ column hvalues)
          intro text
          exact Agree.pure (some text)

/-! ## Queries -/

/-- Queries that are built by the same calls but for replaced values. -/
inductive Query.Alike (ρ : Value → Value → Prop) : Query → Query → Prop where
  | empty : Alike ρ .empty .empty
  | addCondition (conjunction : Conjunction) {q r : Query} {c d : Condition} (hquery : Alike ρ q r)
      (hcondition : c.Alike ρ d) :
      Alike ρ (q.addCondition conjunction c) (r.addCondition conjunction d)
  | addQuery (conjunction : Conjunction) {q r inner inner' : Query} (hquery : Alike ρ q r)
      (hinner : Alike ρ inner inner') :
      Alike ρ (q.addQuery conjunction inner) (r.addQuery conjunction inner')

namespace Query.Alike

/-- Queries that are alike have as many members. -/
theorem length_eq {q r : Query} (h : q.Alike ρ r) :
    q.length = r.length ∧ q.isEmpty = r.isEmpty := by
  induction h with
  | empty => exact ⟨rfl, rfl⟩
  | @addCondition conjunction q r c d hquery hcondition ih =>
      unfold Query.addCondition
      rw [hcondition.isEmpty_eq]
      by_cases hempty : d.isEmpty
      · rw [if_pos hempty, if_pos hempty]
        exact ih
      · rw [if_neg hempty, if_neg hempty]
        exact ⟨congrArg (· + 1) ih.1, rfl⟩
  | @addQuery conjunction q r inner inner' hquery hinner ih ihInner =>
      unfold Query.addQuery
      rw [ihInner.2]
      by_cases hempty : inner'.isEmpty
      · rw [if_pos hempty, if_pos hempty]
        exact ih
      · rw [if_neg hempty, if_neg hempty]
        exact ⟨congrArg (· + 1) ih.1, rfl⟩

/-- Their members do the same. -/
theorem agree_renderMembers {q r : Query} (h : q.Alike ρ r) :
    Agree ρ q.renderMembers r.renderMembers := by
  induction h with
  | empty => exact Agree.pure ""
  | @addCondition conjunction q r c d hquery hcondition ih =>
      unfold Query.addCondition
      rw [hcondition.isEmpty_eq]
      by_cases hempty : d.isEmpty
      · rw [if_pos hempty, if_pos hempty]
        exact ih
      · rw [if_neg hempty, if_neg hempty]
        unfold Query.renderMembers
        rw [hquery.length_eq.2]
        refine Agree.bind ih fun text => Agree.bind hcondition.agree fun member => ?_
        exact Agree.pure _
  | @addQuery conjunction q r inner inner' hquery hinner ih ihInner =>
      unfold Query.addQuery
      rw [hinner.length_eq.2]
      by_cases hempty : inner'.isEmpty
      · rw [if_pos hempty, if_pos hempty]
        exact ih
      · rw [if_neg hempty, if_neg hempty]
        unfold Query.renderMembers
        rw [hquery.length_eq.2, hinner.length_eq.1]
        refine Agree.bind ih fun text => Agree.bind ihInner fun member => ?_
        exact Agree.pure _

/-- So they render alike. -/
theorem agree_render {q r : Query} (h : q.Alike ρ r) : Agree ρ q.render r.render := by
  unfold Query.render
  rw [h.length_eq.2]
  by_cases hempty : r.isEmpty
  · rw [if_pos hempty, if_pos hempty]
    exact Agree.pure none
  · rw [if_neg hempty, if_neg hempty]
    exact Agree.bind h.agree_renderMembers fun text => Agree.pure (some text)

end Query.Alike

/-! ## Assignments -/

/-- Assignments that are equal but for replaced values. -/
inductive Assignment.Alike (ρ : Value → Value → Prop) : Assignment → Assignment → Prop where
  | value (target : Column) {v w : Value} (h : v.Turns ρ w) :
      Alike ρ ⟨target, .value v⟩ ⟨target, .value w⟩
  | column (target source : Column) : Alike ρ ⟨target, .column source⟩ ⟨target, .column source⟩

theorem Assignment.Alike.agree {a b : Assignment} (h : a.Alike ρ b) :
    Agree ρ (Assignments.renderOne a) (Assignments.renderOne b) := by
  unfold Assignments.renderOne
  cases h with
  | value target h =>
      apply Agree.bind target.blind_render.agree
      intro text
      exact Agree.bind (Agree.values (.cons h .nil)) fun _ => Agree.pure _
  | column target source =>
      apply Agree.bind target.blind_render.agree
      intro text
      exact Agree.bind source.blind_render.agree fun other => Agree.pure _

/-- SET lists whose assignments are alike do the same. -/
theorem Assignments.agree_render {as bs : Assignments}
    (h : List.Forall₂ (Assignment.Alike ρ) as bs) : Agree ρ as.render bs.render := by
  have hempty : as.isEmpty = bs.isEmpty := by
    cases h with
    | nil => rfl
    | cons head tail => rfl
  have heach := Agree.mapM (h.imp fun _ _ hab => hab.agree)
  unfold render
  rw [hempty]
  by_cases hb : bs.isEmpty
  · rw [if_pos hb, if_pos hb]
    exact Agree.pure none
  · rw [if_neg hb, if_neg hb]
    exact Agree.bind heach fun texts => Agree.pure _

end QueryLoom

import QueryLoom.Proofs.Settled
import QueryLoom.Proofs.Templates

/-!
# The text of a filled template

A template behind its column is made of glue with slots in between.  A filled slot holds as many
placeholders as it binds values, so the text as a whole is settled and has a placeholder for each
value.

## Main definitions

* `Template.Tail`: the parts of a template behind its column.

## Main results

* `Operator.exists_tail`: the templates of the operators have such tails.
* `Operator.settled_fill`, `Operator.settled_inline`: their texts are settled.
-/

namespace QueryLoom

open Dialect

/-! ## Templates -/

/-- The parts of a template behind its column: glue, with slots for values in between. -/
inductive Template.Tail : List Part → Prop where
  | nil : Tail []
  | glue {s : String} (hs : Glue s) : Tail [.text s]
  | slot {s : String} {p : Part} {rest : List Part} (hs : Glue s) (hp : p = .param ∨ p = .params)
      (htail : Tail rest) : Tail (.text s :: p :: rest)

/-- Every operator's template is a column with such a tail. -/
theorem Operator.exists_tail (operator : Operator) :
    ∃ tail, operator.template.parts = .column :: tail ∧ Template.Tail tail := by
  -- only the patterns of LIKE bring literals of their own
  have hpattern : Glue " LIKE CONCAT('%', " :=
    ⟨⟨lex " LIKE CONCAT('%', ", fun _ _ => rfl, by decide, by decide⟩, by decide, by decide⟩
  have hclosing : Glue ", '%')" :=
    ⟨⟨lex ", '%')", fun _ _ => rfl, by decide, by decide⟩, by decide, by decide⟩
  have hbare : ∀ s, Bare s → s.toList ≠ [] → Glue s := fun s => Bare.glue
  rw [Operator.parts_of_template]
  cases operator with
  | like => exact ⟨_, rfl, .slot hpattern (.inl rfl) (.glue hclosing)⟩
  | likeLeft =>
      exact ⟨_, rfl, .slot (hbare _ (by decide) (by decide)) (.inl rfl) (.glue hclosing)⟩
  | likeRight =>
      exact ⟨_, rfl, .slot hpattern (.inl rfl) (.glue (hbare _ (by decide) (by decide)))⟩
  | isNull => exact ⟨_, rfl, .glue (hbare _ (by decide) (by decide))⟩
  | notNull => exact ⟨_, rfl, .glue (hbare _ (by decide) (by decide))⟩
  | isIn | notIn =>
      exact ⟨_, rfl, .slot (hbare _ (by decide) (by decide)) (.inr rfl)
        (.glue (hbare _ (by decide) (by decide)))⟩
  | between =>
      exact ⟨_, rfl, .slot (hbare _ (by decide) (by decide)) (.inl rfl)
        (.slot (hbare _ (by decide) (by decide)) (.inl rfl) .nil)⟩
  | eq | ne | gt | gte | lt | lte =>
      exact ⟨_, rfl, .slot (hbare _ (by decide) (by decide)) (.inl rfl) .nil⟩

/-- One placeholder for each value of a list. -/
theorem complete_placeholders (n : Nat) : Complete (Template.placeholders n) n := by
  have hone : Complete "?" 1 := ⟨lex "?", fun _ _ => rfl, by decide, by decide⟩
  have hnext : Complete "?, " 1 := ⟨lex "?, ", fun _ _ => rfl, by decide, by decide⟩
  induction n with
  | zero =>
      have hbare : Bare "" := by decide
      exact hbare.complete
  | succ n ih =>
      cases n with
      | zero => exact hone
      | succ n =>
          have hboth := hnext.append ih
          rwa [Nat.add_comm 1 (n + 1)] at hboth

namespace Template

/-- Filling behind a settled text writes a placeholder for each value that it binds, if there are
enough values and a list stands alone. -/
theorem Tail.settled_fill {parts : List Part} (htail : Tail parts) (column : String)
    {before : String} {m : Nat} (hbefore : Settled before m) {values : List Value}
    (halone : .params ∈ parts → parts.countP (· == .param) = 0)
    (henough : parts.countP (· == .param) ≤ values.length) :
    Settled (before ++ (fill column parts values).1) (m + (fill column parts values).2.length) := by
  induction htail generalizing before m values with
  | nil => simpa [fill] using hbefore
  | @glue s hs =>
      have hglued : Settled (before ++ s) m := (hbefore.glued hs).settled
      simpa [fill] using hglued
  | @slot s p rest hs hp htail ih =>
      have hglued : Complete (before ++ s) m := hbefore.glued hs
      rcases hp with rfl | rfl
      · cases values with
        | nil => simp at henough
        | cons value values =>
            have hmark : Complete "?" 1 := complete_placeholders 1
            have hslot : Settled (before ++ s ++ "?") (m + 1) := (hglued.append hmark).settled
            have hrest := @ih (before ++ s ++ "?") (m + 1) hslot values
              (fun hmem => absurd (halone (by simp [hmem])) (by simp)) (by simpa using henough)
            simpa [fill, String.append_assoc, Nat.add_assoc, Nat.add_comm 1] using hrest
      · have hzero : rest.countP (· == .param) = 0 := by simpa using halone (by simp)
        have hmarks := complete_placeholders values.length
        have hslot : Settled (before ++ s ++ placeholders values.length) (m + values.length) :=
          (hglued.append hmarks).settled
        have hrest := @ih _ _ hslot [] (fun _ => hzero) (by simp [hzero])
        simpa [fill, String.append_assoc, Nat.add_assoc] using hrest

/-- Another column may stand in every slot. -/
theorem Tail.settled_inline {parts : List Part} (htail : Tail parts) (column : String)
    {before other : String} (hbefore : Settled before 0) (hother : Settled other 0) :
    Settled (before ++ inline column other parts) 0 := by
  induction htail generalizing before with
  | nil => simpa [inline] using hbefore
  | @glue s hs =>
      have hglued : Settled (before ++ s) 0 := (hbefore.glued hs).settled
      simpa [inline] using hglued
  | @slot s p rest hs hp htail ih =>
      have hslot : Settled (before ++ s ++ other) 0 := hbefore.between hs hother
      have hrest := ih hslot
      rcases hp with rfl | rfl
      · simpa [inline, String.append_assoc] using hrest
      · simpa [inline, String.append_assoc] using hrest

/-- A list stands alone in a template that accepts some number of values, and single values are
accepted only when there are enough. -/
theorem enough_of_accepts {template : Template} {n : Nat} (h : template.accepts n = true) :
    (.params ∈ template.parts → template.parts.countP (· == .param) = 0) ∧
      template.parts.countP (· == .param) ≤ n := by
  unfold accepts variadic fixed at h
  by_cases hv : template.parts.contains .params
  · rw [if_pos hv] at h
    simp only [Bool.and_eq_true, beq_iff_eq] at h
    have hzero := h.1
    exact ⟨fun _ => hzero, by omega⟩
  · rw [if_neg hv] at h
    have hfixed := beq_iff_eq.mp h
    refine ⟨fun hmem => absurd (List.contains_iff_mem.mpr hmem) hv, ?_⟩
    omega

end Template

/-- The filled template of an operator has a placeholder for each value. -/
theorem Operator.settled_fill (operator : Operator) {column : String} {values : List Value}
    (hcolumn : Settled column 0) (haccepts : operator.template.accepts values.length = true) :
    Settled (Template.fill column operator.template.parts values).1 values.length := by
  obtain ⟨tail, hparts, htail⟩ := operator.exists_tail
  have hbound := Template.fill_bound operator.template column values haccepts
  obtain ⟨halone, henough⟩ := Template.enough_of_accepts haccepts
  rw [hparts] at hbound halone henough ⊢
  have htext := htail.settled_fill column hcolumn
    (fun hmem => by simpa using halone (by simp [hmem])) (by simpa using henough)
  have hlength : (Template.fill column tail values).2.length = values.length :=
    congrArg List.length hbound
  rw [hlength, Nat.zero_add] at htext
  exact htext

/-- The template of an operator with another column has none. -/
theorem Operator.settled_inline (operator : Operator) {column other : String}
    (hcolumn : Settled column 0) (hother : Settled other 0) :
    Settled (Template.inline column other operator.template.parts) 0 := by
  obtain ⟨tail, hparts, htail⟩ := operator.exists_tail
  rw [hparts]
  exact htail.settled_inline column hcolumn hother

end QueryLoom

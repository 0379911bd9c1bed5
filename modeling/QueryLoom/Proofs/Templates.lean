import QueryLoom.Proofs.Rendering

/-!
# Filling templates

A template that accepts a number of values binds exactly these values, in order, when it is filled
with them.  The values are used up one by one by the single placeholders, or all at once by the
placeholder of a list.

## Main results

* `Template.fill_bound`: an accepted list of values is bound as it stands.
* `Template.apply_of_accepts`, `Template.apply_of_not_accepts`, `Template.apply_eq_ok`: what filling
  a template does.
* `Operator.parts_of_template`: the parts of the operators' templates.
-/

namespace QueryLoom

namespace Template

/-- Without values nothing is bound. -/
theorem fill_bound_nil (column : String) (parts : List Part) :
    (fill column parts []).2 = [] := by
  induction parts with
  | nil => rfl
  | cons part rest ih =>
      cases part with
      | text s => exact ih
      | column => exact ih
      | param => exact ih
      | params => exact ih

/-- A list's placeholder takes every value that is there. -/
private theorem fill_bound_variadic (column : String) (parts : List Part) (values : List Value)
    (hfixed : parts.countP (· == .param) = 0) (hvariadic : .params ∈ parts) :
    (fill column parts values).2 = values := by
  induction parts with
  | nil => cases hvariadic
  | cons part rest ih =>
      cases part with
      | text s =>
          have hrest : .params ∈ rest := by simpa using hvariadic
          exact ih (by simpa using hfixed) hrest
      | column =>
          have hrest : .params ∈ rest := by simpa using hvariadic
          exact ih (by simpa using hfixed) hrest
      | param => simp at hfixed
      | params =>
          show values ++ (fill column rest []).2 = values
          rw [fill_bound_nil, List.append_nil]

/-- Single placeholders take one value each. -/
private theorem fill_bound_fixed (column : String) (parts : List Part) (values : List Value)
    (hfixed : values.length = parts.countP (· == .param)) (hvariadic : .params ∉ parts) :
    (fill column parts values).2 = values := by
  induction parts generalizing values with
  | nil =>
      have hnil : values = [] := List.length_eq_zero_iff.mp (by simpa using hfixed)
      rw [hnil]
      rfl
  | cons part rest ih =>
      have hrest : .params ∉ rest := fun h => hvariadic (List.mem_cons_of_mem _ h)
      cases part with
      | text s => exact ih values (by simpa using hfixed) hrest
      | column => exact ih values (by simpa using hfixed) hrest
      | param =>
          cases values with
          | nil => simp at hfixed
          | cons value values =>
              have ihRest := ih values (by simpa using hfixed) hrest
              show value :: (fill column rest values).2 = value :: values
              rw [ihRest]
      | params => exact absurd (List.mem_cons_self) hvariadic

/-- A template binds the values that it accepts, all of them and in their order. -/
theorem fill_bound (template : Template) (column : String) (values : List Value)
    (h : template.accepts values.length = true) :
    (fill column template.parts values).2 = values := by
  unfold accepts at h
  by_cases hv : template.variadic
  · rw [if_pos hv] at h
    simp only [Bool.and_eq_true, beq_iff_eq, fixed] at h
    exact fill_bound_variadic column template.parts values h.1
      (List.contains_iff_mem.mp hv)
  · rw [if_neg hv] at h
    have hmem : .params ∉ template.parts := fun hmem => hv (List.contains_iff_mem.mpr hmem)
    exact fill_bound_fixed column template.parts values (by simpa [fixed] using h) hmem

/-- A template that accepts the values binds them while its text is written. -/
theorem apply_of_accepts {template : Template} {values : List Value}
    (h : template.accepts values.length = true) (column : String) (s : Session) :
    template.apply column values s =
      .ok (fill column template.parts values).1 { s with params := s.params ++ values } := by
  have hbind : Render.bind (fill column template.parts values).2 s =
      .ok () { s with params := s.params ++ values } := by
    rw [fill_bound template column values h]
    rfl
  unfold apply
  rw [if_pos h]
  exact Step.bind_of_ok hbind

/-- A template that does not accept the values leaves the session alone. -/
theorem apply_of_not_accepts {template : Template} {values : List Value}
    (h : template.accepts values.length = false) (column : String) (s : Session) :
    template.apply column values s =
      .error (.validation (.parameterCount template.source values.length)) s := by
  unfold apply
  rw [h]
  rfl

/-- So a template that is filled accepts the values. -/
theorem apply_eq_ok {template : Template} {column text : String} {values : List Value}
    {s s' : Session} (h : template.apply column values s = .ok text s') :
    template.accepts values.length = true ∧ text = (fill column template.parts values).1 ∧
      s' = { s with params := s.params ++ values } := by
  cases haccepts : template.accepts values.length with
  | true =>
      rw [apply_of_accepts haccepts] at h
      cases h
      exact ⟨rfl, rfl, rfl⟩
  | false =>
      rw [apply_of_not_accepts haccepts] at h
      cases h

/-- Only a template of a single value has a text with another column. -/
theorem applyInline_eq_ok {template : Template} {column other text : String}
    (h : template.applyInline column other = .ok text) :
    text = inline column other template.parts := by
  unfold applyInline at h
  split at h
  · cases h
  · cases h
    rfl

/-- A template with a text in it is never filled to nothing. -/
theorem fill_ne_empty (column : String) {parts : List Part} (values : List Value) {s : String}
    (hs : s ≠ "") (hmem : .text s ∈ parts) : (fill column parts values).1 ≠ "" := by
  induction parts generalizing values with
  | nil => cases hmem
  | cons part rest ih =>
      intro hempty
      rcases List.mem_cons.mp hmem with rfl | hrest
      · have hboth : s ++ (fill column rest values).1 = "" := hempty
        exact hs (String.append_eq_empty_iff.mp hboth).1
      · cases part with
        | text t => exact ih values hrest (String.append_eq_empty_iff.mp hempty).2
        | column => exact ih values hrest (String.append_eq_empty_iff.mp hempty).2
        | param =>
            cases values with
            | nil => exact ih [] hrest (String.append_eq_empty_iff.mp hempty).2
            | cons value values => exact ih values hrest (String.append_eq_empty_iff.mp hempty).2
        | params => exact ih [] hrest (String.append_eq_empty_iff.mp hempty).2

/-- Nor is it with another column in place of the value. -/
theorem inline_ne_empty (column other : String) {parts : List Part} {s : String}
    (hs : s ≠ "") (hmem : .text s ∈ parts) : inline column other parts ≠ "" := by
  induction parts with
  | nil => cases hmem
  | cons part rest ih =>
      intro hempty
      rcases List.mem_cons.mp hmem with rfl | hrest
      · exact hs (String.append_eq_empty_iff.mp hempty).1
      · cases part with
        | text t => exact ih hrest (String.append_eq_empty_iff.mp hempty).2
        | column => exact ih hrest (String.append_eq_empty_iff.mp hempty).2
        | param => exact ih hrest (String.append_eq_empty_iff.mp hempty).2
        | params => exact ih hrest (String.append_eq_empty_iff.mp hempty).2

end Template

/-- The parts of an operator's template: the column, and what is compared with it. -/
theorem Operator.parts_of_template (operator : Operator) :
    operator.template.parts =
      match operator with
      | .eq => [.column, .text " = ", .param]
      | .ne => [.column, .text " != ", .param]
      | .gt => [.column, .text " > ", .param]
      | .gte => [.column, .text " >= ", .param]
      | .lt => [.column, .text " < ", .param]
      | .lte => [.column, .text " <= ", .param]
      | .like => [.column, .text " LIKE CONCAT('%', ", .param, .text ", '%')"]
      | .likeLeft => [.column, .text " LIKE CONCAT(", .param, .text ", '%')"]
      | .likeRight => [.column, .text " LIKE CONCAT('%', ", .param, .text ")"]
      | .isIn => [.column, .text " IN (", .params, .text ")"]
      | .notIn => [.column, .text " NOT IN (", .params, .text ")"]
      | .isNull => [.column, .text " IS NULL"]
      | .notNull => [.column, .text " IS NOT NULL"]
      | .between => [.column, .text " BETWEEN ", .param, .text " AND ", .param] := by
  cases operator <;> rfl

/-- Every operator's template has a text in it. -/
theorem Operator.exists_text (operator : Operator) :
    ∃ s, s ≠ "" ∧ Part.text s ∈ operator.template.parts := by
  rw [parts_of_template]
  cases operator <;> exact ⟨_, by decide, List.mem_cons_of_mem _ List.mem_cons_self⟩

end QueryLoom

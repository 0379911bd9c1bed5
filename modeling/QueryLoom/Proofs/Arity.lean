import QueryLoom.Proofs.EmptyMembers
import QueryLoom.Proofs.Fields

/-!
# How many values a condition takes

A condition is built from any operator and any operand, and whether the two fit is found out when
it is rendered.  The check comes before anything is bound: a template that refuses its values leaves
the session alone, and apart from the template a condition only writes columns.  So a refused
condition leaves the bound values as they were.

Two operands do not go through that check.  Another column is written in place of a value and needs
an operator with one placeholder, and membership in an empty list is written as a constant.

## Main definitions

* `Operator.isSingle`, `Operator.isMembership`: the operators with one placeholder, and those with a
  list of them.
* `Operator.Admits`: which operands an operator can be given.
* `Condition.Resolves`: the columns of a condition can be written.
* `Condition.Checked`: what comes of a condition whose columns can be written.

## Main results

* `Operator.accepts_template_iff`, `Operator.applyInline_template`: what the templates take.
* `Condition.resolves_of_declared`: columns can be written if their fields are declared.
* `Condition.checked_render`: a condition is empty, written or refused, as its operand says.
* `arity_is_checked_before_binding`: the summary.
-/

namespace QueryLoom

/-! ## Operators and operands -/

namespace Operator

/-- The operators with exactly one placeholder: comparisons and patterns. -/
def isSingle : Operator → Bool
  | .eq | .ne | .gt | .gte | .lt | .lte | .like | .likeLeft | .likeRight => true
  | .isIn | .notIn | .isNull | .notNull | .between => false

/-- The operators with a list of placeholders. -/
def isMembership : Operator → Bool
  | .isIn | .notIn => true
  | _ => false

/-- The numbers of values that an operator takes. -/
def Takes (operator : Operator) (count : Nat) : Prop :=
  match operator with
  | .isNull | .notNull => count = 0
  | .between => count = 2
  | .isIn | .notIn => 1 ≤ count
  | _ => count = 1

/-- The operands that an operator can be given: a column in place of a single value, as many values
as it takes, and for membership the empty list too. -/
def Admits (operator : Operator) : Operand → Prop
  | .column _ => operator.isSingle = true
  | operand => operator.Takes operand.count ∨ operator.isMembership = true ∧ operand = .list []

/-- The template of an operator takes as many values as the operator. -/
theorem accepts_template_iff (operator : Operator) (count : Nat) :
    operator.template.accepts count = true ↔ operator.Takes count := by
  rw [accepts_template]
  cases operator <;> simp [Takes, Nat.one_le_iff_ne_zero]

/-- Only an operator with one placeholder can be written with another column. -/
theorem applyInline_template (operator : Operator) (column other : String) :
    operator.template.applyInline column other =
      if operator.isSingle then .ok (Template.inline column other operator.template.parts)
      else .error (.validation (.columnOperand operator.source)) := by
  unfold Template.applyInline Template.variadic Template.fixed
  rw [operator.parts_of_template]
  cases operator <;> rfl

/-- Any operand but a column is admitted by its number of values, unless it is the empty list. -/
theorem admits_iff {operator : Operator} {operand : Operand}
    (hcolumn : ∀ source, operand ≠ .column source) :
    operator.Admits operand ↔
      operator.Takes operand.count ∨ operator.isMembership = true ∧ operand = .list [] := by
  cases operand with
  | column source => exact absurd rfl (hcolumn source)
  | _ => exact Iff.rfl

end Operator

/-! ## Conditions -/

/-- A column is written if the entities in play are told apart by their type paths and declare its
field. -/
theorem Column.exists_render {known : Entity → Prop} (hunambiguous : Unambiguous known)
    (column : Column) {s : Session} (hvisited : s.catalog.Visited known)
    (hknown : ∀ e ∈ column.entities, known e)
    (hdeclared : ∀ f ∈ column.fields, f.undeclared = false) :
    ∃ text t, column.render s = .ok text t ∧ t.catalog.Visited known := by
  obtain ⟨hmatches, hwithin⟩ := @Column.tells_render known ⟨s.aliases, s.mode⟩ column hknown s
    ⟨hvisited, rfl, rfl⟩
  obtain ⟨text, htext⟩ : ∃ text, column.direct s.aliases = .ok text := by
    cases column with
    | field f => exact Field.exists_direct (hdeclared f List.mem_cons_self) s.aliases
    | raw text => exact ⟨_, rfl⟩
  have houtcome := (hmatches.eq hunambiguous).trans htext
  exact ⟨text, _, Step.eq_ok_of_outcome houtcome, hwithin.catalog⟩

namespace Condition

/-- The columns of a condition can be written, one after the other. -/
def Resolves (c : Condition) (s : Session) : Prop :=
  ∃ column t, c.target.render s = .ok column t ∧
    ∀ source, c.operand = .column source → ∃ other u, source.render t = .ok other u

variable {c : Condition} {s : Session}

/-- The columns of a condition can be written if the entities in play are told apart by their type
paths and declare the fields. -/
theorem resolves_of_declared {known : Entity → Prop} (hunambiguous : Unambiguous known)
    (hvisited : s.catalog.Visited known) (hknown : ∀ e ∈ c.entities, known e)
    (htarget : ∀ f ∈ c.target.fields, f.undeclared = false)
    (hsource : ∀ source, c.operand = .column source → ∀ f ∈ source.fields, f.undeclared = false) :
    c.Resolves s := by
  obtain ⟨hentities, hothers⟩ := List.forall_mem_append.mp hknown
  obtain ⟨column, t, hcolumn, hvisited'⟩ :=
    c.target.exists_render hunambiguous hvisited hentities htarget
  refine ⟨column, t, hcolumn, fun source hoperand => ?_⟩
  rw [hoperand] at hothers
  obtain ⟨other, u, hother, -⟩ :=
    source.exists_render hunambiguous hvisited' hothers (hsource source hoperand)
  exact ⟨other, u, hother⟩

/-- Why a condition is refused: for its column, or for its number of values. -/
def misfit (c : Condition) : ValidationFault :=
  match c.operand with
  | .column _ => .columnOperand c.operator.source
  | operand => .parameterCount c.operator.source operand.count

/-- What comes of a condition whose columns can be written. -/
inductive Checked (c : Condition) (s : Session) :
    EStateM.Result Error Session (Option String) → Prop where
  /-- There is nothing to compare with. -/
  | empty (hmissing : c.operand.isMissing = true) : Checked c s (.ok none s)
  /-- The operator admits the operand, all of whose values are bound. -/
  | written (text : String) (s' : Session) (hpresent : c.operand.isMissing = false)
      (hadmits : c.operator.Admits c.operand)
      (hparams : s'.params = s.params ++ c.parameters?.getD []) : Checked c s (.ok (some text) s')
  /-- The operator does not admit the operand, none of whose values is bound. -/
  | refused (s' : Session) (hpresent : c.operand.isMissing = false)
      (hadmits : ¬c.operator.Admits c.operand) (hparams : s'.params = s.params) :
      Checked c s (.error (.validation c.misfit) s')

/-- Membership in the empty list, and only that, is written as a constant. -/
theorem isSome_constant_iff (c : Condition) :
    c.constant?.isSome = true ↔ c.operator.isMembership = true ∧ c.operand = .list [] := by
  obtain ⟨target, operator, operand⟩ := c
  cases operand with
  | list values =>
      cases values with
      | nil => cases operator <;> simp [constant?, Operator.isMembership]
      | cons value values => simp [constant?]
  | _ => simp [constant?]

/-- A column writes a name and binds nothing. -/
private theorem params_of_column {column : Column} {name : String} {t : Session}
    (h : column.render s = .ok name t) : t.params = s.params := by
  have hbinds := column.blind_render.binds s name t h
  rwa [List.append_nil] at hbinds

/-- A comparison with another column is checked when both columns are written. -/
theorem checked_column (h : c.Resolves s) {source : Column}
    (hoperand : c.operand = .column source) : c.Checked s (c.render s) := by
  obtain ⟨column, t, htarget, hsource⟩ := h
  obtain ⟨other, u, hother⟩ := hsource source hoperand
  have hparams : u.params = s.params :=
    (params_of_column hother).trans (params_of_column htarget)
  have hpresent : c.operand.isMissing = false := by
    rw [hoperand]
    rfl
  have hadmits : c.operator.Admits c.operand ↔ c.operator.isSingle = true := by
    rw [hoperand]
    exact Iff.rfl
  have hvalues : c.parameters? = some [] := by
    rw [parameters?, hoperand]
    rfl
  have hmisfit : c.misfit = .columnOperand c.operator.source := by
    rw [misfit, hoperand]
  rw [render_inlined hoperand, Step.bind_of_ok htarget, Step.bind_of_ok hother,
    Operator.applyInline_template]
  cases hsingle : c.operator.isSingle with
  | true =>
      refine .written _ u hpresent (hadmits.mpr hsingle) ?_
      rw [hparams, hvalues, Option.getD_some, List.append_nil]
  | false =>
      have hrefused : ¬c.operator.Admits c.operand := by
        rw [hadmits, hsingle]
        exact Bool.noConfusion
      rw [← hmisfit]
      exact .refused u hpresent hrefused hparams

/-- A comparison with values is checked when its template is filled. -/
theorem checked_values (h : c.Resolves s) {values : List Value}
    (hvalues : c.parameters? = some values) (hconstant : c.constant? = none)
    (hcolumn : ∀ source, c.operand ≠ .column source) : c.Checked s (c.render s) := by
  obtain ⟨column, t, htarget, -⟩ := h
  have hpresent : c.operand.isMissing = false := by
    rw [← c.isEmpty_eq_isMissing, isEmpty, hvalues]
    rfl
  have hcount : values.length = c.operand.count := Operand.length_parameters hvalues
  have hadmits :
      c.operator.Admits c.operand ↔ c.operator.template.accepts values.length = true := by
    rw [Operator.admits_iff hcolumn, ← isSome_constant_iff, hconstant, hcount,
      Operator.accepts_template_iff]
    exact or_iff_left Bool.noConfusion
  have hmisfit : c.misfit = .parameterCount c.operator.template.source values.length := by
    rw [misfit, hcount]
    split
    · next source hoperand => exact absurd hoperand (hcolumn source)
    · rfl
  rw [render_filled hvalues hconstant hcolumn, Step.bind_of_ok htarget]
  cases haccepts : c.operator.template.accepts values.length with
  | true =>
      rw [Step.bind_of_ok (Template.apply_of_accepts haccepts column t)]
      refine .written _ _ hpresent (hadmits.mpr haccepts) ?_
      rw [params_of_column htarget, hvalues, Option.getD_some]
  | false =>
      rw [Step.bind_of_error (Template.apply_of_not_accepts haccepts column t)]
      have hrefused : ¬c.operator.Admits c.operand := by
        rw [hadmits, haccepts]
        exact Bool.noConfusion
      rw [← hmisfit]
      exact .refused t hpresent hrefused (params_of_column htarget)

/-- A condition whose columns can be written is empty, written or refused, as its operand says. -/
theorem checked_render (h : c.Resolves s) : c.Checked s (c.render s) := by
  cases hvalues : c.parameters? with
  | none =>
      have hmissing : c.operand.isMissing = true := by
        rw [← c.isEmpty_eq_isMissing, isEmpty, hvalues]
        rfl
      rw [render_absent hvalues]
      exact .empty hmissing
  | some values =>
      by_cases hcolumn : ∃ source, c.operand = .column source
      · obtain ⟨source, hoperand⟩ := hcolumn
        exact checked_column h hoperand
      · rw [not_exists] at hcolumn
        cases hconstant : c.constant? with
        | none => exact checked_values h hvalues hconstant hcolumn
        | some text =>
            -- the template would refuse the empty list, so it is not asked
            obtain ⟨hmembership, hoperand⟩ :=
              c.isSome_constant_iff.mp (by rw [hconstant, Option.isSome_some])
            rw [render_constant hconstant]
            refine .written text s ?_ ((Operator.admits_iff hcolumn).mpr
              (.inr ⟨hmembership, hoperand⟩)) ?_
            · rw [hoperand]
              rfl
            · rw [parameters?, hoperand]
              exact (List.append_nil _).symm

end Condition

/-- A condition whose columns can be written has no text exactly when its operand is missing; it has
one exactly when the operand is present and the operator admits it; and in every other case it is
refused by a check, with the bound values as they were before. -/
theorem arity_is_checked_before_binding (c : Condition) (s : Session) (h : c.Resolves s) :
    ((∃ s', c.render s = .ok none s') ↔ c.operand.isMissing = true) ∧
      ((∃ text s', c.render s = .ok (some text) s') ↔
        c.operand.isMissing = false ∧ c.operator.Admits c.operand) ∧
      (c.operand.isMissing = false → ¬c.operator.Admits c.operand →
        ∃ s', c.render s = .error (.validation c.misfit) s' ∧ s'.params = s.params) := by
  have hchecked := Condition.checked_render h
  generalize c.render s = result at hchecked
  cases hchecked with
  | empty hmissing => simp [hmissing]
  | written text s' hpresent hadmits => simp [hpresent, hadmits]
  | refused s' hpresent hadmits hparams => simp [hpresent, hadmits, hparams]

/-- `BETWEEN` with a list of one value is refused, and a value that was bound before stays bound;
equality of two columns is written. -/
theorem one_bound_is_refused :
    let s : Session := { Session.start .full (.empty 0) with params := [.bool true] }
    (∃ s', (Condition.mk (.raw "u.age") .between (.list [.int 18])).render s =
      .error (.validation (.parameterCount Operator.between.source 1)) s' ∧
        s'.params = [.bool true]) ∧
    ∃ text s', (Condition.mk (.field ⟨.user, "name"⟩) .eq (.column (.field ⟨.user, "id"⟩))).render
      s = .ok (some text) s' := by
  intro s
  obtain ⟨-, -, hrefused⟩ := arity_is_checked_before_binding
    ⟨.raw "u.age", .between, .list [.int 18]⟩ s
    ⟨_, s, rfl, fun source hoperand => Operand.noConfusion hoperand⟩
  obtain ⟨-, hwritten, -⟩ := arity_is_checked_before_binding
    ⟨.field ⟨.user, "name"⟩, .eq, .column (.field ⟨.user, "id"⟩)⟩ s
    (Condition.resolves_of_declared unambiguous_user_order (.empty 0) (by decide) (by decide)
      fun source hoperand => by cases hoperand; decide)
  refine ⟨hrefused rfl ?_, hwritten.mpr ⟨rfl, rfl⟩⟩
  rintro (hcount | ⟨hmembership, -⟩)
  · cases hcount
  · cases hmembership

end QueryLoom

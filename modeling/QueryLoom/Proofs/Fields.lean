import QueryLoom.Proofs.Transparency

/-!
# The fields of a statement

Apart from its tables a statement looks names up for its fields only.  Which fields these are, and
in which order they are written, can be told from the calls of a chain.  A field is written by its
column, and it is an error when its entity does not declare its property.

## Main definitions

* `Condition.fields`, `SelectItem.fields`, `Segment.fields`, …: the fields of the parts of a
  statement, in the order in which they are written.
* `Chain.fields`: the fields of a chain.
* `Statement.conditions`: the conditions of a statement.
* `Operand.count`: how many values an operand holds.
* `Condition.Fitting`: conditions whose operand fits their operator.

## Main results

* `Field.mapM_direct`: fields are written unless one of them has no column.
* `Condition.Fitting.accepts`: the template of a fitting condition takes its values.
* `Chain.fields_segments`: the fields of a chain are those of its segments.
-/

namespace QueryLoom

/-! ## Fields -/

/-- The field that a column refers to. -/
def Column.fields : Column → List Field
  | .field f => [f]
  | .raw _ => []

/-- The fields of an item of a select list. -/
def SelectItem.fields : SelectItem → List Field
  | .field f | .aliased f _ | .name f => [f]
  | .all entity => entity.properties.map fun p => ⟨entity, p.name⟩
  | .aggregate a => a.target.elim [] Column.fields
  | .raw _ => []

/-- The fields of a condition; none if it is empty or stands for a constant. -/
def Condition.fields (c : Condition) : List Field :=
  if c.parameters?.isNone || c.constant?.isSome then []
  else c.target.fields ++ match c.operand with
    | .column other => other.fields
    | _ => []

/-- The fields of a query, from left to right. -/
def Query.fields (q : Query) : List Field := q.conditions.flatMap Condition.fields

/-- The fields of an assignment. -/
def Assignment.fields (a : Assignment) : List Field :=
  a.target.fields ++ match a.source with
    | .value _ => []
    | .column c => c.fields

/-- The fields of a segment in a mode of rendering. -/
def Segment.fields (mode : Mode) : Segment → List Field
  | .selection items => if mode = .count then [] else items.flatMap SelectItem.fields
  | .query q => q.fields
  | .assignments as => as.flatMap Assignment.fields
  | .groupBy columns => columns.flatMap Column.fields
  | .orderBy orders => if mode = .full then orders.flatMap (·.target.fields) else []
  | .keyword _ | .table _ | .target _ | .join _ | .limit _ | .offset _ => []

namespace Field

/-- The entity of the field does not declare its property. -/
def undeclared (f : Field) : Bool := (f.entity.declared? f.property).isNone

/-- The error for a field that has no column. -/
def unresolved (f : Field) : Error :=
  .resolution (.unknownProperty f.property f.entity.name)

/-- A declared property has a column, and no other has. -/
theorem column_eq_none_iff (f : Field) :
    (Names.ofEntity f.entity).column? f.property = none ↔ f.undeclared = true := by
  unfold undeclared Entity.declared? Names.column? Names.ofEntity
  rw [Option.isNone_iff_eq_none, List.find?_eq_none, List.lookup_eq_none_iff]
  simp only [List.mem_reverse, List.forall_mem_map, beq_iff_eq, bne_iff_ne, ne_eq]
  exact forall₂_congr fun p _ => not_congr eq_comm

/-- A field without a column is an error, and any other is written. -/
theorem direct_of_undeclared {f : Field} (h : f.undeclared = true) (aliases : Aliases) :
    f.direct aliases = .error f.unresolved := by
  unfold direct Names.column
  rw [f.column_eq_none_iff.mpr h]
  rfl

theorem direct_of_column {f : Field} {column : String}
    (h : (Names.ofEntity f.entity).column? f.property = some column) (aliases : Aliases) :
    f.direct aliases = .ok ((aliases.aliasOf? (.ofEntity f.entity)).elim
      (Identifier.quote column) fun aliasName => Identifier.qualify aliasName column) := by
  unfold direct Names.column
  rw [h]
  cases aliases.aliasOf? (.ofEntity f.entity) with
  | some aliasName => rfl
  | none => rfl

/-- So a field that its entity declares is written. -/
theorem exists_direct {f : Field} (h : f.undeclared = false) (aliases : Aliases) :
    ∃ text, f.direct aliases = .ok text := by
  have hcolumn : (Names.ofEntity f.entity).column? f.property ≠ none := fun hnone => by
    rw [f.column_eq_none_iff.mp hnone] at h
    cases h
  obtain ⟨column, hcolumn⟩ := Option.ne_none_iff_exists'.mp hcolumn
  exact ⟨_, direct_of_column hcolumn aliases⟩

/-- Fields are written one after the other, up to the first one that has no column. -/
theorem mapM_direct (fields : List Field) (aliases : Aliases) :
    (∃ texts, fields.mapM (direct aliases) = .ok texts ∧ fields.find? undeclared = none) ∨
      ∃ f, fields.mapM (direct aliases) = .error f.unresolved ∧
        fields.find? undeclared = some f := by
  induction fields with
  | nil => exact .inl ⟨[], rfl, rfl⟩
  | cons f rest ih =>
      rw [List.mapM_cons]
      cases hundeclared : f.undeclared with
      | true =>
          rw [direct_of_undeclared hundeclared, List.find?_cons_of_pos hundeclared]
          exact .inr ⟨f, rfl, rfl⟩
      | false =>
          obtain ⟨text, htext⟩ := exists_direct hundeclared aliases
          rw [htext, List.find?_cons_of_neg (by simp [hundeclared])]
          rcases ih with ⟨texts, htexts, hnone⟩ | ⟨g, herror, hsome⟩
          · rw [htexts]
            exact .inl ⟨_, rfl, hnone⟩
          · rw [herror]
            exact .inr ⟨g, rfl, hsome⟩

end Field

/-! ## Fitting conditions -/

/-- The conditions of a segment. -/
def Segment.conditions : Segment → List Condition
  | .query q => q.conditions
  | _ => []

/-- The conditions of a statement, in the order in which they are written. -/
def Statement.conditions (statement : Statement) : List Condition :=
  statement.segments.flatMap Segment.conditions

/-- An operator takes a list of at least one value, two values, no value or one value. -/
theorem Operator.accepts_template (operator : Operator) (n : Nat) :
    operator.template.accepts n =
      match operator with
      | .isIn | .notIn => n != 0
      | .between => n == 2
      | .isNull | .notNull => n == 0
      | _ => n == 1 := by
  unfold Template.accepts Template.variadic Template.fixed
  rw [operator.parts_of_template]
  cases operator <;> rfl

/-- The number of values that an operand holds. -/
def Operand.count : Operand → Nat
  | .unary | .absent | .column _ => 0
  | .value _ => 1
  | .range _ _ => 2
  | .list values => values.length

/-- An operand that is not missing binds all the values that it holds. -/
theorem Operand.length_parameters {operand : Operand} {values : List Value}
    (h : operand.parameters? = some values) : values.length = operand.count := by
  cases operand with
  | absent => cases h
  | unary | list | column =>
      cases h
      rfl
  | value v =>
      cases habsent : v.isAbsent with
      | true => simp [parameters?, habsent] at h
      | false =>
          rw [parameters?, habsent] at h
          cases h
          rfl
  | range low high =>
      cases habsent : low.isAbsent || high.isAbsent with
      | true => simp [parameters?, habsent] at h
      | false =>
          rw [parameters?, habsent] at h
          cases h
          rfl

/-- The condition is one that a comparison makes, so its operand fits its operator. -/
def Condition.Fitting (c : Condition) : Prop :=
  ∃ comparison : Comparison, c = comparison.on c.target

/-- What fits is not refused: it has as many values as the template takes. -/
theorem Condition.Fitting.accepts {c : Condition} (h : c.Fitting) {values : List Value}
    (hparameters : c.parameters? = some values) (hconstant : c.constant? = none)
    (hcolumn : ∀ source, c.operand ≠ .column source) :
    c.operator.template.accepts values.length = true := by
  have hcount : values.length = c.operand.count := Operand.length_parameters hparameters
  rw [hcount, Operator.accepts_template]
  obtain ⟨target, operator, operand⟩ := c
  obtain ⟨comparison, h⟩ := h
  cases comparison with
  | eqColumn other =>
      cases h
      exact absurd rfl (hcolumn other)
  | isIn list | notIn list =>
      cases h
      cases list with
      | none => cases hparameters
      | some list =>
          -- a list without elements stands for a constant
          cases list with
          | nil => cases hconstant
          | cons v list => rfl
  | _ =>
      cases h
      rfl

/-- Only equality compares with another column. -/
theorem Condition.Fitting.operator_eq {c : Condition} (h : c.Fitting) {source : Column}
    (hoperand : c.operand = .column source) : c.operator = .eq := by
  obtain ⟨target, operator, operand⟩ := c
  obtain ⟨comparison, h⟩ := h
  cases comparison with
  | eqColumn other =>
      cases h
      rfl
  | isIn list | notIn list => cases list <;> cases h <;> cases hoperand
  | _ =>
      cases h
      cases hoperand

/-! ## The fields of a chain -/

namespace Chain

/-- The fields of a chain in a mode of rendering, in the order in which they are written. -/
def fields (mode : Mode) : {s : Stage} → Chain s → List Field
  | _, .select _ => []
  | _, .fromTable chain _ => if mode = .count then [] else chain.selection.flatMap SelectItem.fields
  | _, .join chain _ _ => chain.fields mode
  | _, .on chain query => chain.fields mode ++ query.fields
  | _, .unconditioned chain => chain.fields mode
  | _, .matching chain query => chain.fields mode ++ query.fields
  | _, .groupBy _ chain columns => chain.fields mode ++ columns.flatMap Column.fields
  | _, .having chain query => chain.fields mode ++ query.fields
  | _, .order _ chain orders =>
    chain.fields mode ++ if mode = .full then orders.flatMap (·.target.fields) else []
  | _, .limit _ chain _ => chain.fields mode
  | _, .offset _ chain _ => chain.fields mode
  | _, .update _ => []
  | _, .set chain _ _ => chain.fields mode
  | _, .setNull chain _ => chain.fields mode
  | _, .setColumn chain _ _ => chain.fields mode
  | _, .assign chain => chain.assignments.flatMap Assignment.fields
  | _, .choosing chain query => chain.fields mode ++ query.fields

/-- The segments of a chain have the fields of the chain. -/
theorem fields_segments (mode : Mode) {s : Stage} (chain : Chain s) :
    chain.statement.segments.flatMap (Segment.fields mode) = chain.fields mode := by
  have hclause : ∀ (statement : Statement) (keyword : String) (query : Query),
      (statement.clause keyword query).segments.flatMap (Segment.fields mode) =
        statement.segments.flatMap (Segment.fields mode) ++ query.fields :=
    fun statement keyword query => statement.flatMap_clause keyword query rfl rfl
  induction chain with
  | select items => rfl
  | fromTable chain table ih =>
      cases chain with
      | select items =>
          show Segment.fields mode (.selection items) ++ [] = _
          rw [List.append_nil]
          rfl
  | join chain kind table ih =>
      rw [fields, ← ih]
      simp [statement, Statement.append, Statement.declare, Segment.fields]
  | on chain query ih => rw [statement, hclause, ih, fields]
  | unconditioned chain ih => rw [statement, ih, fields]
  | matching chain query ih => rw [statement, hclause, ih, fields]
  | groupBy groupable chain columns ih =>
      rw [statement, Statement.flatMap_unless, ih, fields]
      · rfl
      · intro hnone
        rw [List.isEmpty_iff.mp hnone]
        rfl
  | having chain query ih => rw [statement, hclause, ih, fields]
  | order orderable chain orders ih =>
      rw [statement, Statement.flatMap_unless, ih, fields]
      · rfl
      · intro hnone
        rw [List.isEmpty_iff.mp hnone]
        exact ite_self _
  | limit limitable chain n ih =>
      rw [statement, Statement.flatMap_paging _ _ fun _ => rfl, ih, fields]
  | offset limitable chain n ih =>
      rw [statement, Statement.flatMap_paging _ _ fun _ => rfl, ih, fields]
  | update table => rfl
  | set chain target value ih => exact ih
  | setNull chain target ih => exact ih
  | setColumn chain target source ih => exact ih
  | assign chain ih =>
      rw [statement, fields]
      unfold updateStatement
      by_cases h : chain.assignments.isEmpty <;>
        simp [h, Statement.append, Statement.fail, Statement.empty, Segment.fields]
  | choosing chain query ih => rw [statement, hclause, ih, fields]

end Chain

end QueryLoom

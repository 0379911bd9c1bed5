import QueryLoom.Column
import QueryLoom.Template

/-!
# Conditions

A condition compares a column with an operand.  An operand that is absent makes the condition
empty, and an empty condition is left out of the query it is added to.

## Main definitions

* `Operator`, `Operand`, `Condition`: conditions.
* `Condition.parameters?`: the values a condition binds, if it is not empty.
* `Condition.render`: its text.
* `Comparison`: the operators together with operands that fit them.
-/

namespace QueryLoom

/-- The comparison operators. -/
inductive Operator where
  | eq
  | ne
  | gt
  | gte
  | lt
  | lte
  /-- Contains. -/
  | like
  /-- Starts with. -/
  | likeLeft
  /-- Ends with. -/
  | likeRight
  | isIn
  | notIn
  | isNull
  | notNull
  | between
  deriving DecidableEq, Repr

namespace Operator

/-- The source of an operator's template. -/
def source : Operator → String
  | .eq => "\x7bcolumn\x7d = ?"
  | .ne => "\x7bcolumn\x7d != ?"
  | .gt => "\x7bcolumn\x7d > ?"
  | .gte => "\x7bcolumn\x7d >= ?"
  | .lt => "\x7bcolumn\x7d < ?"
  | .lte => "\x7bcolumn\x7d <= ?"
  | .like => "\x7bcolumn\x7d LIKE CONCAT('%', ?, '%')"
  | .likeLeft => "\x7bcolumn\x7d LIKE CONCAT(?, '%')"
  | .likeRight => "\x7bcolumn\x7d LIKE CONCAT('%', ?)"
  | .isIn => "\x7bcolumn\x7d IN (\x7b?\x7d)"
  | .notIn => "\x7bcolumn\x7d NOT IN (\x7b?\x7d)"
  | .isNull => "\x7bcolumn\x7d IS NULL"
  | .notNull => "\x7bcolumn\x7d IS NOT NULL"
  | .between => "\x7bcolumn\x7d BETWEEN ? AND ?"

/-- The operators. -/
def all : List Operator :=
  [.eq, .ne, .gt, .gte, .lt, .lte, .like, .likeLeft, .likeRight, .isIn, .notIn, .isNull, .notNull,
   .between]

/-- The name of an operator in diagnostics. -/
def name : Operator → String
  | .eq => "Eq"
  | .ne => "Ne"
  | .gt => "Gt"
  | .gte => "Gte"
  | .lt => "Lt"
  | .lte => "Lte"
  | .like => "Like"
  | .likeLeft => "LikeLeft"
  | .likeRight => "LikeRight"
  | .isIn => "In"
  | .notIn => "NotIn"
  | .isNull => "IsNull"
  | .notNull => "NotNull"
  | .between => "Between"

/-- The operator of a name. -/
def ofName? (name : String) : Option Operator := all.find? (·.name == name)

/-- The template of an operator. -/
def template (operator : Operator) : Template := Template.parse operator.source

end Operator

/-- The right-hand side of a condition. -/
inductive Operand where
  /-- No right-hand side, as in `IS NULL`. -/
  | unary
  /-- Nothing to compare with. -/
  | absent
  | value (value : Value)
  | range (low high : Value)
  | list (values : List Value)
  /-- Another column, which is written out and not bound. -/
  | column (column : Column)

namespace Operand

/-- The values that an operand binds; `none` if there is nothing to compare with. -/
def parameters? : Operand → Option (List Value)
  | .unary => some []
  | .column _ => some []
  | .absent => none
  | .value v => if v.isAbsent then none else some [v]
  | .range low high => if low.isAbsent || high.isAbsent then none else some [low, high]
  | .list values => some values

/-- Equality of operands; values compare as values. -/
def equal : Operand → Operand → Bool
  | .unary, .unary => true
  | .absent, .absent => true
  | .value a, .value b => a.equal b
  | .range a b, .range c d => a.equal c && b.equal d
  | .list xs, .list ys => Value.equalAll xs ys
  | .column (.raw a), .column (.raw b) => a == b
  | .column (.field a), .column (.field b) => a.same b
  | _, _ => false

end Operand

/-- A comparison of a column with an operand. -/
structure Condition where
  target : Column
  operator : Operator
  operand : Operand

namespace Condition

/-- The values that a condition binds; `none` if it is empty. -/
def parameters? (condition : Condition) : Option (List Value) :=
  condition.operand.parameters?

/-- Whether there is nothing to compare with. -/
def isEmpty (condition : Condition) : Bool :=
  condition.parameters?.isNone

/-- The predicate that stands for membership in an empty list, which SQL cannot express. -/
def constant? (condition : Condition) : Option String :=
  match condition.operand, condition.operator with
  | .list [], .isIn => some "1 = 0"
  | .list [], .notIn => some "1 = 1"
  | _, _ => none

/-- The text of a condition; none if it is empty. -/
def render (condition : Condition) : Render (Option String) :=
  match condition.parameters? with
  | none => pure none
  | some values =>
    match condition.constant? with
    | some text => pure (some text)
    | none => do
      let column ← condition.target.render
      match condition.operand with
      | .column other =>
        let other ← other.render
        match condition.operator.template.applyInline column other with
        | .ok text => pure (some text)
        | .error e => throw e
      | _ =>
        let text ← condition.operator.template.apply column values
        pure (some text)

/-- Whether two conditions have the same target, operator and operand. -/
def equal (a b : Condition) : Bool :=
  a.operator == b.operator && (Operand.column a.target).equal (.column b.target) &&
    a.operand.equal b.operand

end Condition

/-- An operator with an operand that fits it. -/
inductive Comparison where
  | eq (value : Value)
  | eqColumn (other : Column)
  | ne (value : Value)
  | gt (value : Value)
  | gte (value : Value)
  | lt (value : Value)
  | lte (value : Value)
  | like (value : Value)
  | likeLeft (value : Value)
  | likeRight (value : Value)
  /-- One of the values; without a list the comparison is left out. -/
  | isIn (values : Option (List Value))
  /-- None of the values; without a list the comparison is left out. -/
  | notIn (values : Option (List Value))
  | between (low high : Value)
  | isNull
  | notNull

namespace Comparison

/-- A list operand; nothing to compare with if there is no list. -/
def listOperand (values : Option (List Value)) : Operand :=
  values.elim .absent .list

/-- The condition that compares a column so. -/
def on (comparison : Comparison) (target : Column) : Condition :=
  match comparison with
  | .eq v => ⟨target, .eq, .value v⟩
  | .eqColumn other => ⟨target, .eq, .column other⟩
  | .ne v => ⟨target, .ne, .value v⟩
  | .gt v => ⟨target, .gt, .value v⟩
  | .gte v => ⟨target, .gte, .value v⟩
  | .lt v => ⟨target, .lt, .value v⟩
  | .lte v => ⟨target, .lte, .value v⟩
  | .like v => ⟨target, .like, .value v⟩
  | .likeLeft v => ⟨target, .likeLeft, .value v⟩
  | .likeRight v => ⟨target, .likeRight, .value v⟩
  | .isIn vs => ⟨target, .isIn, listOperand vs⟩
  | .notIn vs => ⟨target, .notIn, listOperand vs⟩
  | .between low high => ⟨target, .between, .range low high⟩
  | .isNull => ⟨target, .isNull, .unary⟩
  | .notNull => ⟨target, .notNull, .unary⟩

end Comparison

end QueryLoom

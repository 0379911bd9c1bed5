import QueryLoom.Proofs.Parameters
import QueryLoom.Proofs.Settled

/-!
# The names in a statement

Names enter a text in two ways.  Tables, columns and output names are quoted, and then hardly
anything in them matters; a table's alias stands bare in front of a dot.  The text of a raw item of
a select list is taken over as it stands.

## Main definitions

* `Mention`: a name with the way in which it enters a text.
* `Mention.Harmless`: it cannot disturb the reading of the text around it.
* `Statement.mentions`: the mentions of a statement, told without rendering it.
-/

namespace QueryLoom

/-- How a name enters a text. -/
inductive Mention where
  /-- As a quoted identifier. -/
  | quoted (name : String)
  /-- As it stands, in front of a dot. -/
  | bare (name : String)
  /-- As the whole of a select item. -/
  | verbatim (text : String)
  deriving DecidableEq, Repr

/-- A quoted name may be anything that does not pass for quoted already.  A bare name has to be
free of marks, quotes and backticks, and of verbatim text nothing is known. -/
def Mention.Harmless : Mention → Prop
  | .quoted name => Unquoted name
  | .bare name => Bare name
  | .verbatim _ => False

instance : (m : Mention) → Decidable m.Harmless
  | .quoted name => inferInstanceAs (Decidable (Unquoted name))
  | .bare name => inferInstanceAs (Decidable (Bare name))
  | .verbatim _ => .isFalse id

/-! ## Columns and conditions -/

/-- The physical column of a field is quoted.  A column written as text is quoted behind its first
dot, or else as a whole. -/
def Column.mentions : Column → List Mention
  | .field f => ((Names.ofEntity f.entity).column? f.property).toList.map .quoted
  | .raw text => match Aliases.splitAtDot text.toList with
    | some (left, right) => [.bare (String.ofList left), .quoted (String.ofList right)]
    | none => [.quoted text]

/-- The columns of a condition; none if it is empty or stands for a constant. -/
def Condition.mentions (condition : Condition) : List Mention :=
  if condition.parameters?.isNone || condition.constant?.isSome then []
  else condition.target.mentions ++ match condition.operand with
    | .column other => other.mentions
    | _ => []

/-- The columns of an assignment. -/
def Assignment.mentions (a : Assignment) : List Mention :=
  a.target.mentions ++ match a.source with
    | .column source => source.mentions
    | .value _ => []

/-! ## Select lists and tables -/

/-- A selected field is mentioned by its column and by its output name. -/
def Field.mentions (output : Field → String) (f : Field) : List Mention :=
  (Column.field f).mentions ++ [.quoted (output f)]

/-- The names of an item, where the output names of the fields are given. -/
def SelectItem.mentions (output : Field → String) : SelectItem → List Mention
  | .field f => f.mentions output
  | .aliased f _ => f.mentions output
  | .name f => (Column.field f).mentions
  | .all entity => entity.properties.flatMap fun p => Field.mentions output ⟨entity, p.name⟩
  | .aggregate a =>
    (a.target.elim [] Column.mentions) ++ a.aliasName.toList.map .quoted
  | .raw text => [.verbatim text]

/-- The physical name of a table is quoted. -/
def TableSource.mentions : TableSource → List Mention
  | .entity e => [.quoted (Names.tableOf e)]
  | .named table => [.quoted table]

/-- The alias that a table is given is written in front of its columns. -/
def TableRef.aliasMentions (table : TableRef) : List Mention :=
  table.explicitAlias?.toList.map .bare

/-! ## Statements -/

/-- The names of a segment. -/
def Segment.mentions (output : Field → String) : Segment → List Mention
  | .keyword _ => []
  | .selection items => items.flatMap (SelectItem.mentions output)
  | .table t => t.source.mentions
  | .target source => source.mentions
  | .join _ => []
  | .query q => q.conditions.flatMap Condition.mentions
  | .assignments as => as.flatMap Assignment.mentions
  | .groupBy columns => columns.flatMap Column.mentions
  | .orderBy orders => orders.flatMap fun order => order.target.mentions
  | .limit _ => []
  | .offset _ => []

/-- The aliases that are declared for tables. -/
def Declaration.mentions : Declaration → List Mention
  | .table t => t.aliasMentions
  | .column _ _ => []

/-- The alias that a declaration gives to a field. -/
def Declaration.columnAlias? : Declaration → Option ((String × String) × String)
  | .table _ => none
  | .column f aliasName => some (f.key, aliasName)

namespace Statement

/-- The aliases of fields, the one that was declared last first. -/
def columnAliases (statement : Statement) : List ((String × String) × String) :=
  (statement.declarations.filterMap Declaration.columnAlias?).reverse

/-- The output name of a selected field: the alias that was declared for it, or else the name of
the property. -/
def outputName (statement : Statement) (f : Field) : String :=
  (statement.columnAliases.lookup f.key).getD f.property

/-- All names of a statement. -/
def mentions (statement : Statement) : List Mention :=
  statement.declarations.flatMap Declaration.mentions ++
    statement.segments.flatMap (Segment.mentions statement.outputName)

end Statement

end QueryLoom

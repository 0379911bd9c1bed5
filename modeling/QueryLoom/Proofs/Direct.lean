import QueryLoom.Proofs.Parameters

/-!
# Statements without a catalog

What a statement is built to can be told directly: the names of tables and columns are computed
from their entities wherever they are needed, nothing is kept, and no state is passed along.  Tables
are declared first, which gives the aliases of the statement, and everything else is written with
these aliases.

## Main definitions

* `Column.direct`, `SelectItem.direct`, `Condition.direct`, `Query.direct`, `Assignments.direct`,
  `Order.direct`, `TableRef.direct`: the texts of the parts of a statement, with given aliases.
* `Segment.direct`, `Segment.directAll`: the texts of segments, in a mode of rendering.
* `Statement.directAliases`: the aliases that a statement declares.
* `Statement.direct`: the rendered statement, or the error that prevents it.
-/

namespace QueryLoom

/-- A sequence of outcomes succeeds when its parts do. -/
theorem exists_of_bind_eq_ok {ε α β : Type} {r : Except ε α} {f : α → Except ε β} {b : β}
    (h : (r >>= f) = .ok b) : ∃ a, r = .ok a ∧ f a = .ok b := by
  cases r with
  | ok a => exact ⟨a, rfl, h⟩
  | error e => cases h

/-- A list of outcomes that succeeds has the results of its elements, and no others. -/
theorem mem_of_mapM_eq_ok {α β : Type} {f : α → Except Error β} {as : List α} {bs : List β}
    (h : as.mapM f = .ok bs) :
    (∀ a ∈ as, ∃ b ∈ bs, f a = .ok b) ∧ ∀ b ∈ bs, ∃ a ∈ as, f a = .ok b := by
  induction as generalizing bs with
  | nil =>
      cases h
      exact ⟨List.forall_mem_nil _, List.forall_mem_nil _⟩
  | cons a as ih =>
      rw [List.mapM_cons] at h
      obtain ⟨b, hfirst, h⟩ := exists_of_bind_eq_ok h
      obtain ⟨rest, hrest, h⟩ := exists_of_bind_eq_ok h
      cases h
      obtain ⟨hleft, hright⟩ := ih hrest
      constructor
      · refine List.forall_mem_cons.mpr ⟨⟨b, List.mem_cons_self, hfirst⟩, fun c hc => ?_⟩
        obtain ⟨d, hd, heq⟩ := hleft c hc
        exact ⟨d, List.mem_cons_of_mem _ hd, heq⟩
      · refine List.forall_mem_cons.mpr ⟨⟨a, List.mem_cons_self, hfirst⟩, fun d hd => ?_⟩
        obtain ⟨c, hc, heq⟩ := hright d hd
        exact ⟨c, List.mem_cons_of_mem _ hc, heq⟩

/-- The result of an element stands in its place. -/
theorem getElem?_of_mapM_eq_ok {α β : Type} {f : α → Except Error β} {as : List α} {bs : List β}
    (h : as.mapM f = .ok bs) {i : Nat} {a : α} (ha : as[i]? = some a) :
    ∃ b, bs[i]? = some b ∧ f a = .ok b := by
  induction as generalizing bs i with
  | nil => cases ha
  | cons first as ih =>
      rw [List.mapM_cons] at h
      obtain ⟨b, hfirst, h⟩ := exists_of_bind_eq_ok h
      obtain ⟨rest, hrest, h⟩ := exists_of_bind_eq_ok h
      cases h
      cases i with
      | zero =>
          cases ha
          exact ⟨b, rfl, hfirst⟩
      | succ i => exact ih hrest ha

/-- It has results if there are elements. -/
theorem ne_nil_of_mapM_eq_ok {α β : Type} {f : α → Except Error β} {as : List α} {bs : List β}
    (h : as.mapM f = .ok bs) (hsome : as ≠ []) : bs ≠ [] := by
  obtain ⟨a, ha⟩ := List.exists_mem_of_ne_nil _ hsome
  obtain ⟨b, hb, -⟩ := (mem_of_mapM_eq_ok h).1 a ha
  exact List.ne_nil_of_mem hb

/-! ## Columns and select lists -/

/-- A field by its column, behind the alias of its table if that is registered. -/
def Field.direct (aliases : Aliases) (f : Field) : Except Error String := do
  let column ← (Names.ofEntity f.entity).column f.property
  match aliases.aliasOf? (.ofEntity f.entity) with
  | some aliasName => pure (Identifier.qualify aliasName column)
  | none => pure (Identifier.quote column)

/-- A field as an item of a select list, under its alias or its property's name. -/
def Field.directSelection (aliases : Aliases) (f : Field) : Except Error String := do
  let name ← f.direct aliases
  pure (name ++ " AS " ++ Identifier.quote ((aliases.columnAlias? f).getD f.property))

/-- A column, behind an alias where possible. -/
def Column.direct (aliases : Aliases) : Column → Except Error String
  | .field f => f.direct aliases
  | .raw text => .ok (aliases.qualifyColumn text)

/-- An aggregate with its alias. -/
def Aggregate.direct (aliases : Aliases) (a : Aggregate) : Except Error String := do
  let argument ← a.target.elim (.ok "1") (Column.direct aliases)
  let call := a.function.keyword ++ "(" ++ argument ++ ")"
  pure (a.aliasName.elim call fun aliasName => call ++ " AS " ++ Identifier.quote aliasName)

/-- The texts of an item, one for each column it selects. -/
def SelectItem.direct (aliases : Aliases) : SelectItem → Except Error (List String)
  | .field f => do
    let text ← f.directSelection aliases
    pure [text]
  | .aliased f _ => do
    let text ← f.directSelection aliases
    pure [text]
  | .name f => do
    let text ← f.direct aliases
    pure [text]
  | .all entity => entity.properties.mapM fun p => Field.directSelection aliases ⟨entity, p.name⟩
  | .aggregate a => do
    let text ← a.direct aliases
    pure [text]
  | .raw text => .ok [text]

/-- The text of a select list; everything is selected when the list is empty. -/
def SelectItem.directList (aliases : Aliases) (items : List SelectItem) : Except Error String :=
  if items.isEmpty then .ok "*" else do
    let texts ← items.mapM (direct aliases)
    pure (", ".intercalate texts.flatten)

/-! ## Conditions and queries -/

/-- The text of a filled template. -/
def Template.filled (template : Template) (column : String) (values : List Value) :
    Except Error String :=
  if template.accepts values.length then .ok (fill column template.parts values).1
  else .error (.validation (.parameterCount template.source values.length))

/-- The text of a condition; none if it is empty. -/
def Condition.direct (aliases : Aliases) (condition : Condition) : Except Error (Option String) :=
  match condition.parameters? with
  | none => .ok none
  | some values =>
    match condition.constant? with
    | some text => .ok (some text)
    | none => do
      let column ← condition.target.direct aliases
      match condition.operand with
      | .column other =>
        let other ← other.direct aliases
        let text ← condition.operator.template.applyInline column other
        pure (some text)
      | _ =>
        let text ← condition.operator.template.filled column values
        pure (some text)

/-- The members of a query from left to right. -/
def Query.directMembers (aliases : Aliases) : Query → Except Error String
  | .empty => .ok ""
  | .condition before conjunction c => do
    let text ← before.directMembers aliases
    let member ← c.direct aliases
    pure (joinMember before.isEmpty text conjunction (member.getD ""))
  | .nested before conjunction q => do
    let text ← before.directMembers aliases
    let member ← q.directMembers aliases
    let member := if 1 < q.length then "(" ++ member ++ ")" else member
    pure (joinMember before.isEmpty text conjunction member)

/-- The text of a query; none if it has no members. -/
def Query.direct (aliases : Aliases) (query : Query) : Except Error (Option String) :=
  if query.isEmpty then .ok none else do
    let text ← query.directMembers aliases
    pure (some text)

/-! ## Assignments and orders -/

/-- The text of one assignment. -/
def Assignment.direct (aliases : Aliases) (a : Assignment) : Except Error String := do
  let target ← a.target.direct aliases
  match a.source with
  | .value _ => pure (target ++ " = ?")
  | .column c =>
    let source ← c.direct aliases
    pure (target ++ " = " ++ source)

/-- The text of assignments; none if there are none. -/
def Assignments.direct (aliases : Aliases) (assignments : Assignments) :
    Except Error (Option String) :=
  if assignments.isEmpty then .ok none else do
    let texts ← assignments.mapM (Assignment.direct aliases)
    pure (some (", ".intercalate texts))

/-- The text of a term of an order. -/
def Order.direct (aliases : Aliases) (order : Order) : Except Error String := do
  let column ← order.target.direct aliases
  pure (column ++ " " ++ order.direction.keyword)

/-! ## Tables -/

/-- The name of a table. -/
def TableSource.directName : TableSource → String
  | .entity e => Names.tableOf e
  | .named table => table

/-- The quoted name of a table, followed by its quoted alias. -/
def TableRef.direct (aliases : Aliases) (table : TableRef) : String :=
  Identifier.quote table.source.directName ++ " " ++ Identifier.quote (aliases.get table.key).1

/-- Declare a table; only once for each key. -/
def TableRef.directDeclare (table : TableRef) (aliases : Aliases) : Except Error Aliases :=
  if aliases.has table.key then .error (.validation (.declaredTwice table.source.directName))
  else .ok (aliases.addTable table.key table.source.directName table.aliasName).2

/-- Declare the tables with an explicit alias and the aliases of columns. -/
def Declaration.directExplicit (aliases : Aliases) : Declaration → Except Error Aliases
  | .table t => if t.explicitAlias?.isSome then t.directDeclare aliases else .ok aliases
  | .column f aliasName => .ok (aliases.addColumn f aliasName)

/-- Declare the tables without an explicit alias. -/
def Declaration.directImplicit (aliases : Aliases) : Declaration → Except Error Aliases
  | .table t => if t.explicitAlias?.isSome then .ok aliases else t.directDeclare aliases
  | .column .. => .ok aliases

/-! ## Segments -/

/-- What a segment looks at: the aliases of its statement, and the mode of rendering. -/
structure Scope where
  aliases : Aliases
  mode : Mode

namespace Segment

/-- A text that is left out with order and paging. -/
def unlessUnpagedDirect (mode : Mode) (text : Except Error String) :
    Except Error (Option String) :=
  if mode = .full then do
    let text ← text
    pure (some text)
  else .ok none

/-- The text of a segment; none if it has none in the mode. -/
def direct (scope : Scope) : Segment → Except Error (Option String)
  | .keyword text => .ok (some text)
  | .selection items =>
    if scope.mode = .count then .ok (some "COUNT(1)") else do
      let text ← SelectItem.directList scope.aliases items
      pure (some text)
  | .table t => .ok (some (t.direct scope.aliases))
  | .target source => .ok (some (Identifier.quote source.directName))
  | .join kind => .ok (some kind.keyword)
  | .query q => q.direct scope.aliases
  | .assignments as => as.direct scope.aliases
  | .groupBy columns => do
    let texts ← columns.mapM (Column.direct scope.aliases)
    pure (some ("GROUP BY " ++ ", ".intercalate texts))
  | .orderBy orders => unlessUnpagedDirect scope.mode do
    let texts ← orders.mapM (Order.direct scope.aliases)
    pure ("ORDER BY " ++ ", ".intercalate texts)
  | .limit n => unlessUnpagedDirect scope.mode (.ok ("LIMIT " ++ toString n))
  | .offset n => unlessUnpagedDirect scope.mode (.ok ("OFFSET " ++ toString n))

/-- The texts of segments in order, joined by single blanks. -/
def directAll (scope : Scope) : List Segment → Except Error String
  | [] => .ok ""
  | segment :: rest => do
    let text ← segment.direct scope
    let others ← directAll scope rest
    pure (Query.joinText (text.getD "") others)

/-- Segments that have a text have one each. -/
theorem directAll_cons_eq_ok {scope : Scope} {segment : Segment} {rest : List Segment}
    {sql : String} (h : directAll scope (segment :: rest) = .ok sql) :
    ∃ text others, segment.direct scope = .ok text ∧ directAll scope rest = .ok others ∧
      sql = Query.joinText (text.getD "") others := by
  rw [directAll] at h
  obtain ⟨text, htext, h⟩ := exists_of_bind_eq_ok h
  obtain ⟨others, hothers, h⟩ := exists_of_bind_eq_ok h
  cases h
  exact ⟨text, others, htext, hothers, rfl⟩

end Segment

theorem Query.joinText_empty_left (text : String) : joinText "" text = text := by
  unfold joinText
  by_cases h : text.isEmpty
  · rw [if_pos h, String.isEmpty_iff.mp h]
  · rw [if_neg h]
    rfl

theorem Query.joinText_empty_right (text : String) : joinText text "" = text := if_pos rfl

/-- Texts are joined in any order. -/
theorem Query.joinText_assoc (a b c : String) :
    joinText (joinText a b) c = joinText a (joinText b c) := by
  unfold joinText
  by_cases ha : a.isEmpty <;> by_cases hb : b.isEmpty <;> by_cases hc : c.isEmpty <;>
    simp [ha, hb, hc, String.append_assoc]

/-! ## Statements -/

namespace Statement

/-- The aliases that a statement declares, explicit ones first. -/
def directAliases (statement : Statement) : Except Error Aliases := do
  let aliases ← statement.declarations.foldlM Declaration.directExplicit .empty
  statement.declarations.foldlM Declaration.directImplicit aliases

/-- The count over a grouped statement as a whole. -/
def counted (sql : String) : String :=
  "SELECT COUNT(1) FROM (" ++ sql ++ ") \x60counted\x60"

/-- The text of one of the statements of a chain, with given aliases. -/
def directText (statement : Statement) (aliases : Aliases) : Form → Except Error String
  | .rows => Segment.directAll ⟨aliases, .full⟩ statement.segments
  | .count =>
    if statement.segments.any Segment.isGrouping then do
      let sql ← Segment.directAll ⟨aliases, .unpaged⟩ statement.segments
      pure (counted sql)
    else Segment.directAll ⟨aliases, .count⟩ statement.segments
  | .page size offset => Segment.directAll ⟨aliases, .full⟩ (statement.paged size offset).segments

/-- One of the statements of a chain, or the error that prevents it. -/
def direct (statement : Statement) (form : Form) : Except Error BoundStatement :=
  match statement.fault with
  | some fault => .error (.validation fault)
  | none => do
    let aliases ← statement.directAliases
    let sql ← statement.directText aliases form
    pure ⟨sql, statement.segments.flatMap Segment.parameters, statement.result⟩

/-- A statement that can be told directly has no fault, and a text with the aliases that it
declares. -/
theorem direct_eq_ok {statement : Statement} {form : Form} {bound : BoundStatement}
    (h : statement.direct form = .ok bound) :
    statement.fault = none ∧ ∃ aliases, statement.directAliases = .ok aliases ∧
      statement.directText aliases form = .ok bound.sql ∧
      bound.params = statement.segments.flatMap Segment.parameters ∧
      bound.result = statement.result := by
  unfold direct at h
  cases hfault : statement.fault with
  | some fault =>
      rw [hfault] at h
      cases h
  | none =>
      rw [hfault] at h
      obtain ⟨aliases, haliases, h⟩ := exists_of_bind_eq_ok h
      obtain ⟨sql, hsql, h⟩ := exists_of_bind_eq_ok h
      cases h
      exact ⟨rfl, aliases, haliases, hsql, rfl, rfl⟩

/-- A statement without a fault that can be told with its aliases can be told directly. -/
theorem direct_of_directText {statement : Statement} {form : Form} {aliases : Aliases}
    {sql : String} (hfault : statement.fault = none)
    (haliases : statement.directAliases = .ok aliases)
    (hsql : statement.directText aliases form = .ok sql) :
    statement.direct form =
      .ok ⟨sql, statement.segments.flatMap Segment.parameters, statement.result⟩ := by
  unfold direct
  rw [hfault, haliases]
  show (statement.directText aliases form >>= _) = _
  rw [hsql]
  rfl

end Statement

end QueryLoom

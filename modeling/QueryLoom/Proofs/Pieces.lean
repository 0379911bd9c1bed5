import QueryLoom.Proofs.Aliases
import QueryLoom.Proofs.Filling
import QueryLoom.Proofs.Mentions
import QueryLoom.Proofs.Names

/-!
# The pieces of a statement are settled

Every piece of a statement, from a column to a condition, is settled when it is rendered in a tidy
session, and it has a placeholder for each value that it binds.

## Main definitions

* `Session.Tidy`: the aliases of tables are bare, and the catalog is faithful.
* `Render.Writes`: a step keeps the session tidy, and what it yields has a property.

## Main results

* `Column.writes_render`, `SelectItem.writes_renderList`: names are settled.
* `TableRef.writes_render`: so are tables with their aliases.
* `Condition.writes_render`: so is a condition, with its placeholders.
-/

namespace QueryLoom

/-! ## Tidy sessions -/

/-- Aliases are clean, the aliases of columns are known, and the catalog is faithful. -/
structure Session.Tidy (outputs : List ((String × String) × String)) (s : Session) : Prop where
  aliases : s.aliases.Clean
  columns : s.aliases.columns = outputs
  catalog : s.catalog.Faithful

namespace Render

variable {α β : Type} {outputs : List ((String × String) × String)}

/-- Whenever the step succeeds in a tidy session, the session stays tidy, and what the step yields
has a property. -/
def Writes (outputs : List ((String × String) × String)) (m : Render α) (Q : α → Prop) : Prop :=
  ∀ s a s', s.Tidy outputs → m s = .ok a s' → s'.Tidy outputs ∧ Q a

namespace Writes

theorem pure {Q : α → Prop} {a : α} (ha : Q a) : Writes outputs (pure a) Q := by
  intro s b s' hs h
  obtain ⟨rfl, rfl⟩ := Step.pure_eq_ok h
  exact ⟨hs, ha⟩

theorem throw {Q : α → Prop} (e : Error) : Writes outputs (throw e) Q :=
  fun _ _ _ _ h => absurd h Step.throw_ne_ok

/-- Looking at the session shows that it is tidy. -/
theorem get : Writes outputs get (Session.Tidy outputs) := by
  intro s b s' hs h
  cases h
  exact ⟨hs, hs⟩

/-- A sequence goes on with what its first step yields. -/
theorem bind {P : α → Prop} {Q : β → Prop} {m : Render α} {f : α → Render β}
    (hm : Writes outputs m P) (hf : ∀ a, P a → Writes outputs (f a) Q) :
    Writes outputs (m >>= f) Q := by
  intro s b s' hs h
  obtain ⟨a, t, hfirst, hrest⟩ := Step.bind_eq_ok h
  obtain ⟨ht, ha⟩ := hm s a t hs hfirst
  exact hf a ha t b s' ht hrest

theorem ite {c : Prop} [Decidable c] {Q : α → Prop} {m n : Render α}
    (hm : Writes outputs m Q) (hn : Writes outputs n Q) :
    Writes outputs (if c then m else n) Q := by
  by_cases hc : c
  · rwa [if_pos hc]
  · rwa [if_neg hc]

/-- Bound values leave the session tidy. -/
theorem values (values : List Value) : Writes outputs (Render.bind values) fun _ => True := by
  intro s a s' hs h
  cases h
  exact ⟨⟨hs.aliases, hs.columns, hs.catalog⟩, trivial⟩

/-- What a list of steps yields has the properties one by one. -/
theorem mapM {render : α → Render β} {Q : α → β → Prop} {as : List α}
    (h : ∀ a ∈ as, Writes outputs (render a) (Q a)) :
    Writes outputs (as.mapM render) (List.Forall₂ Q as) := by
  induction as with
  | nil => exact pure .nil
  | cons a as ih =>
      obtain ⟨hfirst, hrest⟩ := List.forall_mem_cons.mp h
      rw [List.mapM_cons]
      exact bind hfirst fun b hb => bind (ih hrest) fun bs hbs => pure (.cons hb hbs)

theorem imp {P Q : α → Prop} {m : Render α} (hm : Writes outputs m P) (h : ∀ a, P a → Q a) :
    Writes outputs m Q := by
  intro s a s' hs hrun
  obtain ⟨hs', ha⟩ := hm s a s' hs hrun
  exact ⟨hs', h a ha⟩

/-- Things that are settled one by one are settled together. -/
theorem mapM_settled {render : α → Render String} {values : α → List Value} {as : List α}
    (h : ∀ a ∈ as, Writes outputs (render a) fun text => Settled text (values a).length) :
    Writes outputs (as.mapM render)
      fun texts => AllSettled texts (as.flatMap values).length :=
  (mapM h).imp fun _ => AllSettled.of_forall₂

end Writes

end Render

open Dialect Render

variable {outputs : List ((String × String) × String)}

/-! ## Columns -/

/-- A column behind a bare alias. -/
theorem settled_qualify {aliasName column : String} (halias : Bare aliasName)
    (hcolumn : Unquoted column) : Settled (Identifier.qualify aliasName column) 0 := by
  have hdot : Glue "." := Bare.glue (by decide) (by decide)
  exact halias.complete.settled.between hdot (settled_quote hcolumn)

/-- Looking a column up keeps the session tidy, and yields the column of the field. -/
theorem writes_columnName (f : Field) :
    Writes outputs (Render.onCatalog (Catalog.columnName f))
      fun column => (Names.ofEntity f.entity).column? f.property = some column := by
  intro s column s' hs h
  obtain ⟨catalog, hname, rfl⟩ := Render.onCatalog_eq_ok h
  obtain ⟨hcolumn, hcatalog⟩ := Catalog.columnName_eq_ok hname hs.catalog
  exact ⟨⟨hs.aliases, hs.columns, hcatalog⟩, hcolumn⟩

theorem writes_fieldName {f : Field} (h : ∀ m ∈ (Column.field f).mentions, m.Harmless) :
    Writes outputs (Render.fieldName f) fun text => Settled text 0 := by
  unfold Render.fieldName
  apply Writes.bind (writes_columnName f)
  intro column hcolumn
  have hunquoted : Unquoted column := by
    have hmention : Mention.quoted column ∈ (Column.field f).mentions := by
      simp [Column.mentions, hcolumn]
    exact h _ hmention
  apply Writes.bind Writes.get
  intro session hsession
  cases hof : session.aliases.aliasOf? (.ofEntity f.entity) with
  | some aliasName =>
      exact Writes.pure (settled_qualify (hsession.aliases.aliasOf hof) hunquoted)
  | none => exact Writes.pure (settled_quote hunquoted)

/-- A column written as text is quoted behind the alias it belongs to. -/
theorem Aliases.Clean.qualifyColumn {aliases : Aliases} (hclean : aliases.Clean) {text : String}
    (h : ∀ m ∈ (Column.raw text).mentions, m.Harmless) :
    Settled (aliases.qualifyColumn text) 0 := by
  unfold Aliases.qualifyColumn
  cases hsplit : Aliases.splitAtDot text.toList with
  | some parts =>
      obtain ⟨left, right⟩ := parts
      have hleft : Bare (String.ofList left) := by
        have hmention : Mention.bare (String.ofList left) ∈ (Column.raw text).mentions := by
          simp [Column.mentions, hsplit]
        exact h _ hmention
      have hright : Unquoted (String.ofList right) := by
        have hmention : Mention.quoted (String.ofList right) ∈ (Column.raw text).mentions := by
          simp [Column.mentions, hsplit]
        exact h _ hmention
      exact settled_qualify (hclean.resolveQualifier hleft) hright
  | none =>
      have htext : Unquoted text := by
        have hmention : Mention.quoted text ∈ (Column.raw text).mentions := by
          simp [Column.mentions, hsplit]
        exact h _ hmention
      cases honly : aliases.onlyAlias? with
      | some aliasName => exact settled_qualify (hclean.onlyAlias honly) htext
      | none => exact settled_quote htext

/-- A column is settled if its names are harmless. -/
theorem Column.writes_render {column : Column} (h : ∀ m ∈ column.mentions, m.Harmless) :
    Writes outputs column.render fun text => Settled text 0 := by
  cases column with
  | field f => exact writes_fieldName h
  | raw text =>
      unfold Column.render
      refine Writes.bind Writes.get fun session hsession => Writes.pure ?_
      exact hsession.aliases.qualifyColumn h

/-! ## Select lists -/

/-- A text with an output name. -/
theorem Settled.as {text name : String} {n : Nat} (h : Settled text n) (hname : Unquoted name) :
    Settled (text ++ " AS " ++ Identifier.quote name) n := by
  have has : Glue " AS " := Bare.glue (by decide) (by decide)
  exact h.between has (settled_quote hname)

theorem writes_fieldSelection {f : Field} {output : Field → String}
    (houtput : ∀ f, output f = (outputs.lookup f.key).getD f.property)
    (h : ∀ m ∈ f.mentions output, m.Harmless) :
    Writes outputs (Render.fieldSelection f) fun text => Settled text 0 := by
  have hcolumn : ∀ m ∈ (Column.field f).mentions, m.Harmless :=
    fun m hm => h m (List.mem_append_left _ hm)
  have hname : Unquoted (output f) :=
    h (.quoted (output f)) (List.mem_append_right _ List.mem_cons_self)
  unfold Render.fieldSelection
  apply Writes.bind (writes_fieldName hcolumn)
  intro text htext
  refine Writes.bind Writes.get fun session hsession => Writes.pure ?_
  have hregistered : (session.aliases.columnAlias? f).getD f.property = output f := by
    rw [houtput, Aliases.columnAlias?, hsession.columns]
  rw [hregistered]
  exact htext.as hname

theorem AggregateFunction.bare_keyword (function : AggregateFunction) : Bare function.keyword := by
  cases function <;> decide

/-- A call of an aggregate function. -/
theorem AggregateFunction.settled_call (function : AggregateFunction) {argument : String}
    (h : Settled argument 0) : Settled (function.keyword ++ "(" ++ argument ++ ")") 0 := by
  have hkeyword : Settled function.keyword 0 := function.bare_keyword.complete.settled
  have hopen : Glue "(" := Bare.glue (by decide) (by decide)
  have hclose : Glue ")" := Bare.glue (by decide) (by decide)
  exact ((hkeyword.between hopen h).glued hclose).settled

/-- An aggregate is settled, with and without an alias. -/
theorem Aggregate.writes_render {a : Aggregate} {output : Field → String}
    (h : ∀ m ∈ (SelectItem.aggregate a).mentions output, m.Harmless) :
    Writes outputs a.render fun text => Settled text 0 := by
  obtain ⟨function, target, aliasName⟩ := a
  have hname : ∀ name, aliasName = some name → Unquoted name := by
    intro name halias
    exact h (.quoted name) (List.mem_append_right _ (by simp [halias]))
  have hone : Writes outputs (pure "1") fun text => Settled text 0 := by
    have hbare : Bare "1" := by decide
    exact Writes.pure hbare.complete.settled
  cases target with
  | some column =>
      have hcolumn : ∀ m ∈ column.mentions, m.Harmless :=
        fun m hm => h m (List.mem_append_left _ hm)
      cases aliasName with
      | some name =>
          apply Writes.bind (Column.writes_render hcolumn)
          intro argument hargument
          exact Writes.pure ((function.settled_call hargument).as (hname name rfl))
      | none =>
          apply Writes.bind (Column.writes_render hcolumn)
          intro argument hargument
          exact Writes.pure (function.settled_call hargument)
  | none =>
      cases aliasName with
      | some name =>
          apply Writes.bind hone
          intro argument hargument
          exact Writes.pure ((function.settled_call hargument).as (hname name rfl))
      | none =>
          apply Writes.bind hone
          intro argument hargument
          exact Writes.pure (function.settled_call hargument)

/-- Things without placeholders have none together. -/
theorem Render.Writes.mapM_plain {α : Type} {render : α → Render String} {as : List α}
    (h : ∀ a ∈ as, Writes outputs (render a) fun text => Settled text 0) :
    Writes outputs (as.mapM render) fun texts => AllSettled texts 0 := by
  have hnone : as.flatMap (fun _ => ([] : List Value)) = [] := by simp
  have htogether := @Writes.mapM_settled _ _ _ (fun _ => []) _ h
  rwa [hnone] at htogether

/-- The texts of an item are settled, unless it is verbatim. -/
theorem SelectItem.writes_render {item : SelectItem} {output : Field → String}
    (houtput : ∀ f, output f = (outputs.lookup f.key).getD f.property)
    (h : ∀ m ∈ item.mentions output, m.Harmless) :
    Writes outputs item.render fun texts => AllSettled texts 0 := by
  have hsingle : ∀ text, Settled text 0 → Writes outputs (pure [text])
      fun texts => AllSettled texts 0 :=
    fun text htext => Writes.pure (.cons htext .nil)
  unfold SelectItem.render
  cases item with
  | field f => exact Writes.bind (writes_fieldSelection houtput h) hsingle
  | aliased f aliasName => exact Writes.bind (writes_fieldSelection houtput h) hsingle
  | name f => exact Writes.bind (writes_fieldName h) hsingle
  | all entity =>
      apply Writes.mapM_plain
      intro p hp
      apply writes_fieldSelection houtput
      intro m hm
      exact h m (List.mem_flatMap_of_mem hp hm)
  | aggregate a => exact Writes.bind (Aggregate.writes_render h) hsingle
  | raw text =>
      have hverbatim : Mention.Harmless (.verbatim text) := h _ List.mem_cons_self
      exact hverbatim.elim

private theorem writes_mapM_item {items : List SelectItem} {output : Field → String}
    (houtput : ∀ f, output f = (outputs.lookup f.key).getD f.property)
    (h : ∀ m ∈ items.flatMap (SelectItem.mentions output), m.Harmless) :
    Writes outputs (items.mapM SelectItem.render)
      fun texts => AllSettled texts.flatten 0 := by
  have hitems := Writes.mapM fun item hitem => SelectItem.writes_render houtput fun m hm =>
    h m (List.mem_flatMap_of_mem hitem hm)
  refine hitems.imp fun rows hrows => ?_
  clear h hitems
  induction hrows with
  | nil => exact .nil
  | cons hrow _ ih => exact hrow.append ih

/-- A select list is settled, and so is what stands in its place. -/
theorem SelectItem.writes_renderList {items : List SelectItem} {output : Field → String}
    (houtput : ∀ f, output f = (outputs.lookup f.key).getD f.property)
    (h : ∀ m ∈ items.flatMap (SelectItem.mentions output), m.Harmless) :
    Writes outputs (SelectItem.renderList items) fun text => Settled text 0 := by
  have hcount : Bare "COUNT(1)" := by decide
  have heverything : Bare "*" := by decide
  unfold SelectItem.renderList
  apply Writes.bind Writes.get
  intro session _
  refine Writes.ite (Writes.pure hcount.complete.settled) ?_
  refine Writes.ite (Writes.pure heverything.complete.settled) ?_
  refine Writes.bind (writes_mapM_item houtput h) fun texts htexts => Writes.pure ?_
  exact htexts.intercalate

/-! ## Tables -/

/-- The name of a table keeps the session tidy, and is one of its mentions. -/
theorem TableSource.writes_name (source : TableSource) :
    Writes outputs source.name fun name => Mention.quoted name ∈ source.mentions := by
  cases source with
  | entity e =>
      intro s name s' hs hname
      obtain ⟨catalog, htable, rfl⟩ := Render.onCatalog_eq_ok hname
      obtain ⟨rfl, hcatalog⟩ := Catalog.tableName_eq_ok htable hs.catalog
      exact ⟨⟨hs.aliases, hs.columns, hcatalog⟩, List.mem_cons_self⟩
  | named table => exact Writes.pure List.mem_cons_self

theorem TableSource.writes_quotedName {source : TableSource}
    (h : ∀ m ∈ source.mentions, m.Harmless) :
    Writes outputs source.quotedName fun text => Settled text 0 := by
  unfold TableSource.quotedName
  refine Writes.bind source.writes_name fun name hname => Writes.pure ?_
  have hunquoted : Unquoted name := h _ hname
  exact settled_quote hunquoted

/-- A step of the aliases keeps the session tidy if it keeps the aliases clean. -/
theorem writes_onAliases {key : TableKey} {step : Aliases → String × Aliases}
    {Q : String → Prop}
    (hstep : ∀ aliases : Aliases, aliases.Clean →
      Q (step aliases).1 ∧ (step aliases).2.Clean ∧ (step aliases).2.columns = aliases.columns) :
    Writes outputs (Render.onAliases key step) Q := by
  intro s aliasName s' hs h
  obtain ⟨rfl, haliases, -, -, hcatalog⟩ := Render.onAliases_eq_ok h
  obtain ⟨hname, hclean, hcolumns⟩ := hstep s.aliases hs.aliases
  refine ⟨⟨?_, ?_, ?_⟩, hname⟩
  · rw [haliases]
    exact hclean
  · rw [haliases, hcolumns]
    exact hs.columns
  · rcases hcatalog with hsame | hreported
    · rw [hsame]
      exact hs.catalog
    · rw [hreported]
      exact hs.catalog

/-- A table is settled with its alias. -/
theorem TableRef.writes_render {table : TableRef} (h : ∀ m ∈ table.source.mentions, m.Harmless) :
    Writes outputs table.render fun text => Settled text 0 := by
  have hblank : Glue " " := Bare.glue (by decide) (by decide)
  have halias : Writes outputs (Render.aliasFor table.key) Bare := by
    apply writes_onAliases
    intro aliases hclean
    obtain ⟨hbare, hkept⟩ := hclean.get table.key
    exact ⟨hbare, hkept, aliases.columns_get table.key⟩
  unfold TableRef.render
  apply Writes.bind table.source.writes_name
  intro name hname
  refine Writes.bind halias fun aliasName hbare => Writes.pure ?_
  have hunquoted : Unquoted name := h _ hname
  exact (settled_quote hunquoted).between hblank (settled_quote hbare.unquoted)

/-- Declaring a table keeps the session tidy if its alias is bare. -/
theorem TableRef.writes_declare {table : TableRef} (h : ∀ m ∈ table.aliasMentions, m.Harmless) :
    Writes outputs table.declare fun _ => True := by
  have hexplicit : ∀ a, Aliases.explicit? table.aliasName = some a → Bare a := by
    intro a ha
    have hmention : Mention.bare a ∈ table.aliasMentions := by
      simp [TableRef.aliasMentions, TableRef.explicitAlias?, ha]
    exact h _ hmention
  unfold TableRef.declare
  apply Writes.bind table.source.writes_name
  intro name _
  apply Writes.bind Writes.get
  intro session _
  refine Writes.ite (Writes.throw _) ?_
  have hadd : Writes outputs (Render.addTable table.key name table.aliasName) fun _ => True := by
    apply writes_onAliases
    intro aliases hclean
    exact ⟨trivial, hclean.addTable table.key name hexplicit, aliases.columns_addTable _ _ _⟩
  exact Writes.bind hadd fun _ _ => Writes.pure trivial

/-! ## Conditions -/

/-- The predicates that stand for membership in an empty list are bare. -/
theorem Condition.bare_of_constant {condition : Condition} {text : String}
    (h : condition.constant? = some text) : Bare text := by
  rcases (Condition.constant_eq_some h).2 with rfl | rfl
  · decide
  · decide

/-- A condition has a placeholder for each value that it binds. -/
theorem Condition.writes_render {condition : Condition}
    (h : ∀ m ∈ condition.mentions, m.Harmless) :
    Writes outputs condition.render
      fun text => Settled (text.getD "") (condition.parameters?.getD []).length := by
  intro s text s' hs hrender
  cases Condition.rendered_of_render hrender with
  | absent hparameters =>
      rw [hparameters]
      exact ⟨hs, settled_empty⟩
  | constant text hoperand hconstant =>
      have hnone : condition.parameters? = some [] := by
        simp [Condition.parameters?, hoperand, Operand.parameters?]
      have hbare : Bare text := Condition.bare_of_constant hconstant
      rw [hnone]
      exact ⟨hs, hbare.complete.settled⟩
  | inlined column other source text t s' hoperand htarget hsource htext =>
      have hnone : condition.parameters? = some [] := by
        simp [Condition.parameters?, hoperand, Operand.parameters?]
      have hmentions : condition.mentions = condition.target.mentions ++ source.mentions := by
        simp [Condition.mentions, hnone, hoperand, Condition.constant?]
      rw [hmentions] at h
      have hcolumn : t.Tidy outputs ∧ Settled column 0 :=
        Column.writes_render (fun m hm => h m (List.mem_append_left _ hm)) s column t hs htarget
      have hother : s'.Tidy outputs ∧ Settled other 0 :=
        Column.writes_render (fun m hm => h m (List.mem_append_right _ hm)) t other s' hcolumn.1
          hsource
      have hwritten := Template.applyInline_eq_ok htext
      rw [hnone, hwritten]
      exact ⟨hother.1, condition.operator.settled_inline hcolumn.2 hother.2⟩
  | filled column values text t s' hparameters hconstant htarget htext =>
      have hmentions : ∀ m ∈ condition.target.mentions, m.Harmless := by
        intro m hm
        refine h m ?_
        simp [Condition.mentions, hparameters, hconstant, hm]
      have hcolumn : t.Tidy outputs ∧ Settled column 0 :=
        Column.writes_render hmentions s column t hs htarget
      obtain ⟨haccepts, rfl, rfl⟩ := Template.apply_eq_ok htext
      rw [hparameters]
      have htidy := hcolumn.1
      exact ⟨⟨htidy.aliases, htidy.columns, htidy.catalog⟩,
        condition.operator.settled_fill hcolumn.2 haccepts⟩

end QueryLoom

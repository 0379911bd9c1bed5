import Mathlib.Data.List.Forall2
import QueryLoom.Proofs.Fields
import QueryLoom.Proofs.Declared
import QueryLoom.Proofs.Meaning
import QueryLoom.Proofs.Pieces

/-!
# Texts that cite fields

Whether a part of a statement can be written comes down to its fields, one after the other: if one
of them has no column, that is the error, and otherwise the text cites all of them, each written in
the same way wherever it stands.  Beyond that, only a condition whose operand does not fit its
operator is refused.

What it means that a text cites fields is left open: the parts of a statement are gone through once,
for every meaning that agrees with the few ways in which the renderer puts texts together.

## Main definitions

* `Standing`: what can be said of the names in a text, and of texts that are put together.
* `Cites`: an outcome that is told by fields, one after the other.
* `Statement.modeOf`: the mode in which one of the statements of a chain is rendered.

## Main results

* `Cites.bind`, `Cites.mapM`: sequences and lists.
* `Standing.cites_condition`, `Standing.cites_query`, `Standing.cites_segment`, …: the parts of a
  statement, one by one.
* `Statement.cites_standing`: the statements of a chain cite their fields in order.
* `Statement.cites_directText`: so the texts of the fields stand in them in order.
-/

namespace QueryLoom

open Dialect

/-! ## Texts in a row -/

/-- The parts stand in the elements of a list one behind the other. -/
def Each {α : Type} (stands : α → List String → Prop) (as : List α) (parts : List String) : Prop :=
  ∃ rows, List.Forall₂ stands as rows ∧ parts = rows.flatten

namespace Each

variable {stands : String → List String → Prop}

theorem singleton {text : String} {parts : List String} (h : stands text parts) :
    Each stands [text] parts :=
  ⟨[parts], .cons h .nil, List.flatten_singleton.symm⟩

/-- What stands in lists of texts stands in all of the texts together. -/
theorem flatten {lists : List (List String)} {parts : List String}
    (h : Each (Each stands) lists parts) : Each stands lists.flatten parts := by
  obtain ⟨rows, hrows, rfl⟩ := h
  induction hrows with
  | nil => exact ⟨[], .nil, rfl⟩
  | cons hfirst _ ih =>
      obtain ⟨first, hfirst, rfl⟩ := hfirst
      obtain ⟨rest, hrest, hparts⟩ := ih
      exact ⟨first ++ rest, List.rel_append hfirst hrest, by
        rw [List.flatten_append, List.flatten_cons, hparts]⟩

end Each

/-- A text that may stand between others; it may hold placeholders. -/
structure Filler (text : String) : Prop where
  complete : ∃ n, Complete text n
  nonempty : text.toList ≠ []
  unticked : Unticked text.toList

theorem Glue.filler {text : String} (h : Glue text) : Filler text :=
  ⟨⟨0, h.complete⟩, h.nonempty, h.unticked⟩

theorem Bare.filler {text : String} (h : Bare text) (hne : text.toList ≠ []) : Filler text :=
  (h.glue hne).filler

/-- Placeholders may follow glue. -/
theorem Glue.marked {glue : String} (h : Glue glue) (n : Nat) :
    Filler (glue ++ Template.placeholders n) := by
  refine ⟨⟨0 + n, h.complete.append (complete_placeholders n)⟩, ?_, ?_⟩
  · rw [String.toList_append]
    exact List.append_ne_nil_of_left_ne_nil h.nonempty _
  · rw [String.toList_append]
    exact unticked_append h.nonempty h.unticked

/-! ## What stands in the texts of the renderer -/

/-- The output name of a selected field: the alias that is registered for it, or else the name of
the property. -/
def Aliases.outputName (aliases : Aliases) (f : Field) : String :=
  (aliases.columnAlias? f).getD f.property

/-- A way of saying that texts stand in a text, in this order.  It holds of the names in a text, if
these are harmless, where the fields are what stands there; and it goes over to texts that the
renderer puts together. -/
structure Standing (harmless : Mention → Prop) (aliases : Aliases)
    (stands : String → List String → Prop) : Prop where
  field {f : Field} {text : String} (h : ∀ m ∈ (Column.field f).mentions, harmless m)
    (htext : f.direct aliases = .ok text) : stands text [text]
  raw {text : String} (h : ∀ m ∈ (Column.raw text).mentions, harmless m) :
    stands (aliases.qualifyColumn text) []
  quoted {name : String} (h : harmless (.quoted name)) : stands (Identifier.quote name) []
  verbatim {text : String} (h : harmless (.verbatim text)) : stands text []
  settled {text : String} {n : Nat} (h : Settled text n) : stands text []
  between {a filler b : String} {as bs : List String} (ha : stands a as) (hfiller : Filler filler)
    (hb : stands b bs) : stands (a ++ filler ++ b) (as ++ bs)
  joinText {a b : String} {as bs : List String} (ha : stands a as) (hb : stands b bs) :
    stands (Query.joinText a b) (as ++ bs)
  forget {a : String} {as : List String} (ha : stands a as) : stands a []

namespace Standing

variable {harmless : Mention → Prop} {aliases : Aliases} {stands : String → List String → Prop}
  {a b text : String} {as bs parts : List String}

theorem nothing (S : Standing harmless aliases stands) : stands "" [] := S.settled settled_empty

theorem bare (S : Standing harmless aliases stands) (h : Bare text) : stands text [] :=
  S.settled h.complete.settled

theorem before (S : Standing harmless aliases stands) (ha : stands a as) {filler : String}
    (h : Filler filler) : stands (a ++ filler) as := by
  have hboth := S.between ha h S.nothing
  rwa [String.append_empty, List.append_nil] at hboth

theorem behind (S : Standing harmless aliases stands) (hb : stands b bs) {filler : String}
    (h : Filler filler) : stands (filler ++ b) bs := by
  have hboth := S.between S.nothing h hb
  rwa [String.empty_append, List.nil_append] at hboth

/-- A text with an output name. -/
theorem withName (S : Standing harmless aliases stands) (h : stands text parts) {name : String}
    (hname : harmless (.quoted name)) :
    stands (text ++ " AS " ++ Identifier.quote name) parts := by
  have has : Filler " AS " := Bare.filler (by decide) (by decide)
  have hboth := S.between h has (S.quoted hname)
  rwa [List.append_nil] at hboth

/-- A text in parentheses. -/
theorem parenthesized (S : Standing harmless aliases stands) (h : stands text parts) :
    stands ("(" ++ text ++ ")") parts :=
  S.before (S.behind h (Bare.filler (by decide) (by decide))) (Bare.filler (by decide) (by decide))

/-- A member stands behind the ones before it. -/
theorem joinMember (S : Standing harmless aliases stands) (ha : stands a as) (hb : stands b bs)
    (first : Bool) (conjunction : Conjunction) :
    stands (Query.joinMember first a conjunction b) (as ++ bs) := by
  have hkeyword : Bare conjunction.keyword := by cases conjunction <;> decide
  unfold Query.joinMember
  cases first with
  | true => exact S.joinText ha hb
  | false =>
      have hjoint := S.joinText ha (S.bare hkeyword)
      rw [List.append_nil] at hjoint
      exact S.joinText hjoint hb

/-- What stands in texts stands in them when commas are put between them. -/
theorem intercalate (S : Standing harmless aliases stands) {texts : List String}
    (h : Each stands texts parts) : stands (", ".intercalate texts) parts := by
  obtain ⟨rows, hrows, rfl⟩ := h
  induction hrows with
  | nil => exact S.nothing
  | @cons text row texts rows hfirst hrest ih =>
      cases texts with
      | nil =>
          cases hrest
          rw [String.intercalate_singleton, List.flatten_singleton]
          exact hfirst
      | cons next texts =>
          rw [String.intercalate_cons_cons]
          exact S.between hfirst (Bare.filler (by decide) (by decide)) ih

/-- Values are filled in behind a column. -/
theorem fill (S : Standing harmless aliases stands) {ps : List Part} (htail : Template.Tail ps)
    (column : String) {before : String} (h : stands before parts) (values : List Value) :
    stands (before ++ (Template.fill column ps values).1) parts := by
  induction htail generalizing before values with
  | nil => simpa [Template.fill] using h
  | @glue s hs => simpa [Template.fill] using S.before h hs.filler
  | @slot s p rest hs hp _ ih =>
      rcases hp with rfl | rfl
      · have hslot := S.before h (hs.marked 1)
        cases values with
        | nil => simpa [Template.fill, Template.placeholders, String.append_assoc] using ih hslot []
        | cons value values =>
            simpa [Template.fill, Template.placeholders, String.append_assoc] using ih hslot values
      · have hslot := S.before h (hs.marked values.length)
        simpa [Template.fill, String.append_assoc] using ih hslot []

/-- What stands in another column is told only once, wherever else it is put. -/
theorem inline_forget (S : Standing harmless aliases stands) {ps : List Part}
    (htail : Template.Tail ps) (column : String) {other before : String} (hother : stands other [])
    (h : stands before parts) : stands (before ++ Template.inline column other ps) parts := by
  induction htail generalizing before with
  | nil => simpa [Template.inline] using h
  | @glue s hs => simpa [Template.inline] using S.before h hs.filler
  | @slot s p rest hs hp _ ih =>
      have hslot := S.between h hs.filler hother
      rw [List.append_nil] at hslot
      rcases hp with rfl | rfl
      · simpa [Template.inline, String.append_assoc] using ih hslot
      · simpa [Template.inline, String.append_assoc] using ih hslot

/-- Another column stands in place of the value. -/
theorem inline (S : Standing harmless aliases stands) {ps : List Part} (htail : Template.Tail ps)
    (hmem : .param ∈ ps) (column : String) (ha : stands a as) (hb : stands b bs) :
    stands (a ++ Template.inline column b ps) (as ++ bs) := by
  cases htail with
  | nil => cases hmem
  | glue hs => simp at hmem
  | @slot s p rest hs hp htail =>
      have hrest := S.inline_forget htail column (S.forget hb) (S.between ha hs.filler hb)
      rcases hp with rfl | rfl
      · simpa [Template.inline, String.append_assoc] using hrest
      · simpa [Template.inline, String.append_assoc] using hrest

end Standing

/-- Texts stand in a text with other text around them, whatever the names are. -/
theorem standing_contains (aliases : Aliases) : Standing (fun _ => True) aliases Contains where
  field _ _ := .whole _
  raw _ := .nothing _
  quoted _ := .nothing _
  verbatim _ := .nothing _
  settled _ := .nothing _
  between {_ filler _ _ _} ha _ hb := by
    have hbehind := (ha.append (.nothing filler)).append hb
    rwa [List.append_nil] at hbehind
  joinText := .joinText
  forget _ := .nothing _

/-! ## Outcomes that are told by fields -/

/-- What is yielded cites the fields, in the sense of `stands`; or it is the error of the first of
them that has no column.  Where conditions may be refused, it may be a refusal instead. -/
inductive Cites (refusable : Prop) (aliases : Aliases) {α : Type} (stands : α → List String → Prop)
    (fields : List Field) : Except Error α → Prop where
  | written {a : α} {texts : List String} (hfields : fields.mapM (Field.direct aliases) = .ok texts)
      (hstands : stands a texts) : Cites refusable aliases stands fields (.ok a)
  | unresolved {e : Error} (hfields : fields.mapM (Field.direct aliases) = .error e) :
      Cites refusable aliases stands fields (.error e)
  | refused (h : refusable) (fault : ValidationFault) :
      Cites refusable aliases stands fields (.error (.validation fault))

namespace Cites

variable {refusable : Prop} {aliases : Aliases} {α β : Type} {stands : α → List String → Prop}
  {result : β → List String → Prop} {fields more : List Field} {r : Except Error α}

/-- What needs no fields cites none. -/
theorem pure {a : α} (h : stands a []) : Cites refusable aliases stands [] (.ok a) :=
  .written rfl h

/-- What is made of something cites the same fields. -/
theorem map {f : α → β} (hr : Cites refusable aliases stands fields r)
    (hf : ∀ a texts, stands a texts → result (f a) texts) :
    Cites refusable aliases result fields (r >>= fun a => Pure.pure (f a)) := by
  cases hr with
  | written hfields hstands => exact .written hfields (hf _ _ hstands)
  | unresolved hfields => exact .unresolved hfields
  | refused h fault => exact .refused h fault

/-- What comes in two steps cites the fields of both, one behind the other. -/
theorem bind {f : α → Except Error β} (hr : Cites refusable aliases stands fields r)
    (hf : ∀ a texts, stands a texts →
      Cites refusable aliases (fun b others => result b (texts ++ others)) more (f a)) :
    Cites refusable aliases result (fields ++ more) (r >>= f) := by
  have hboth : (fields ++ more).mapM (Field.direct aliases) = (do
      let texts ← fields.mapM (Field.direct aliases)
      let others ← more.mapM (Field.direct aliases)
      Pure.pure (texts ++ others)) := List.mapM_append
  cases hr with
  | @written a texts hfields hstands =>
      rw [hfields] at hboth
      have hnext := hf a texts hstands
      show Cites refusable aliases result (fields ++ more) (f a)
      generalize f a = next at hnext
      cases hnext with
      | written hmore hstands =>
          rw [hmore] at hboth
          exact .written hboth hstands
      | unresolved hmore =>
          rw [hmore] at hboth
          exact .unresolved hboth
      | refused h fault => exact .refused h fault
  | unresolved hfields =>
      rw [hfields] at hboth
      exact .unresolved hboth
  | refused h fault => exact .refused h fault

/-- A list cites the fields of its elements, one behind the other. -/
theorem mapM {f : α → Except Error β} {cited : α → List Field} {as : List α}
    (h : ∀ a ∈ as, Cites refusable aliases result (cited a) (f a)) :
    Cites refusable aliases (Each result) (as.flatMap cited) (as.mapM f) := by
  induction as with
  | nil => exact .pure ⟨[], .nil, rfl⟩
  | cons a as ih =>
      obtain ⟨hfirst, hrest⟩ := List.forall_mem_cons.mp h
      rw [List.mapM_cons, List.flatMap_cons]
      refine .bind hfirst fun b texts hb => .map (ih hrest) ?_
      rintro bs others ⟨rows, hrows, rfl⟩
      exact ⟨texts :: rows, .cons hb hrows, rfl⟩

end Cites

/-- A text that cites fields, or no text. -/
abbrev CitesOptional (refusable : Prop) (aliases : Aliases) (stands : String → List String → Prop)
    (fields : List Field) (r : Except Error (Option String)) : Prop :=
  Cites refusable aliases (fun text parts => stands (text.getD "") parts) fields r

/-! ## Parts of statements -/

namespace Standing

variable {refusable : Prop} {harmless : Mention → Prop} {aliases : Aliases}
  {stands : String → List String → Prop}

/-! ### Columns and select lists -/

theorem cites_field (S : Standing harmless aliases stands) {f : Field}
    (h : ∀ m ∈ (Column.field f).mentions, harmless m) :
    Cites refusable aliases stands [f] (f.direct aliases) := by
  have hone : [f].mapM (Field.direct aliases) = f.direct aliases >>= fun text => pure [text] := by
    simp
  cases hdirect : f.direct aliases with
  | ok text =>
      rw [hdirect] at hone
      exact .written hone (S.field h hdirect)
  | error e =>
      rw [hdirect] at hone
      exact .unresolved hone

theorem cites_selection (S : Standing harmless aliases stands) {f : Field}
    (h : ∀ m ∈ f.mentions aliases.outputName, harmless m) :
    Cites refusable aliases stands [f] (f.directSelection aliases) := by
  obtain ⟨hcolumn, hname⟩ := List.forall_mem_append.mp h
  exact .map (S.cites_field hcolumn) fun _ _ htext => S.withName htext (hname _ List.mem_cons_self)

theorem cites_column (S : Standing harmless aliases stands) {c : Column}
    (h : ∀ m ∈ c.mentions, harmless m) :
    Cites refusable aliases stands c.fields (c.direct aliases) := by
  cases c with
  | field f => exact S.cites_field h
  | raw text => exact .pure (S.raw h)

theorem cites_aggregate (S : Standing harmless aliases stands) {a : Aggregate}
    (htarget : ∀ m ∈ a.target.elim [] Column.mentions, harmless m)
    (hname : ∀ name ∈ a.aliasName, harmless (.quoted name)) :
    Cites refusable aliases stands (a.target.elim [] Column.fields) (a.direct aliases) := by
  obtain ⟨function, target, aliasName⟩ := a
  have hargument : Cites refusable aliases stands (target.elim [] Column.fields)
      (target.elim (.ok "1") (Column.direct aliases)) := by
    cases target with
    | some column => exact S.cites_column htarget
    | none => exact .pure (S.bare (by decide))
  refine .map hargument fun argument texts hargument => ?_
  have hopening : Bare (function.keyword ++ "(") :=
    Bare.append (by cases function <;> decide) (by decide)
  have hcall : stands (function.keyword ++ "(" ++ argument ++ ")") texts :=
    S.before (S.behind hargument (hopening.filler (by cases function <;> decide)))
      (Bare.filler (by decide) (by decide))
  cases aliasName with
  | some name => exact S.withName hcall (hname name rfl)
  | none => exact hcall

theorem cites_item (S : Standing harmless aliases stands) {item : SelectItem}
    (h : ∀ m ∈ item.mentions aliases.outputName, harmless m) :
    Cites refusable aliases (Each stands) item.fields (item.direct aliases) := by
  have hone : ∀ text parts, stands text parts → Each stands [text] parts :=
    fun _ _ htext => .singleton htext
  cases item with
  | field f => exact .map (S.cites_selection h) hone
  | aliased f aliasName => exact .map (S.cites_selection h) hone
  | name f => exact .map (S.cites_field h) hone
  | all entity =>
      rw [SelectItem.fields, List.map_eq_flatMap]
      exact .mapM fun p hp => S.cites_selection fun m hm => h m (List.mem_flatMap_of_mem hp hm)
  | aggregate a =>
      obtain ⟨htarget, hname⟩ := List.forall_mem_append.mp h
      exact .map (S.cites_aggregate htarget fun name hmem => hname _ (by simpa using hmem)) hone
  | raw text => exact .pure (hone text [] (S.verbatim (h _ List.mem_cons_self)))

theorem cites_list (S : Standing harmless aliases stands) {items : List SelectItem}
    (h : ∀ m ∈ items.flatMap (SelectItem.mentions aliases.outputName), harmless m) :
    Cites refusable aliases stands (items.flatMap SelectItem.fields)
      (SelectItem.directList aliases items) := by
  unfold SelectItem.directList
  cases items with
  | nil => exact .pure (S.bare (by decide))
  | cons item items =>
      refine .map (.mapM fun i hi => S.cites_item fun m hm =>
        h m (List.mem_flatMap_of_mem hi hm)) ?_
      exact fun _ _ htexts => S.intercalate htexts.flatten

/-! ### Conditions and queries -/

/-- A filled template begins with the column. -/
theorem filledTemplate (S : Standing harmless aliases stands) (operator : Operator)
    {column : String} {parts : List String} (h : stands column parts) (values : List Value) :
    stands (Template.fill column operator.template.parts values).1 parts := by
  obtain ⟨tail, hparts, htail⟩ := operator.exists_tail
  rw [hparts]
  exact S.fill htail column h values

/-- A template with another column begins with the column, and the other one follows. -/
theorem inlinedTemplate (S : Standing harmless aliases stands) (operator : Operator)
    {column other text : String} {parts others : List String} (hcolumn : stands column parts)
    (hother : stands other others)
    (htext : operator.template.applyInline column other = .ok text) :
    stands text (parts ++ others) := by
  obtain ⟨tail, hparts, htail⟩ := operator.exists_tail
  have hmem : .param ∈ tail := by
    unfold Template.applyInline at htext
    by_cases hrefused : operator.template.variadic || operator.template.fixed != 1
    · simp [hrefused] at htext
    · have hfixed : operator.template.fixed = 1 := by
        simp only [Bool.or_eq_true, not_or, bne_iff_ne, ne_eq, not_not] at hrefused
        exact hrefused.2
      rw [Template.fixed, hparts, List.countP_cons] at hfixed
      have hcount : 0 < tail.countP (· == .param) := by simp at hfixed; omega
      obtain ⟨p, hp, hparam⟩ := List.countP_pos_iff.mp hcount
      rwa [← beq_iff_eq.mp hparam]
  rw [Template.applyInline_eq_ok htext, hparts]
  exact S.inline htail hmem column hcolumn hother

section Conditions

variable {c : Condition} {column : String} {texts : List String}

/-- A filled template cites what its column cites; with the values of a fitting condition it is
never refused. -/
theorem cites_filled (S : Standing harmless aliases stands) (h : refusable ∨ c.Fitting)
    {values : List Value} (hparameters : c.parameters? = some values)
    (hconstant : c.constant? = none) (hsource : ∀ source, c.operand ≠ .column source)
    (hcolumn : stands column texts) :
    Cites refusable aliases (fun text others => stands text (texts ++ others)) []
      (c.operator.template.filled column values) := by
  unfold Template.filled
  by_cases haccepts : c.operator.template.accepts values.length
  · rw [if_pos haccepts]
    exact .pure (by simpa using S.filledTemplate c.operator hcolumn values)
  · rw [if_neg haccepts]
    rcases h with hrefusable | hfitting
    · exact .refused hrefusable _
    · exact absurd (hfitting.accepts hparameters hconstant hsource) haccepts

/-- A template with another column cites that column next; a fitting condition is never refused. -/
theorem cites_inlined (S : Standing harmless aliases stands) (h : refusable ∨ c.Fitting)
    {source : Column} (hoperand : c.operand = .column source)
    (hmentions : ∀ m ∈ source.mentions, harmless m) (hcolumn : stands column texts) :
    Cites refusable aliases (fun text others => stands text (texts ++ others)) source.fields
      (source.direct aliases >>= c.operator.template.applyInline column) := by
  rw [← List.append_nil source.fields]
  refine .bind (S.cites_column hmentions) fun other others hother => ?_
  cases htext : c.operator.template.applyInline column other with
  | ok text =>
      have hboth := S.inlinedTemplate c.operator hcolumn hother htext
      exact .pure (by simpa using hboth)
  | error e =>
      rcases h with hrefusable | hfitting
      · unfold Template.applyInline at htext
        split at htext
        · cases htext
          exact .refused hrefusable _
        · cases htext
      · rw [hfitting.operator_eq hoperand] at htext
        cases htext

/-- A condition cites the fields of its columns. -/
theorem cites_condition (S : Standing harmless aliases stands) (h : refusable ∨ c.Fitting)
    (hmentions : ∀ m ∈ c.mentions, harmless m) :
    CitesOptional refusable aliases stands c.fields (c.direct aliases) := by
  unfold Condition.mentions at hmentions
  unfold Condition.fields Condition.direct
  cases hparameters : c.parameters? with
  | none => exact .pure S.nothing
  | some values =>
      cases hconstant : c.constant? with
      | some text => exact .pure (S.bare (Condition.bare_of_constant hconstant))
      | none =>
          rw [hparameters, hconstant, if_neg (by simp)] at hmentions
          obtain ⟨htarget, hsource⟩ := List.forall_mem_append.mp hmentions
          refine .bind (S.cites_column htarget) fun column texts hcolumn => ?_
          cases hoperand : c.operand with
          | column source =>
              rw [hoperand] at hsource
              have hinlined := S.cites_inlined h hoperand hsource hcolumn
              simp only
              rw [← bind_assoc]
              exact .map hinlined fun _ _ htext => htext
          | _ =>
              refine .map (S.cites_filled h hparameters hconstant (fun source hs => ?_) hcolumn)
                fun _ _ htext => htext
              rw [hoperand] at hs
              cases hs

end Conditions

/-- The members of a query cite their fields from left to right. -/
theorem cites_members (S : Standing harmless aliases stands) {query : Query}
    (h : ∀ c ∈ query.conditions, refusable ∨ c.Fitting)
    (hmentions : ∀ m ∈ query.conditions.flatMap Condition.mentions, harmless m) :
    Cites refusable aliases stands query.fields (query.directMembers aliases) := by
  unfold Query.fields
  induction query with
  | empty => exact .pure S.nothing
  | condition before conjunction c ih =>
      rw [Query.conditions] at h hmentions ⊢
      rw [List.flatMap_append, List.flatMap_singleton] at hmentions ⊢
      obtain ⟨hbefore, hc⟩ := List.forall_mem_append.mp h
      obtain ⟨hfirst, hlast⟩ := List.forall_mem_append.mp hmentions
      refine .bind (ih hbefore hfirst) fun text texts htext => ?_
      exact .map (S.cites_condition (hc c List.mem_cons_self) hlast) fun _ _ hmember =>
        S.joinMember htext hmember _ _
  | nested before conjunction q ihBefore ihNested =>
      rw [Query.conditions] at h hmentions ⊢
      rw [List.flatMap_append] at hmentions ⊢
      obtain ⟨hbefore, hq⟩ := List.forall_mem_append.mp h
      obtain ⟨hfirst, hlast⟩ := List.forall_mem_append.mp hmentions
      refine .bind (ihBefore hbefore hfirst) fun text texts htext => .map (ihNested hq hlast) ?_
      intro member others hmember
      by_cases hseveral : 1 < q.length
      · rw [if_pos hseveral]
        exact S.joinMember htext (S.parenthesized hmember) _ _
      · rw [if_neg hseveral]
        exact S.joinMember htext hmember _ _

theorem cites_query (S : Standing harmless aliases stands) {query : Query}
    (h : ∀ c ∈ query.conditions, refusable ∨ c.Fitting)
    (hmentions : ∀ m ∈ query.conditions.flatMap Condition.mentions, harmless m) :
    CitesOptional refusable aliases stands query.fields (query.direct aliases) := by
  unfold Query.direct
  by_cases hempty : query.isEmpty
  · rw [if_pos hempty, Query.eq_empty_of_isEmpty hempty]
    exact .pure S.nothing
  · rw [if_neg hempty]
    exact .map (S.cites_members h hmentions) fun _ _ htext => htext

/-! ### Assignments and orders -/

theorem cites_assignment (S : Standing harmless aliases stands) {a : Assignment}
    (h : ∀ m ∈ a.mentions, harmless m) :
    Cites refusable aliases stands a.fields (a.direct aliases) := by
  obtain ⟨target, source⟩ := a
  obtain ⟨htarget, hsource⟩ := List.forall_mem_append.mp h
  have hmark : Filler " = ?" := (Bare.glue (by decide) (by decide) : Glue " = ").marked 1
  unfold Assignment.fields Assignment.direct
  refine .bind (S.cites_column htarget) fun target texts htext => ?_
  cases source with
  | value v => exact .pure (by simpa using S.before htext hmark)
  | column c =>
      exact .map (S.cites_column hsource) fun _ _ hother =>
        S.between htext (Bare.filler (by decide) (by decide)) hother

theorem cites_assignments (S : Standing harmless aliases stands) {assignments : Assignments}
    (h : ∀ m ∈ assignments.flatMap Assignment.mentions, harmless m) :
    CitesOptional refusable aliases stands (assignments.flatMap Assignment.fields)
      (assignments.direct aliases) := by
  unfold Assignments.direct
  cases assignments with
  | nil => exact .pure S.nothing
  | cons a as =>
      refine .map (.mapM fun a ha => S.cites_assignment fun m hm =>
        h m (List.mem_flatMap_of_mem ha hm)) fun _ _ htexts => ?_
      exact S.intercalate htexts

theorem cites_order (S : Standing harmless aliases stands) {order : Order}
    (h : ∀ m ∈ order.target.mentions, harmless m) :
    Cites refusable aliases stands order.target.fields (order.direct aliases) := by
  have hdirection : Bare order.direction.keyword := by cases order.direction <;> decide
  refine .map (S.cites_column h) fun _ texts htext => ?_
  have hblank : Filler " " := Bare.filler (by decide) (by decide)
  have hordered := S.between htext hblank (S.bare hdirection)
  rwa [List.append_nil] at hordered

end Standing

/-! ## Segments and statements -/

/-- What is not made of fields and names stands in a text as well: keywords, and tables with their
aliases. -/
def Segment.Framed (stands : String → List String → Prop) (aliases : Aliases) : Segment → Prop
  | .keyword text => stands text []
  | .table t => stands (t.direct aliases) []
  | _ => True

theorem Segment.framed_contains (aliases : Aliases) (segment : Segment) :
    segment.Framed Contains aliases := by
  cases segment with
  | keyword text => exact .nothing _
  | table t => exact .nothing _
  | _ => trivial

namespace Standing

variable {refusable : Prop} {harmless : Mention → Prop} {stands : String → List String → Prop}
  {scope : Scope}

/-- A segment cites its fields in the mode of its statement. -/
theorem cites_segment (S : Standing harmless scope.aliases stands) {segment : Segment}
    (hframed : segment.Framed stands scope.aliases)
    (h : ∀ c ∈ segment.conditions, refusable ∨ c.Fitting)
    (hmentions : ∀ m ∈ segment.mentions scope.aliases.outputName, harmless m) :
    CitesOptional refusable scope.aliases stands (segment.fields scope.mode)
      (segment.direct scope) := by
  have hnumber : ∀ (keyword : String) (n : Nat), Bare keyword → stands (keyword ++ toString n) [] :=
    fun keyword n hkeyword => S.bare (hkeyword.append (bare_toString n))
  cases segment with
  | keyword text => exact .pure hframed
  | selection items =>
      rw [Segment.fields, Segment.direct]
      by_cases hcount : scope.mode = .count
      · rw [if_pos hcount, if_pos hcount]
        exact .pure (S.bare (by decide))
      · rw [if_neg hcount, if_neg hcount]
        exact .map (S.cites_list hmentions) fun _ _ htext => htext
  | table t => exact .pure hframed
  | target source =>
      cases source <;> exact .pure (S.quoted (hmentions _ List.mem_cons_self))
  | join kind => exact .pure (S.bare (by cases kind <;> decide))
  | query q => exact S.cites_query h hmentions
  | assignments as => exact S.cites_assignments hmentions
  | groupBy columns =>
      refine .map (.mapM fun c hc => S.cites_column fun m hm =>
        hmentions m (List.mem_flatMap_of_mem hc hm)) fun _ _ htexts => ?_
      exact S.behind (S.intercalate htexts) (Bare.filler (by decide) (by decide))
  | orderBy orders =>
      rw [Segment.fields, Segment.direct, Segment.unlessUnpagedDirect]
      by_cases hfull : scope.mode = .full
      · rw [if_pos hfull, if_pos hfull, bind_assoc]
        refine .map (.mapM fun o ho => S.cites_order fun m hm =>
          hmentions m (List.mem_flatMap_of_mem ho hm)) fun _ _ htexts => ?_
        exact S.behind (S.intercalate htexts) (Bare.filler (by decide) (by decide))
      · rw [if_neg hfull, if_neg hfull]
        exact .pure S.nothing
  | limit n | offset n =>
      rw [Segment.direct, Segment.unlessUnpagedDirect]
      by_cases hfull : scope.mode = .full
      · rw [if_pos hfull]
        exact .pure (hnumber _ n (by decide))
      · rw [if_neg hfull]
        exact .pure S.nothing

/-- Segments cite their fields in order. -/
theorem cites_segments (S : Standing harmless scope.aliases stands) {segments : List Segment}
    (hframed : ∀ segment ∈ segments, segment.Framed stands scope.aliases)
    (h : ∀ c ∈ segments.flatMap Segment.conditions, refusable ∨ c.Fitting)
    (hmentions : ∀ m ∈ segments.flatMap (Segment.mentions scope.aliases.outputName), harmless m) :
    Cites refusable scope.aliases stands (segments.flatMap (Segment.fields scope.mode))
      (Segment.directAll scope segments) := by
  induction segments with
  | nil => exact .pure S.nothing
  | cons segment rest ih =>
      rw [List.flatMap_cons] at h hmentions ⊢
      obtain ⟨hframe, hframes⟩ := List.forall_mem_cons.mp hframed
      obtain ⟨hsegment, hrest⟩ := List.forall_mem_append.mp h
      obtain ⟨hfirst, hlast⟩ := List.forall_mem_append.mp hmentions
      exact .bind (S.cites_segment hframe hsegment hfirst) fun _ _ htext =>
        .map (ih hframes hrest hlast) fun _ _ hothers => S.joinText htext hothers

/-- The statement that counts rows goes around another one. -/
theorem counted {aliases : Aliases} (S : Standing harmless aliases stands) {sql : String}
    {parts : List String} (h : stands sql parts) : stands (Statement.counted sql) parts := by
  have hname : Unquoted "counted" := by decide
  have hopening : Filler "SELECT COUNT(1) FROM (" := Bare.filler (by decide) (by decide)
  have hclosing : Filler ") " := Bare.filler (by decide) (by decide)
  have hcounted := S.between (S.behind h hopening) hclosing (S.settled (settled_quote hname))
  have hquote : ") " ++ Identifier.quote "counted" = ") \x60counted\x60" := by decide
  rw [String.append_assoc, hquote, List.append_nil] at hcounted
  exact hcounted

end Standing

namespace Statement

variable {refusable : Prop} {statement : Statement} {aliases : Aliases} {form : Form}

/-- The mode in which the segments of one of the statements are rendered. -/
def modeOf (statement : Statement) : Form → Mode
  | .rows | .page .. => .full
  | .count => if statement.segments.any Segment.isGrouping then .unpaged else .count

/-- Each of the statements cites the fields of its segments in order. -/
theorem cites_standing {harmless : Mention → Prop} {stands : String → List String → Prop}
    (S : Standing harmless aliases stands)
    (hframed : ∀ segment ∈ statement.segments, segment.Framed stands aliases)
    (h : ∀ c ∈ statement.conditions, refusable ∨ c.Fitting)
    (hmentions : ∀ m ∈ statement.segments.flatMap (Segment.mentions aliases.outputName),
      harmless m) :
    Cites refusable aliases stands
      (statement.segments.flatMap (Segment.fields (statement.modeOf form)))
      (statement.directText aliases form) := by
  have hall : ∀ mode : Mode, Cites refusable aliases stands
      (statement.segments.flatMap (Segment.fields mode))
      (Segment.directAll ⟨aliases, mode⟩ statement.segments) := fun mode =>
    @Standing.cites_segments refusable harmless stands ⟨aliases, mode⟩ S statement.segments hframed
      h hmentions
  cases form with
  | rows => exact hall .full
  | count =>
      unfold modeOf directText
      by_cases hgroups : statement.segments.any Segment.isGrouping
      · simp only [hgroups, ↓reduceIte]
        exact .map (hall .unpaged) fun _ _ hbody => S.counted hbody
      · simp only [hgroups]
        exact hall .count
  | page size offset =>
      -- paging has neither fields nor conditions nor names
      have hnothing : ∀ segment : Segment, segment.isPaging = true → segment.fields .full = [] ∧
          segment.conditions = [] ∧ segment.mentions aliases.outputName = [] ∧
          segment.Framed stands aliases := by
        intro segment hpaging
        cases segment <;> first | exact ⟨rfl, rfl, rfl, trivial⟩ | cases hpaging
      have hpaged := @Standing.cites_segments refusable harmless stands ⟨aliases, .full⟩ S
        (statement.paged size offset).segments
        (forall_paged hframed (fun segment hpaging => (hnothing segment hpaging).2.2.2) size offset)
      rw [statement.flatMap_paged size offset fun segment hpaging => (hnothing segment hpaging).1,
        statement.flatMap_paged size offset fun segment hpaging => (hnothing segment hpaging).2.1,
        statement.flatMap_paged size offset fun segment hpaging => (hnothing segment hpaging).2.2.1]
        at hpaged
      exact hpaged h hmentions

/-- The texts of the fields stand in each of the statements, in order. -/
theorem cites_directText (h : ∀ c ∈ statement.conditions, refusable ∨ c.Fitting) :
    Cites refusable aliases Contains
      (statement.segments.flatMap (Segment.fields (statement.modeOf form)))
      (statement.directText aliases form) :=
  cites_standing (standing_contains aliases) (fun segment _ => segment.framed_contains aliases) h
    fun _ _ => trivial

end Statement

end QueryLoom

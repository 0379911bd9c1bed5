import QueryLoom.Proofs.Citing
import QueryLoom.Proofs.Placeholders

/-!
# Texts that stand in a converted statement

What stands in a statement need not stand in its conversion: a backtick or a quote before it may
make it part of an identifier or of a literal.  It does if it is made of whole tokens of the
statement, up to the numbers of the placeholders in it, which are counted on from those before.
And if all names in the statement can be read apart from what follows them, then every declaration
of a table and every field is made of whole tokens.

## Main definitions

* `Dialect.Shows`: texts that stand in a text as whole tokens.
* `Dialect.ContainsConverted`: texts that stand in a text with their placeholders numbered.
* `Mention.Readable`: a name that is read apart from what follows.

## Main results

* `Dialect.Shows.containsConverted`: what is shown in a text stands in its conversion, converted.
* `standing_shows`: the fields are shown where all names are readable.
* `Statement.shows_tables`, `Statement.shows_fields`: the declarations and the fields of a
  statement.
-/

namespace QueryLoom

namespace Dialect

/-! ## Whole tokens of a text -/

/-- The text is read apart from what follows it, unless that is a backtick, and the parts stand in
it one behind the other as tokens of their own. -/
def Shows (text : String) (parts : List String) : Prop :=
  ∃ runs : List (List Token),
    (∀ rest, Unticked rest →
      lexFrom .plain [] (text.toList ++ rest) = runs.flatten ++ lexFrom .plain [] rest) ∧
    (parts.map lex).Sublist runs

namespace Shows

variable {a b text : String} {as bs parts : List String} {n : Nat}

/-- Its tokens are those of the runs. -/
theorem lex_eq {runs : List (List Token)}
    (h : ∀ rest, Unticked rest →
      lexFrom .plain [] (text.toList ++ rest) = runs.flatten ++ lexFrom .plain [] rest) :
    lex text = runs.flatten := by
  have hall := h [] (by decide)
  rwa [List.append_nil, lexFrom, List.append_nil] at hall

/-- A settled text shows itself. -/
theorem whole (h : Settled text n) : Shows text [text] := by
  obtain ⟨tokens, hread, -, -⟩ := h
  have hruns : ∀ rest, Unticked rest →
      lexFrom .plain [] (text.toList ++ rest) = [tokens].flatten ++ lexFrom .plain [] rest := by
    simpa using hread
  refine ⟨[tokens], hruns, ?_⟩
  rw [List.map_singleton, lex_eq hruns, List.flatten_singleton]

theorem settled (h : Settled text n) : Shows text [] := by
  obtain ⟨tokens, hread, -, -⟩ := h
  exact ⟨[tokens], by simpa using hread, List.nil_sublist _⟩

theorem forget (h : Shows text parts) : Shows text [] := by
  obtain ⟨runs, hread, -⟩ := h
  exact ⟨runs, hread, List.nil_sublist _⟩

/-- Parts that stand in runs of tokens stand in them together. -/
private theorem parts_append {first second : List (List Token)}
    (ha : (as.map lex).Sublist first) (hb : (bs.map lex).Sublist second) :
    ((as ++ bs).map lex).Sublist (first ++ second) := by
  rw [List.map_append]
  exact ha.append hb

theorem between (ha : Shows a as) {filler : String} (hfiller : Filler filler) (hb : Shows b bs) :
    Shows (a ++ filler ++ b) (as ++ bs) := by
  obtain ⟨first, hfirst, has⟩ := ha
  obtain ⟨⟨n, tokens, htokens, -, -⟩, hne, htick⟩ := hfiller
  obtain ⟨second, hsecond, hbs⟩ := hb
  refine ⟨first ++ tokens :: second, fun rest hrest => ?_, parts_append has (hbs.cons _)⟩
  rw [String.toList_append, String.toList_append, List.append_assoc, List.append_assoc,
    hfirst _ (unticked_append hne htick), htokens _ trivial, hsecond rest hrest]
  simp

/-- Where nothing is read, only empty texts are shown; they may be added to any other text. -/
theorem empty_append (ha : Shows "" as) (hb : Shows b bs) : Shows b (as ++ bs) := by
  obtain ⟨first, hfirst, has⟩ := ha
  obtain ⟨second, hsecond, hbs⟩ := hb
  have hnone : first.flatten = [] := (lex_eq hfirst).symm
  refine ⟨first ++ second, fun rest hrest => ?_, parts_append has hbs⟩
  rw [List.flatten_append, hnone, hsecond rest hrest, List.nil_append]

theorem append_empty (ha : Shows a as) (hb : Shows "" bs) : Shows a (as ++ bs) := by
  obtain ⟨first, hfirst, has⟩ := ha
  obtain ⟨second, hsecond, hbs⟩ := hb
  have hnone : second.flatten = [] := (lex_eq hsecond).symm
  refine ⟨first ++ second, fun rest hrest => ?_, parts_append has hbs⟩
  rw [List.flatten_append, hnone, hfirst rest hrest, List.append_nil]

theorem joinText (ha : Shows a as) (hb : Shows b bs) : Shows (Query.joinText a b) (as ++ bs) := by
  unfold Query.joinText
  by_cases hbempty : b.isEmpty
  · rw [if_pos hbempty]
    rw [String.isEmpty_iff.mp hbempty] at hb
    exact ha.append_empty hb
  · rw [if_neg hbempty]
    by_cases haempty : a.isEmpty
    · rw [if_pos haempty]
      rw [String.isEmpty_iff.mp haempty] at ha
      exact ha.empty_append hb
    · rw [if_neg haempty]
      exact ha.between (Bare.filler (by decide) (by decide)) hb

end Shows

/-! ## Their conversion -/

/-- A text as it is converted where `count` placeholders stand before it. -/
def convertBehind (count : Nat) (text : String) : String :=
  String.ofList (convertFrom .plain count text.toList)

theorem convertBehind_eq_print (count : Nat) (text : String) :
    convertBehind count text = String.ofList (printFrom count (lex text)) := by
  rw [printFrom_lex, convertBehind]

/-- The parts stand in a text one behind the other, each of them converted where a number of
placeholders stand before it. -/
def ContainsConverted (text : String) (parts : List String) : Prop :=
  ∃ written, List.Forall₂ (fun part w => ∃ count, w = convertBehind count part) parts written ∧
    Contains text written

namespace ContainsConverted

variable {text : String} {parts : List String}

theorem nothing (text : String) : ContainsConverted text [] := ⟨[], .nil, .nothing text⟩

theorem behind (h : ContainsConverted text parts) (before : String) :
    ContainsConverted (before ++ text) parts := by
  obtain ⟨written, hwritten, hcontains⟩ := h
  exact ⟨written, hwritten, (Contains.nothing before).append hcontains⟩

theorem cons (h : ContainsConverted text parts) (count : Nat) (part : String) :
    ContainsConverted (convertBehind count part ++ text) (part :: parts) := by
  obtain ⟨written, hwritten, hcontains⟩ := h
  exact ⟨_, .cons ⟨count, rfl⟩ hwritten, (Contains.whole _).append hcontains⟩

/-- Where the numbers make no difference it is known what stands there. -/
theorem contains {converted : List String} (h : ContainsConverted text parts)
    (hparts : List.Forall₂ (fun part w => ∀ count, convertBehind count part = w) parts converted) :
    Contains text converted := by
  obtain ⟨written, hwritten, hcontains⟩ := h
  have hsame : written = converted := by
    clear hcontains
    induction hwritten generalizing converted with
    | nil =>
        cases hparts
        rfl
    | cons hfirst _ ih =>
        obtain ⟨count, rfl⟩ := hfirst
        cases hparts with
        | cons hknown hothers => rw [hknown count, ih hothers]
  rwa [← hsame]

end ContainsConverted

/-- Runs of tokens are printed one behind the other. -/
private theorem containsConverted_print {parts : List String} {runs : List (List Token)}
    (h : (parts.map lex).Sublist runs) (count : Nat) :
    ContainsConverted (String.ofList (printFrom count runs.flatten)) parts := by
  induction runs generalizing parts count with
  | nil =>
      obtain rfl : parts = [] := List.map_eq_nil_iff.mp (List.sublist_nil.mp h)
      exact .nothing _
  | cons run runs ih =>
      have hprinted : printFrom count (run :: runs).flatten =
          printFrom count run ++ printFrom (count + run.count .placeholder) runs.flatten :=
        printFrom_append count run runs.flatten
      rw [hprinted, String.ofList_append]
      cases parts with
      | nil => exact .nothing _
      | cons part parts =>
          rw [List.map_cons] at h
          cases h with
          | cons _ hskipped =>
              have hrest := @ih (part :: parts) hskipped (count + run.count .placeholder)
              exact hrest.behind _
          | cons_cons _ hrest =>
              rw [← convertBehind_eq_print]
              exact (ih hrest _).cons count part

/-- What is shown in a text stands in its conversion, converted. -/
theorem Shows.containsConverted {text : String} {parts : List String} (h : Shows text parts) :
    ContainsConverted (convert text) parts := by
  obtain ⟨runs, hread, hparts⟩ := h
  rw [convert_eq_print, lex_eq hread]
  exact containsConverted_print hparts 0

end Dialect

open Dialect

/-! ## Readable names -/

/-- A name that is read apart from what follows it in a text, as it is written there. -/
def Mention.Readable : Mention → Prop
  | .quoted name => ∃ n, Settled (Identifier.quote name) n
  | .bare name => ∃ n, Settled name n
  | .verbatim text => ∃ n, Settled text n

/-- Harmless names are readable. -/
theorem Mention.Harmless.readable {m : Mention} (h : m.Harmless) : m.Readable := by
  cases m with
  | quoted name => exact ⟨0, settled_quote h⟩
  | bare name => exact ⟨0, (Bare.complete h).settled⟩
  | verbatim text => exact h.elim

/-- A column behind an alias is settled when both are readable. -/
theorem Settled.qualify {aliasName column : String} {m n : Nat} (halias : Settled aliasName m)
    (hcolumn : Settled (Identifier.quote column) n) :
    Settled (Identifier.qualify aliasName column) (m + n) :=
  halias.between (Bare.glue (by decide) (by decide)) hcolumn

/-- A field that is written has a column. -/
theorem Field.exists_column {aliases : Aliases} {f : Field} {text : String}
    (htext : f.direct aliases = .ok text) :
    ∃ column, (Names.ofEntity f.entity).column? f.property = some column := by
  cases hcolumn : (Names.ofEntity f.entity).column? f.property with
  | some column => exact ⟨column, rfl⟩
  | none =>
      rw [direct_of_undeclared (f.column_eq_none_iff.mp hcolumn)] at htext
      cases htext

/-- A field is settled behind a bare alias. -/
theorem Field.settled_direct {aliases : Aliases} (hclean : aliases.Clean) {f : Field}
    {text : String} (h : ∀ m ∈ (Column.field f).mentions, m.Readable)
    (htext : f.direct aliases = .ok text) : ∃ n, Settled text n := by
  obtain ⟨column, hcolumn⟩ := f.exists_column htext
  obtain ⟨n, hquoted⟩ : ∃ n, Settled (Identifier.quote column) n :=
    h (.quoted column) (by simp [Column.mentions, hcolumn])
  rw [direct_of_column hcolumn] at htext
  cases halias : aliases.aliasOf? (.ofEntity f.entity) with
  | none =>
      rw [halias] at htext
      cases htext
      exact ⟨n, hquoted⟩
  | some aliasName =>
      rw [halias] at htext
      cases htext
      exact ⟨0 + n, (hclean.aliasOf halias).complete.settled.qualify hquoted⟩

/-- A column written as text is settled if what it is made of is readable. -/
theorem Aliases.Clean.exists_settled_qualifyColumn {aliases : Aliases} (hclean : aliases.Clean)
    {text : String} (h : ∀ m ∈ (Column.raw text).mentions, m.Readable) :
    ∃ n, Settled (aliases.qualifyColumn text) n := by
  unfold Aliases.qualifyColumn
  simp only [Column.mentions] at h
  cases hsplit : Aliases.splitAtDot text.toList with
  | some parts =>
      rw [hsplit] at h
      obtain ⟨hleft, hright⟩ := List.forall_mem_cons.mp h
      obtain ⟨k, hcolumn⟩ : ∃ k, Settled (Identifier.quote (String.ofList parts.2)) k :=
        hright _ List.mem_cons_self
      cases hresolved : aliases.resolveQualifier? (String.ofList parts.1) with
      | some aliasName =>
          simp only [hresolved, Option.getD_some]
          exact ⟨0 + k, (hclean.resolved hresolved).complete.settled.qualify hcolumn⟩
      | none =>
          obtain ⟨n, hsettled⟩ := hleft
          simp only [hresolved, Option.getD_none]
          exact ⟨n + k, hsettled.qualify hcolumn⟩
  | none =>
      rw [hsplit] at h
      obtain ⟨k, htext⟩ : ∃ k, Settled (Identifier.quote text) k := h _ List.mem_cons_self
      cases honly : aliases.onlyAlias? with
      | some aliasName =>
          exact ⟨0 + k, (hclean.onlyAlias honly).complete.settled.qualify htext⟩
      | none => exact ⟨k, htext⟩

/-- The fields are shown where all names are readable and the aliases bare. -/
theorem standing_shows {aliases : Aliases} (hclean : aliases.Clean) :
    Standing Mention.Readable aliases Shows where
  field h htext := by
    obtain ⟨n, hsettled⟩ := Field.settled_direct hclean h htext
    exact .whole hsettled
  raw h := by
    obtain ⟨n, hsettled⟩ := hclean.exists_settled_qualifyColumn h
    exact .settled hsettled
  quoted h := by
    obtain ⟨n, hsettled⟩ := h
    exact .settled hsettled
  verbatim h := by
    obtain ⟨n, hsettled⟩ := h
    exact .settled hsettled
  settled h := .settled h
  between ha hfiller hb := ha.between hfiller hb
  joinText := .joinText
  forget := .forget

/-! ## The aliases of a statement -/

theorem TableRef.columns_directDeclare {t : TableRef} {aliases aliases' : Aliases}
    (h : t.directDeclare aliases = .ok aliases') : aliases'.columns = aliases.columns := by
  obtain ⟨-, rfl⟩ := directDeclare_eq_ok h
  exact aliases.columns_addTable _ _ _

/-- The first pass registers the aliases of columns, the last one in front. -/
theorem Declaration.columns_directExplicit {declarations : List Declaration}
    {aliases aliases' : Aliases} (h : declarations.foldlM directExplicit aliases = .ok aliases') :
    aliases'.columns = (declarations.filterMap columnAlias?).reverse ++ aliases.columns := by
  induction declarations generalizing aliases with
  | nil =>
      cases h
      rfl
  | cons declaration rest ih =>
      rw [List.foldlM_cons] at h
      obtain ⟨next, hnext, h⟩ := exists_of_bind_eq_ok h
      rw [ih h]
      cases declaration with
      | column f aliasName =>
          cases hnext
          simp [columnAlias?, Aliases.addColumn]
      | table t =>
          have hkept : next.columns = aliases.columns := by
            unfold directExplicit at hnext
            by_cases hgiven : t.explicitAlias?.isSome
            · simp only [hgiven, ↓reduceIte] at hnext
              exact t.columns_directDeclare hnext
            · simp only [hgiven, Bool.false_eq_true, ↓reduceIte] at hnext
              cases hnext
              rfl
          rw [hkept, List.filterMap_cons_none rfl]

/-- The second pass registers none. -/
theorem Declaration.columns_directImplicit {declarations : List Declaration}
    {aliases aliases' : Aliases} (h : declarations.foldlM directImplicit aliases = .ok aliases') :
    aliases'.columns = aliases.columns := by
  induction declarations generalizing aliases with
  | nil =>
      cases h
      rfl
  | cons declaration rest ih =>
      rw [List.foldlM_cons] at h
      obtain ⟨next, hnext, h⟩ := exists_of_bind_eq_ok h
      rw [ih h]
      unfold directImplicit at hnext
      cases declaration with
      | column f aliasName =>
          cases hnext
          rfl
      | table t =>
          by_cases hgiven : t.explicitAlias?.isSome
          · simp only [hgiven, ↓reduceIte] at hnext
            cases hnext
            rfl
          · simp only [hgiven, Bool.false_eq_true, ↓reduceIte] at hnext
            exact t.columns_directDeclare hnext

namespace Statement

variable {statement : Statement} {aliases : Aliases}

/-- The output names are those that the statement declares. -/
theorem outputName_of_directAliases (h : statement.directAliases = .ok aliases) :
    aliases.outputName = statement.outputName := by
  obtain ⟨named, hnamed, h⟩ := exists_of_bind_eq_ok h
  have hcolumns : aliases.columns = statement.columnAliases := by
    rw [Declaration.columns_directImplicit h, Declaration.columns_directExplicit hnamed]
    exact List.append_nil _
  funext f
  rw [Aliases.outputName, Aliases.columnAlias?, hcolumns]
  rfl

/-- An alias is explicit or generated. -/
theorem explicit_or_generated (h : statement.directAliases = .ok aliases) {e : AliasEntry}
    (he : e ∈ aliases.entries) :
    e.aliasName ∈ statement.explicitAliases ∨ ∃ n, e.aliasName = Aliases.generated n := by
  rcases ((numbered_of_directAliases h).mem_names_iff _).mp (List.mem_map_of_mem he) with
    hexplicit | ⟨k, -, hgenerated⟩
  · rw [names_of_explicitEntries] at hexplicit
    exact .inl hexplicit
  · exact .inr ⟨_, hgenerated⟩

/-- All aliases are bare if the explicit ones are. -/
theorem clean_of_directAliases (h : statement.directAliases = .ok aliases)
    (hbare : ∀ aliasName ∈ statement.explicitAliases, Bare aliasName) : aliases.Clean := by
  intro e he
  rcases explicit_or_generated h he with hexplicit | ⟨n, hgenerated⟩
  · exact hbare _ hexplicit
  · rw [hgenerated]
    exact Aliases.bare_generated n

end Statement

/-! ## Statements -/

/-- The quoted name of a table is readable. -/
theorem TableSource.settled_name {source : TableSource} (h : ∀ m ∈ source.mentions, m.Readable) :
    ∃ n, Settled (Identifier.quote source.directName) n := by
  cases source with
  | entity e => exact h _ List.mem_cons_self
  | named table => exact h _ List.mem_cons_self

/-- A table is settled with its alias. -/
theorem TableRef.settled_direct {aliases : Aliases} (hclean : aliases.Clean) {t : TableRef}
    (h : ∀ m ∈ t.source.mentions, m.Readable) : ∃ n, Settled (t.direct aliases) n := by
  obtain ⟨n, hname⟩ := TableSource.settled_name h
  have halias : Bare (aliases.get t.key).1 := (hclean.get t.key).1
  exact ⟨n + 0, hname.between (Bare.glue (by decide) (by decide)) (settled_quote halias.unquoted)⟩

/-- Keywords and tables stand in their texts. -/
theorem Segment.framed_shows {aliases : Aliases} (hclean : aliases.Clean) {segment : Segment}
    (hworded : segment.Worded) {output : Field → String}
    (h : ∀ m ∈ segment.mentions output, m.Readable) : segment.Framed Shows aliases := by
  cases segment with
  | keyword text => exact .settled (Bare.complete hworded).settled
  | table t =>
      obtain ⟨n, hsettled⟩ := TableRef.settled_direct hclean h
      exact .settled hsettled
  | _ => trivial

/-- The tables of segments are shown in their text, in order. -/
theorem Segment.shows_directAll {scope : Scope} (hclean : scope.aliases.Clean)
    {segments : List Segment} (hworded : ∀ segment ∈ segments, segment.Worded)
    (h : ∀ m ∈ segments.flatMap (mentions scope.aliases.outputName), m.Readable) {sql : String}
    (hsql : directAll scope segments = .ok sql) :
    Shows sql ((segments.filterMap table?).map (·.direct scope.aliases)) := by
  induction segments generalizing sql with
  | nil =>
      cases hsql
      exact (standing_shows hclean).nothing
  | cons segment rest ih =>
      rw [List.flatMap_cons] at h
      obtain ⟨hfirst, hothers⟩ := List.forall_mem_append.mp h
      obtain ⟨hword, hwords⟩ := List.forall_mem_cons.mp hworded
      obtain ⟨text, others, htext, hrest, rfl⟩ := directAll_cons_eq_ok hsql
      have hshown := ih hwords hothers hrest
      have hcites := @Standing.cites_segment True _ _ _ (standing_shows hclean) segment
        (framed_shows hclean hword hfirst) (fun _ _ => .inl trivial) hfirst
      rw [htext] at hcites
      cases hcites with
      | written _ hstands =>
          cases segment with
          | table t =>
              cases htext
              obtain ⟨n, hsettled⟩ := TableRef.settled_direct hclean hfirst
              exact (Shows.whole hsettled).joinText hshown
          | _ => exact hstands.forget.joinText hshown

namespace Statement

variable {statement : Statement} {aliases : Aliases} {form : Form} {sql : String}

/-- The quoted names of the tables are settled. -/
theorem settled_name {output : Field → String}
    (h : ∀ m ∈ statement.segments.flatMap (Segment.mentions output), m.Readable) {t : TableRef}
    (ht : t ∈ statement.segments.filterMap Segment.table?) :
    ∃ n, Settled (Identifier.quote t.source.directName) n := by
  obtain ⟨segment, hsegment, htable⟩ := List.mem_filterMap.mp ht
  obtain rfl : segment = .table t := by
    cases segment <;> cases htable
    rfl
  exact TableSource.settled_name fun m hm => h m (List.mem_flatMap_of_mem hsegment hm)

/-- Each of the statements shows its tables in order. -/
theorem shows_tables (hclean : aliases.Clean) (hworded : statement.Worded)
    (h : ∀ m ∈ statement.segments.flatMap (Segment.mentions aliases.outputName), m.Readable)
    (hsql : statement.directText aliases form = .ok sql) :
    Shows sql ((statement.segments.filterMap Segment.table?).map (·.direct aliases)) := by
  cases form with
  | rows =>
      have hall := @Segment.shows_directAll ⟨aliases, .full⟩ hclean _ hworded h sql hsql
      exact hall
  | count =>
      rw [directText] at hsql
      by_cases hgroups : statement.segments.any Segment.isGrouping
      · rw [if_pos hgroups] at hsql
        obtain ⟨body, hbody, hsql⟩ := exists_of_bind_eq_ok hsql
        cases hsql
        exact (standing_shows hclean).counted
          (@Segment.shows_directAll ⟨aliases, .unpaged⟩ hclean _ hworded h body hbody)
      · rw [if_neg hgroups] at hsql
        exact @Segment.shows_directAll ⟨aliases, .count⟩ hclean _ hworded h sql hsql
  | page size offset =>
      have hnone : ∀ segment : Segment, segment.isPaging = true →
          segment.mentions aliases.outputName = [] := by
        intro segment hpaging
        cases segment <;> first | rfl | cases hpaging
      rw [← statement.flatMap_paged size offset hnone] at h
      have hpage := @Segment.shows_directAll ⟨aliases, .full⟩ hclean _
        (hworded.paged size offset) h sql hsql
      rwa [tables_paged] at hpage

/-- Each of the statements shows its fields in order. -/
theorem shows_fields (hclean : aliases.Clean) (hworded : statement.Worded)
    (h : ∀ m ∈ statement.segments.flatMap (Segment.mentions aliases.outputName), m.Readable)
    (hsql : statement.directText aliases form = .ok sql) :
    ∃ texts, (statement.segments.flatMap (Segment.fields (statement.modeOf form))).mapM
      (Field.direct aliases) = .ok texts ∧ Shows sql texts := by
  have hframed : ∀ segment ∈ statement.segments, segment.Framed Shows aliases :=
    fun segment hsegment => Segment.framed_shows hclean (hworded segment hsegment) fun m hm =>
      h m (List.mem_flatMap_of_mem hsegment hm)
  have hcites := @cites_standing True statement aliases form _ _ (standing_shows hclean) hframed
    (fun _ _ => .inl trivial) h
  rw [hsql] at hcites
  cases hcites with
  | written hfields hstands => exact ⟨_, hfields, hstands⟩

end Statement

end QueryLoom

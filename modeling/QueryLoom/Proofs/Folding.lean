import QueryLoom.Proofs.Conversion
import QueryLoom.Proofs.SharedAliases
import QueryLoom.Proofs.Shown

/-!
# Identifiers of the server

The server takes what stands between double quotes for the name itself, and makes the letters of any
other identifier lower-case.  A table's alias is declared as a quoted identifier, but stands bare in
front of the fields of the table.  So after the conversion both denote the same name exactly when
the alias has no upper-case letter, as is the case for every alias that is generated.

## Main definitions

* `Dialect.denoted`: the name that an identifier denotes to the server.
* `PlainWord`: names that may be written as identifiers without quotes.

## Main results

* `Dialect.denoted_quote`: a quoted identifier denotes its name.
* `PlainWord.denoted_eq_iff`: a bare one denotes its name if that is in lower case.
* `alias_is_folded_in_front_of_fields`: the summary.
-/

namespace QueryLoom

namespace Dialect

/-! ## Names that are denoted -/

/-- The name that an identifier denotes: between double quotes the name itself, where two double
quotes stand for one, and otherwise the identifier with lower-case letters in place of upper-case
ones. -/
def denoted (identifier : String) : String :=
  match identifier.toList with
  | '"' :: rest => String.ofList (undouble rest.dropLast)
  | bare => String.ofList (bare.map Char.toLower)

/-- A quoted name is converted to an identifier between double quotes. -/
theorem convertBehind_quote {name : String} (h : Unquoted name) (count : Nat) :
    (convertBehind count (Identifier.quote name)).toList =
      '"' :: (escape name.toList ++ ['"']) := by
  have hlex : lex (Identifier.quote name) = [.identifier name.toList true] := by
    unfold lex Identifier.quote Identifier.quoteChars
    rw [show Identifier.isQuoted name.toList = false from h, if_neg Bool.false_ne_true,
      String.toList_ofList]
    have hread := lexFrom_double name.toList [] [] (by decide)
    simpa [Identifier.tick, lexFrom] using hread
  rw [convertBehind_eq_print, hlex, String.toList_ofList]
  simp [printFrom]

/-- A quoted name denotes itself. -/
theorem denoted_quote {name : String} (h : Unquoted name) (count : Nat) :
    denoted (convertBehind count (Identifier.quote name)) = name := by
  unfold denoted
  rw [convertBehind_quote h]
  simp only [List.dropLast_concat, undouble_escape, String.ofList_toList]

/-! ## Conversion of texts in a row -/

/-- A text that is read apart is converted apart from what follows it; what follows is numbered on
from its placeholders. -/
theorem ReadsApart.convertBehind_append {allowed : List Char → Prop} {a b : String} {n : Nat}
    (ha : ReadsApart allowed a.toList n) (hnil : allowed []) (hb : allowed b.toList)
    (count : Nat) :
    convertBehind count (a ++ b) = convertBehind count a ++ convertBehind (count + n) b := by
  obtain ⟨tokens, hread, hcount, -⟩ := ha
  have halone : Dialect.lex a = tokens := by
    have hall := hread [] hnil
    rwa [List.append_nil, lexFrom, List.append_nil] at hall
  have hboth : Dialect.lex (a ++ b) = tokens ++ Dialect.lex b := by
    rw [Dialect.lex, String.toList_append, hread _ hb, Dialect.lex]
  rw [convertBehind_eq_print, convertBehind_eq_print, convertBehind_eq_print, hboth, halone,
    printFrom_append, hcount, String.ofList_append]

end Dialect

open Dialect Step

/-- A bare text is converted to itself. -/
theorem Bare.convertBehind {text : String} (h : Bare text) (count : Nat) :
    Dialect.convertBehind count text = text := by
  have hplain : ∀ (cs : List Char) (count : Nat),
      (∀ c ∈ cs, c ≠ '?' ∧ c ≠ '\x27' ∧ c ≠ Identifier.tick) →
        convertFrom .plain count cs = cs := by
    intro cs
    induction cs with
    | nil => exact fun _ _ => rfl
    | cons c cs ih =>
        intro count hcs
        obtain ⟨⟨hmark, hquote, htick⟩, hrest⟩ := List.forall_mem_cons.mp hcs
        have htick' : c ≠ '\x60' := htick
        simp [convertFrom, ih count hrest]
  rw [Dialect.convertBehind, hplain _ count h, String.ofList_toList]

/-- Behind a bare alias a column is converted. -/
theorem Bare.convertBehind_qualify {aliasName : String} (h : Bare aliasName) (column : String)
    (count : Nat) :
    Dialect.convertBehind count (Identifier.qualify aliasName column) =
      aliasName ++ "." ++ Dialect.convertBehind count (Identifier.quote column) := by
  have hqualifier : Bare (aliasName ++ ".") := h.append (by decide)
  rw [Identifier.qualify, hqualifier.complete.convertBehind_append trivial trivial,
    hqualifier.convertBehind, Nat.add_zero]

/-- A settled text with a quoted alias is converted apart from it. -/
theorem Settled.convertBehind_declared {text : String} {n : Nat} (h : Settled text n)
    (aliasName : String) (count : Nat) :
    Dialect.convertBehind count (text ++ " " ++ Identifier.quote aliasName) =
      Dialect.convertBehind count text ++ " " ++
        Dialect.convertBehind (count + n) (Identifier.quote aliasName) := by
  have hblank : Bare " " := by decide
  have hunticked : Unticked (" " ++ Identifier.quote aliasName).toList := by
    rw [String.toList_append]
    exact unticked_append (by decide) hblank.unticked
  rw [String.append_assoc, h.convertBehind_append (by decide) hunticked,
    hblank.complete.convertBehind_append trivial trivial, hblank.convertBehind, Nat.add_zero,
    String.append_assoc]

/-! ## Upper-case letters -/

theorem isUpper_eq_false_iff {c : Char} :
    c.isUpper = false ↔ ¬ (c.val ≥ 'A'.val ∧ c.val ≤ 'Z'.val) :=
  decide_eq_false_iff_not

/-- A character is its own lower-case form unless it is an upper-case letter. -/
theorem toLower_eq_self_iff {c : Char} : c.toLower = c ↔ c.isUpper = false := by
  unfold Char.toLower
  rw [isUpper_eq_false_iff]
  by_cases hupper : c.val ≥ 'A'.val ∧ c.val ≤ 'Z'.val
  · rw [dif_pos hupper]
    refine iff_of_false (fun hsame => ?_) (not_not_intro hupper)
    have hshift : c.val + ('a'.val - 'A'.val) = c.val := congrArg Char.val hsame
    simp at hshift
  · rw [dif_neg hupper]
    exact iff_of_true rfl hupper

/-- Digits are no letters. -/
theorem isUpper_of_isDigit {c : Char} (h : c.isDigit = true) : c.isUpper = false := by
  rw [isUpper_eq_false_iff]
  simp only [Char.isDigit, Bool.and_eq_true, decide_eq_true_eq, UInt32.le_iff_toNat_le,
    ge_iff_le] at h ⊢
  have hless : '9'.val.toNat < 'A'.val.toNat := by decide
  omega

/-! ## Plain words -/

/-- Whether a character is an ASCII letter, a digit or an underscore. -/
def isWordPart (c : Char) : Bool := c.isAlphanum || c == '_'

/-- Whether characters are word characters, and the first one is no digit. -/
def isPlainWord : List Char → Bool
  | [] => false
  | c :: rest => (c.isAlpha || c == '_') && rest.all isWordPart

/-- A name that may be written as an identifier without quotes. -/
def PlainWord (name : String) : Prop := isPlainWord name.toList = true

instance (name : String) : Decidable (PlainWord name) :=
  inferInstanceAs (Decidable (isPlainWord name.toList = true))

namespace PlainWord

variable {name : String}

theorem isWordPart_of_mem (h : PlainWord name) {c : Char} (hc : c ∈ name.toList) :
    isWordPart c = true := by
  unfold PlainWord at h
  cases hname : name.toList with
  | nil =>
      rw [hname] at hc
      cases hc
  | cons first rest =>
      rw [hname, isPlainWord, Bool.and_eq_true, List.all_eq_true] at h
      rw [hname] at hc
      rcases List.mem_cons.mp hc with rfl | hrest
      · have hfirst := h.1
        simp only [isWordPart, Char.isAlphanum, Bool.or_eq_true] at hfirst ⊢
        exact hfirst.imp_left .inl
      · exact h.2 c hrest

theorem ne_of_mem (h : PlainWord name) {c d : Char} (hc : c ∈ name.toList)
    (hd : isWordPart d = false) : c ≠ d := by
  rintro rfl
  rw [h.isWordPart_of_mem hc] at hd
  cases hd

/-- A plain word has no marks, quotes and backticks. -/
theorem bare (h : PlainWord name) : Bare name :=
  fun _ hc => ⟨h.ne_of_mem hc (by decide), h.ne_of_mem hc (by decide), h.ne_of_mem hc (by decide)⟩

/-- It is put between double quotes as it is. -/
theorem convertBehind_quote (h : PlainWord name) (count : Nat) :
    convertBehind count (Identifier.quote name) = "\"" ++ name ++ "\"" := by
  have hescape : ∀ cs : List Char, '"' ∉ cs → escape cs = cs := by
    intro cs
    induction cs with
    | nil => exact fun _ => rfl
    | cons c cs ih =>
        intro hcs
        obtain ⟨hc, hrest⟩ := not_or.mp (mt List.mem_cons.mpr hcs)
        rw [escape, if_neg (Ne.symm hc), ih hrest]
  have hquotes : '"' ∉ name.toList := fun hmem => h.ne_of_mem hmem (by decide) rfl
  apply String.toList_inj.mp
  rw [Dialect.convertBehind_quote h.bare.unquoted, hescape _ hquotes]
  simp

/-- Between double quotes it denotes itself. -/
theorem denoted_quoted (h : PlainWord name) : denoted ("\"" ++ name ++ "\"") = name := by
  rw [← h.convertBehind_quote 0]
  exact denoted_quote h.bare.unquoted 0

/-- Without quotes its letters are taken as lower-case ones. -/
theorem denoted_eq (h : PlainWord name) :
    denoted name = String.ofList (name.toList.map Char.toLower) := by
  have hquotes : '"' ∉ name.toList := fun hmem => h.ne_of_mem hmem (by decide) rfl
  unfold denoted
  cases hname : name.toList with
  | nil => rfl
  | cons c rest =>
      rw [hname] at hquotes
      have hc : c ≠ '"' := fun hc => hquotes (hc ▸ List.mem_cons_self)
      simp [hc]

/-- So a word denotes itself when it has no upper-case letters. -/
theorem denoted_eq_iff (h : PlainWord name) :
    denoted name = name ↔ ∀ c ∈ name.toList, c.isUpper = false := by
  have hall : name.toList.map Char.toLower = name.toList ↔
      ∀ c ∈ name.toList, c.toLower = c := by
    conv_lhs => rw [← List.map_id name.toList, List.map_map]
    exact List.map_inj_left
  rw [h.denoted_eq, ← String.toList_inj, String.toList_ofList, hall]
  exact forall₂_congr fun c _ => toLower_eq_self_iff

end PlainWord

namespace Aliases

theorem toList_generated (n : Nat) : (generated n).toList = 't' :: Nat.toDigits 10 n := by
  rw [generated, String.toList_append, Nat.toString_eq_repr, Nat.toList_repr]
  rfl

/-- Generated aliases are plain words. -/
theorem plainWord_generated (n : Nat) : PlainWord (generated n) := by
  unfold PlainWord
  rw [toList_generated, isPlainWord, Bool.and_eq_true, List.all_eq_true]
  refine ⟨by decide, fun c hc => ?_⟩
  have hdigit : c.isDigit = true := Nat.isDigit_of_mem_toDigits (by decide) (by decide) hc
  simp [isWordPart, Char.isAlphanum, hdigit]

/-- They are in lower case. -/
theorem denoted_generated (n : Nat) : denoted (generated n) = generated n := by
  rw [(plainWord_generated n).denoted_eq_iff, toList_generated]
  intro c hc
  rcases List.mem_cons.mp hc with rfl | hdigits
  · decide
  · exact isUpper_of_isDigit (Nat.isDigit_of_mem_toDigits (by decide) (by decide) hdigits)

end Aliases

/-! ## Summary -/

namespace Statement

variable {statement : Statement} {aliases : Aliases}

/-- The alias of a table is a plain word if the explicit ones are. -/
theorem plainWord_of_directAliases (h : statement.directAliases = .ok aliases)
    (hplain : ∀ aliasName ∈ statement.explicitAliases, PlainWord aliasName) {t : TableRef}
    {aliasName : String} (halias : aliases.aliasOf? t.key = some aliasName) :
    PlainWord aliasName := by
  unfold Aliases.aliasOf? Aliases.entry? at halias
  obtain ⟨e, hfound, rfl⟩ := Option.map_eq_some_iff.mp halias
  rcases explicit_or_generated h (List.mem_of_find?_eq_some hfound) with hexplicit | ⟨n, hgenerated⟩
  · exact hplain _ hexplicit
  · rw [hgenerated]
    exact Aliases.plainWord_generated n

end Statement

/-- Let one of the statements of a chain be built, where explicit aliases are plain words and all
names can be read apart from what follows them.  Its conversion declares the tables in order, each
with its alias between double quotes, and cites the fields in order, those of a declared table
behind the alias of this table without quotes.  Only in names that have placeholders does it matter
how many of them stand before.

The declared identifier denotes the alias.  The one in front of the fields denotes the alias with
lower-case letters; so both denote the same exactly when the alias has no upper-case letter, and
always when it was generated. -/
theorem alias_is_folded_in_front_of_fields {stage : Stage} (chain : Chain stage) (form : Form)
    {catalog : Catalog} (hcatalog : catalog.Reached)
    (hplain : ∀ aliasName ∈ chain.tables.filterMap TableRef.explicitAlias?, PlainWord aliasName)
    (hreadable : ∀ m ∈ chain.statement.mentions, m.Readable) {bound : BoundStatement}
    (hbuild : outcome (chain.statement.buildAs form catalog) = .ok bound) :
    ∃ (aliases : Aliases) (references : List String),
      (chain.fields (chain.statement.modeOf form)).mapM (Field.direct aliases) = .ok references ∧
      ContainsConverted (convert bound.sql) (chain.tables.map (·.direct aliases)) ∧
      ContainsConverted (convert bound.sql) references ∧
      ∀ t ∈ chain.tables, ∃ aliasName, aliases.aliasOf? t.key = some aliasName ∧
        (∀ given, t.explicitAlias? = some given → aliasName = given) ∧
        (∀ count, convertBehind count (t.direct aliases) =
          convertBehind count (Identifier.quote t.source.directName) ++ " " ++
            ("\"" ++ aliasName ++ "\"")) ∧
        (∀ f ∈ chain.fields (chain.statement.modeOf form), t.key = .ofEntity f.entity →
          ∃ column reference, f.direct aliases = .ok reference ∧
            (Names.ofEntity f.entity).column? f.property = some column ∧
            ∀ count, convertBehind count reference =
              aliasName ++ "." ++ convertBehind count (Identifier.quote column)) ∧
        denoted ("\"" ++ aliasName ++ "\"") = aliasName ∧
        denoted aliasName = String.ofList (aliasName.toList.map Char.toLower) ∧
        (denoted aliasName = denoted ("\"" ++ aliasName ++ "\"") ↔
          ∀ c ∈ aliasName.toList, c.isUpper = false) ∧
        (t.explicitAlias? = none → denoted aliasName = denoted ("\"" ++ aliasName ++ "\"")) := by
  obtain ⟨hdeclared, hmentioned⟩ := chain.lists_statement
  obtain ⟨-, aliases, haliases, hsql, -⟩ :=
    Statement.direct_eq_ok (Chain.direct_of_buildAs hcatalog (eq_ok_of_outcome hbuild))
  have hexplicit : ∀ aliasName ∈ chain.statement.explicitAliases, PlainWord aliasName := by
    rwa [Statement.explicitAliases, hdeclared]
  have hclean : aliases.Clean :=
    Statement.clean_of_directAliases haliases fun _ hmem => (hexplicit _ hmem).bare
  have hmentions : ∀ m ∈ chain.statement.segments.flatMap (Segment.mentions aliases.outputName),
      m.Readable := by
    rw [Statement.outputName_of_directAliases haliases]
    exact fun m hm => hreadable m (List.mem_append_right _ hm)
  have htables := Statement.shows_tables hclean chain.worded hmentions hsql
  obtain ⟨references, hreferences, hfields⟩ :=
    Statement.shows_fields hclean chain.worded hmentions hsql
  rw [chain.fields_segments] at hreferences
  rw [hmentioned] at htables
  refine ⟨aliases, references, hreferences, htables.containsConverted, hfields.containsConverted,
    fun t ht => ?_⟩
  obtain ⟨n, hname⟩ := Statement.settled_name hmentions (hmentioned ▸ ht)
  rw [← hdeclared] at ht
  obtain ⟨aliasName, halias⟩ := Statement.exists_aliasOf haliases ht
  have hword : PlainWord aliasName := Statement.plainWord_of_directAliases haliases hexplicit halias
  refine ⟨aliasName, halias, fun given hgiven => ?_, fun count => ?_, fun f hf hkey => ?_,
    hword.denoted_quoted, hword.denoted_eq, ?_, fun hnone => ?_⟩
  · exact Option.some.inj (halias.symm.trans (Statement.aliasOf_of_explicit haliases ht hgiven))
  · rw [TableRef.direct, Aliases.get, halias, hname.convertBehind_declared,
      hword.convertBehind_quote]
  · obtain ⟨text, htext⟩ := Chain.exists_direct_of_field hsql hf
    obtain ⟨column, hcolumn⟩ := f.exists_column htext
    refine ⟨column, Identifier.qualify aliasName column, ?_, hcolumn,
      hword.bare.convertBehind_qualify column⟩
    rw [Field.direct_of_column hcolumn, ← hkey, halias]
    rfl
  · rw [hword.denoted_quoted]
    exact hword.denoted_eq_iff
  · obtain ⟨k, hk⟩ := Statement.exists_unnamed ht hnone
    obtain rfl : aliasName = _ :=
      Option.some.inj (halias.symm.trans (Statement.aliasOf_of_unnamed haliases hk))
    rw [hword.denoted_quoted]
    exact Aliases.denoted_generated _

/-- In what users visited and ordered the fields denote the declared tables. -/
theorem aliases_of_ahead_are_denoted : ∃ bound users,
    outcome (Chain.ahead.statement.buildAs .rows (.empty 0)) = .ok bound ∧
      Contains (convert bound.sql)
        ["o.\"user_id\"", "o.\"user_id\"", users ++ "." ++ "\"id\""] ∧
      denoted "o" = denoted "\"o\"" ∧ denoted users = denoted ("\"" ++ users ++ "\"") := by
  obtain ⟨bound, hbuild⟩ : ∃ bound,
      outcome (Chain.ahead.statement.buildAs .rows (.empty 0)) = .ok bound := by
    obtain ⟨bound, catalog', hbuild⟩ : ∃ bound catalog',
        Chain.ahead.statement.buildAs .rows (.empty 0) = .ok bound catalog' :=
      Step.exists_of_succeeds (by decide +kernel)
    exact ⟨bound, by rw [hbuild]; rfl⟩
  have hharmless : ∀ m ∈ Chain.ahead.statement.mentions, m.Harmless := by decide +kernel
  obtain ⟨aliases, references, hreferences, -, hcontains, htables⟩ :=
    alias_is_folded_in_front_of_fields Chain.ahead .rows (.empty 0) (by decide)
      (fun m hm => (hharmless m hm).readable) hbuild
  obtain ⟨orders, -, hgiven, -, horders, -, -, hlower, -⟩ :=
    htables ⟨.entity .order, some "o"⟩ (by decide)
  obtain rfl := hgiven "o" rfl
  obtain ⟨users, -, -, -, husers, -, -, -, hgenerated⟩ := htables ⟨.entity .user, none⟩ (by decide)
  obtain ⟨column, ordered, hordered, hcolumn, hconverted⟩ :=
    horders ⟨.order, "userId"⟩ (by decide) rfl
  obtain rfl : "user_id" = column := Option.some.inj hcolumn
  obtain ⟨column, user, huser, hcolumn, hconverted'⟩ := husers ⟨.user, "id"⟩ (by decide) rfl
  obtain rfl : "id" = column := Option.some.inj hcolumn
  have hfields : Chain.ahead.fields .full =
      [⟨.order, "userId"⟩, ⟨.order, "userId"⟩, ⟨.user, "id"⟩] := by decide
  have hwritten : (Chain.ahead.fields .full).mapM (Field.direct aliases) =
      .ok [ordered, ordered, user] := by
    rw [hfields, List.mapM_cons, List.mapM_cons, List.mapM_cons, hordered, huser]
    rfl
  obtain rfl : references = [ordered, ordered, user] :=
    Except.ok.inj (hreferences.symm.trans hwritten)
  have hid : PlainWord "id" := by decide
  have huserId : PlainWord "user_id" := by decide
  have hplaced : ∀ count, convertBehind count ordered = "o.\"user_id\"" := by
    intro count
    rw [hconverted, huserId.convertBehind_quote]
    rfl
  have hplaced' : ∀ count, convertBehind count user = users ++ "." ++ "\"id\"" := by
    intro count
    rw [hconverted', hid.convertBehind_quote]
    rfl
  have hparts := hcontains.contains (.cons hplaced (.cons hplaced (.cons hplaced' .nil)))
  exact ⟨bound, users, hbuild, hparts, hlower.mpr (by simp), hgenerated rfl⟩

/-- Users under an alias in upper case. -/
def Chain.shouting : Chain .tabled :=
  .fromTable (.select [.field ⟨.user, "id"⟩]) ⟨.entity .user, some "U"⟩

/-- Users with a quote as another select item, which begins a literal. -/
def Chain.unended : Chain .tabled :=
  .fromTable (.select [.raw "\x27", .field ⟨.user, "id"⟩]) ⟨.entity .user, some "u"⟩

/-- An entity whose table is named by three backticks, which pass for a quoted name. -/
def Entity.ticks : Entity := ⟨"app::Ticks", "Ticks", some "\x60\x60\x60", [⟨"id", none⟩]⟩

/-- An alias in upper case denotes something else in front of a field than where it is declared.
Behind a literal without an end nothing is converted, and behind an identifier without an end the
quotes are turned around. -/
theorem alias_differs_in_front_of_fields :
    (outcome (Chain.shouting.statement.buildAs .rows (.empty 0))).map (fun b => convert b.sql) =
      .ok "SELECT U.\"id\" AS \"id\" FROM \"user\" \"U\"" ∧
    PlainWord "U" ∧ denoted "U" ≠ denoted "\"U\"" ∧
    (outcome (Chain.unended.statement.buildAs .rows (.empty 0))).map (fun b => convert b.sql) =
      .ok "SELECT \x27, u.\x60id\x60 AS \x60id\x60 FROM \x60user\x60 \x60u\x60" ∧
    (outcome ((Chain.fromTable (.select [.field ⟨.ticks, "id"⟩])
        ⟨.entity .ticks, some "u"⟩).statement.buildAs .rows (.empty 0))).map
      (fun b => convert b.sql) = .ok "SELECT u.\"id\" AS \"id\" FROM \"\x60 \"u\"" :=
  ⟨by decide +kernel, by decide, by decide, by decide +kernel, by decide +kernel⟩

end QueryLoom

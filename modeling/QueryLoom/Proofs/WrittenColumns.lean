import QueryLoom.Proofs.Quoting
import QueryLoom.Proofs.Transparency

/-!
# Columns written as text

A column written as text is taken apart at its first dot.  What stands in front of the dot may be an
alias, or a physical or literal name of a table, and aliases are looked at first; in either case the
column is written behind the alias.  A field goes another way, by the key of its entity, and both
ways lead to the same text when the name in front of the dot can only mean the table of the field.

What is written is canonical: it would be written so again.  This rests on aliases without a dot,
since with one the text would be taken apart within the alias.

## Main definitions

* `Undotted`: texts without a dot.
* `AliasEntry.Named`: the physical or literal name of a registered table.
* `Aliases.Canonical`: columns as they are written.

## Main results

* `Aliases.splitAtDot_eq_some_iff`: where a text is taken apart.
* `Aliases.resolveQualifier?_of_alias`, `Aliases.resolveQualifier?_of_table`,
  `Aliases.resolveQualifier?_eq_none_iff`: what a name in front of a dot stands for.
* `Aliases.canonical_qualifyColumn`, `Aliases.Canonical.qualifyColumn_eq`: what is written is
  canonical, and what is canonical stays.
* `written_columns_agree_with_fields`, `qualification_is_idempotent`: the summaries.
-/

namespace QueryLoom

/-- A text without a dot. -/
def Undotted (text : String) : Prop := '.' ∉ text.toList

instance (text : String) : Decidable (Undotted text) :=
  inferInstanceAs (Decidable ('.' ∉ text.toList))

/-! ## Quoting -/

namespace Identifier

/-- What is quoted passes for quoted. -/
theorem isQuoted_quoteChars (name : List Char) : isQuoted (quoteChars name) = true := by
  unfold quoteChars
  by_cases h : isQuoted name
  · rw [if_pos h, h]
  · rw [if_neg h]
    simp [isQuoted]

/-- So quoting twice is quoting once. -/
theorem quote_quote (name : String) : quote (quote name) = quote name := by
  refine quote_of_not_unquoted ?_
  rw [Unquoted, quote, String.toList_ofList, isQuoted_quoteChars]
  exact Bool.noConfusion

/-- The quotes bring in no dot. -/
theorem mem_double {c : Char} {name : List Char} (h : c ∈ double name) : c ∈ name := by
  induction name with
  | nil => exact h
  | cons d name ih =>
      rw [double] at h
      split at h
      · next htick =>
          simp only [List.mem_cons, htick] at h ⊢
          rcases h with hc | hc | hc
          · exact .inl hc
          · exact .inl hc
          · exact .inr (ih hc)
      · rcases List.mem_cons.mp h with rfl | hc
        · exact List.mem_cons_self
        · exact List.mem_cons_of_mem d (ih hc)

theorem undotted_quote {name : String} (h : Undotted name) : Undotted (quote name) := by
  unfold Undotted quote quoteChars
  rw [String.toList_ofList]
  split
  · exact h
  · intro hdot
    simp only [List.cons_append, List.mem_cons, List.mem_append, List.not_mem_nil, or_false] at hdot
    rcases hdot with htick | hinner | htick
    · exact absurd htick (by decide)
    · exact h (mem_double hinner)
    · exact absurd htick (by decide)

end Identifier

/-! ## Names in front of a dot -/

/-- The table is registered under this physical name, or its key gives this name literally. -/
def AliasEntry.Named (e : AliasEntry) (name : String) : Prop :=
  e.table = some name ∨ e.key.literalName? = some name

namespace Aliases

variable {aliases : Aliases} {e : AliasEntry} {name : String}

/-- A text is taken apart at a dot in front of which there is no other one. -/
theorem splitAtDot_eq_some_iff {text left right : List Char} :
    splitAtDot text = some (left, right) ↔ text = left ++ '.' :: right ∧ '.' ∉ left := by
  induction text generalizing left with
  | nil => simp [splitAtDot]
  | cons c text ih =>
      by_cases hc : c = '.'
      · subst hc
        rw [splitAtDot, if_pos rfl]
        cases left with
        | nil => simp
        | cons d left => simp +contextual [eq_comm]
      · rw [splitAtDot, if_neg hc]
        cases left with
        | nil => simp [hc]
        | cons d left =>
            simp only [Option.map_eq_some_iff, Prod.mk.injEq, Prod.exists, List.cons.injEq,
              List.cons_append, List.mem_cons, not_or]
            constructor
            · rintro ⟨left, right, hsplit, ⟨rfl, rfl⟩, rfl⟩
              obtain ⟨htext, hleft⟩ := ih.mp hsplit
              exact ⟨⟨rfl, htext⟩, Ne.symm hc, hleft⟩
            · rintro ⟨⟨rfl, htext⟩, -, hleft⟩
              exact ⟨left, right, ih.mpr ⟨htext, hleft⟩, ⟨rfl, rfl⟩, rfl⟩

/-- A text without a dot is not taken apart. -/
theorem splitAtDot_eq_none_iff {text : List Char} : splitAtDot text = none ↔ '.' ∉ text := by
  induction text with
  | nil => simp [splitAtDot]
  | cons c text ih =>
      by_cases hc : c = '.'
      · simp [splitAtDot, hc]
      · simp [splitAtDot, hc, Ne.symm hc, ih]

/-- An alias stands for itself. -/
theorem resolveQualifier?_of_alias (he : e ∈ aliases.entries) :
    aliases.resolveQualifier? e.aliasName = some e.aliasName := by
  unfold resolveQualifier?
  cases hfound : aliases.entries.find? fun d => d.aliasName == e.aliasName with
  | some d =>
      have hsame : d.aliasName = e.aliasName := by simpa using List.find?_some hfound
      exact congrArg some hsame
  | none =>
      have hnone := List.find?_eq_none.mp hfound e he
      simp at hnone

/-- A name that is no alias, and the name of one table only, stands for its alias. -/
theorem resolveQualifier?_of_table (he : e ∈ aliases.entries) (hname : e.Named name)
    (halias : ∀ d ∈ aliases.entries, d.aliasName ≠ name)
    (hother : ∀ d ∈ aliases.entries, d ≠ e → ¬d.Named name) :
    aliases.resolveQualifier? name = some e.aliasName := by
  have hnone : aliases.entries.find? (fun d => d.aliasName == name) = none :=
    List.find?_eq_none.mpr fun d hd => by simpa using halias d hd
  unfold resolveQualifier?
  rw [hnone]
  cases hfound : aliases.entries.find? fun d =>
      d.table == some name || d.key.literalName? == some name with
  | some d =>
      have hnamed : d.Named name := by simpa [AliasEntry.Named] using List.find?_some hfound
      by_cases hsame : d = e
      · rw [hsame]
        rfl
      · exact absurd hnamed (hother d (List.mem_of_find?_eq_some hfound) hsame)
  | none =>
      have hunnamed := List.find?_eq_none.mp hfound e he
      exact absurd hname (by simpa [AliasEntry.Named] using hunnamed)

/-- A name that is neither an alias nor the name of a table stands for nothing. -/
theorem resolveQualifier?_eq_none_iff : aliases.resolveQualifier? name = none ↔
    ∀ d ∈ aliases.entries, d.aliasName ≠ name ∧ ¬d.Named name := by
  unfold resolveQualifier?
  cases hfound : aliases.entries.find? fun d => d.aliasName == name with
  | some d =>
      have hsame : d.aliasName = name := by simpa using List.find?_some hfound
      refine iff_of_false (Option.some_ne_none _) fun hall => ?_
      exact (hall d (List.mem_of_find?_eq_some hfound)).1 hsame
  | none =>
      have hnone : ∀ d ∈ aliases.entries, d.aliasName ≠ name := by simpa using hfound
      simp only [Option.map_eq_none_iff, List.find?_eq_none, Bool.or_eq_true, beq_iff_eq]
      exact ⟨fun hall d hd => ⟨hnone d hd, hall d hd⟩, fun hall d hd => (hall d hd).2⟩

/-- What a name stands for is the alias of a table. -/
theorem exists_of_resolveQualifier? {aliasName : String}
    (h : aliases.resolveQualifier? name = some aliasName) :
    ∃ e ∈ aliases.entries, e.aliasName = aliasName := by
  unfold resolveQualifier? at h
  cases hfound : aliases.entries.find? fun d => d.aliasName == name with
  | some d =>
      rw [hfound] at h
      exact ⟨d, List.mem_of_find?_eq_some hfound, Option.some.inj h⟩
  | none =>
      rw [hfound] at h
      obtain ⟨d, htable, hname⟩ := Option.map_eq_some_iff.mp h
      exact ⟨d, List.mem_of_find?_eq_some htable, hname⟩

/-- A column is qualified by what stands in front of its first dot. -/
theorem qualifyColumn_dotted {left : String} (h : Undotted left) (right : String) :
    aliases.qualifyColumn (left ++ "." ++ right) =
      Identifier.qualify ((aliases.resolveQualifier? left).getD left) right := by
  have hsplit : splitAtDot (left ++ "." ++ right).toList = some (left.toList, right.toList) :=
    splitAtDot_eq_some_iff.mpr ⟨by simp, h⟩
  unfold qualifyColumn
  rw [hsplit]
  simp only [String.ofList_toList]

/-- Without a dot it belongs to the only table, or to none. -/
theorem qualifyColumn_undotted {column : String} (h : Undotted column) :
    aliases.qualifyColumn column = aliases.onlyAlias?.elim (Identifier.quote column)
      fun aliasName => Identifier.qualify aliasName column := by
  unfold qualifyColumn
  rw [splitAtDot_eq_none_iff.mpr h]
  cases aliases.onlyAlias? <;> rfl

/-- Every text with a dot has a part in front of its first dot. -/
theorem exists_parts (text : String) :
    Undotted text ∨ ∃ left right, Undotted left ∧ text = left ++ "." ++ right := by
  cases hsplit : splitAtDot text.toList with
  | none => exact .inl (splitAtDot_eq_none_iff.mp hsplit)
  | some parts =>
      obtain ⟨htext, hleft⟩ := splitAtDot_eq_some_iff.mp hsplit
      refine .inr ⟨.ofList parts.1, .ofList parts.2, by simpa [Undotted] using hleft, ?_⟩
      rw [← String.toList_inj]
      simpa using htext

/-! ## Canonical columns -/

/-- A column as it is written: a quoted name behind the alias of a table, or behind a name that
stands for no table; or a quoted name by itself, without a dot and where it belongs to no table. -/
inductive Canonical (aliases : Aliases) : String → Prop where
  | behindAlias {e : AliasEntry} (he : e ∈ aliases.entries) (column : String) :
      Canonical aliases (e.aliasName ++ "." ++ Identifier.quote column)
  | behindOther {left : String} (hleft : Undotted left)
      (hother : ∀ e ∈ aliases.entries, e.aliasName ≠ left ∧ ¬e.Named left) (column : String) :
      Canonical aliases (left ++ "." ++ Identifier.quote column)
  | alone {column : String} (hcolumn : Undotted column) (hmany : aliases.entries.length ≠ 1) :
      Canonical aliases (Identifier.quote column)

/-- There is an only alias when there is an only table. -/
theorem onlyAlias?_eq_none_iff : aliases.onlyAlias? = none ↔ aliases.entries.length ≠ 1 := by
  unfold onlyAlias?
  split
  · next only hentries => simp [hentries]
  · next hentries =>
      refine iff_of_true rfl fun hlength => ?_
      obtain ⟨only, honly⟩ := List.length_eq_one_iff.mp hlength
      exact hentries only honly

/-- Whatever is written is canonical. -/
theorem canonical_qualifyColumn (aliases : Aliases) (text : String) :
    aliases.Canonical (aliases.qualifyColumn text) := by
  rcases exists_parts text with hundotted | ⟨left, right, hleft, rfl⟩
  · rw [qualifyColumn_undotted hundotted]
    cases honly : aliases.onlyAlias? with
    | none => exact .alone hundotted (onlyAlias?_eq_none_iff.mp honly)
    | some aliasName =>
        unfold onlyAlias? at honly
        split at honly
        · next only hentries =>
            cases honly
            exact .behindAlias (by simp [hentries]) text
        · cases honly
  · rw [qualifyColumn_dotted hleft]
    cases hresolved : aliases.resolveQualifier? left with
    | none => exact .behindOther hleft (resolveQualifier?_eq_none_iff.mp hresolved) right
    | some aliasName =>
        obtain ⟨e, he, rfl⟩ := exists_of_resolveQualifier? hresolved
        exact .behindAlias he right

/-- What is canonical is written as it is, if no alias has a dot. -/
theorem Canonical.qualifyColumn_eq {text : String} (h : aliases.Canonical text)
    (haliases : ∀ e ∈ aliases.entries, Undotted e.aliasName) :
    aliases.qualifyColumn text = text := by
  cases h with
  | behindAlias he column =>
      rw [qualifyColumn_dotted (haliases _ he), resolveQualifier?_of_alias he, Option.getD_some,
        Identifier.qualify, Identifier.quote_quote]
  | behindOther hleft hother column =>
      rw [qualifyColumn_dotted hleft, resolveQualifier?_eq_none_iff.mpr hother, Option.getD_none,
        Identifier.qualify, Identifier.quote_quote]
  | alone hcolumn hmany =>
      rw [qualifyColumn_undotted (Identifier.undotted_quote hcolumn),
        onlyAlias?_eq_none_iff.mpr hmany, Option.elim_none, Identifier.quote_quote]

end Aliases

/-! ## Fields -/

/-- A field whose column is known is rendered behind the alias of its table. -/
theorem Column.render_field {f : Field} {s : Session} {column : String} {catalog : Catalog}
    (hcolumn : Catalog.columnName f s.catalog = .ok column catalog) {aliasName : String}
    (halias : s.aliases.aliasOf? (.ofEntity f.entity) = some aliasName) :
    (Column.field f).render s = .ok (Identifier.qualify aliasName column) { s with catalog } := by
  have hlookup : Render.onCatalog (Catalog.columnName f) s = .ok column { s with catalog } := by
    unfold Render.onCatalog
    rw [hcolumn]
  show Render.fieldName f s = _
  unfold Render.fieldName
  have hlook : (get : Render Session) { s with catalog } =
    .ok { s with catalog } { s with catalog } := rfl
  rw [Step.bind_of_ok hlookup, Step.bind_of_ok hlook]
  simp only [halias]
  rfl

/-! ## Summaries -/

/-- Let the table of a field be registered, whatever else is, and let its column be known.  The
field is rendered to the text to which its column is also rendered when it is written behind the
alias of the table, if the alias has no dot; behind the physical name of the table, if that has no
dot, is no alias, and is the name of no other table; and alone, if it has no dot and no other table
is registered. -/
theorem written_columns_agree_with_fields (f : Field) (s : Session) {column : String}
    {catalog : Catalog} (hcolumn : Catalog.columnName f s.catalog = .ok column catalog)
    {e : AliasEntry} (hentry : s.aliases.entry? (.ofEntity f.entity) = some e) :
    ∃ text, (Column.field f).render s = .ok text { s with catalog } ∧
      (Undotted e.aliasName →
        (Column.raw (e.aliasName ++ "." ++ column)).render s = .ok text s) ∧
      (∀ table, e.table = some table → Undotted table →
        (∀ d ∈ s.aliases.entries, d.aliasName ≠ table) →
        (∀ d ∈ s.aliases.entries, d ≠ e → ¬d.Named table) →
          (Column.raw (table ++ "." ++ column)).render s = .ok text s) ∧
      (s.aliases.entries = [e] → Undotted column →
        (Column.raw column).render s = .ok text s) := by
  have he : e ∈ s.aliases.entries := List.mem_of_find?_eq_some hentry
  have halias : s.aliases.aliasOf? (.ofEntity f.entity) = some e.aliasName := by
    rw [Aliases.aliasOf?, hentry, Option.map_some]
  have hraw : ∀ raw, s.aliases.qualifyColumn raw = Identifier.qualify e.aliasName column →
      (Column.raw raw).render s = .ok (Identifier.qualify e.aliasName column) s :=
    fun raw h => congrArg (EStateM.Result.ok · s) h
  refine ⟨_, Column.render_field hcolumn halias, fun hdot => hraw _ ?_,
    fun table htable hdot hfree hother => hraw _ ?_, fun honly hdot => hraw _ ?_⟩
  · rw [Aliases.qualifyColumn_dotted hdot, Aliases.resolveQualifier?_of_alias he, Option.getD_some]
  · rw [Aliases.qualifyColumn_dotted hdot,
      Aliases.resolveQualifier?_of_table he (.inl htable) hfree hother, Option.getD_some]
  · rw [Aliases.qualifyColumn_undotted hdot, Aliases.onlyAlias?, honly]
    rfl

/-- Users as `u` beside a table of that name, and another table with the same alias. -/
def Aliases.crowded : Aliases :=
  ⟨[⟨.named "u", some "u", "v"⟩, ⟨.ofEntity .user, some "user", "u"⟩, ⟨.named "audit", none, "u"⟩],
    0, []⟩

/-- Nothing but users. -/
def Aliases.lonely : Aliases := ⟨[⟨.ofEntity .user, some "user", "u"⟩], 0, []⟩

/-- The name of a user, as a field and as it may be written: behind its alias or its table among
other tables, and alone where there are none. -/
theorem names_of_crowded_users :
    let among (aliases : Aliases) : Session := { Session.start .full (.empty 0) with aliases }
    let name := "u.\x60full_name\x60"
    (∃ s, (Column.field ⟨.user, "name"⟩).render (among .crowded) = .ok name s) ∧
    (Column.raw "u.full_name").render (among .crowded) = .ok name (among .crowded) ∧
    (Column.raw "user.full_name").render (among .crowded) = .ok name (among .crowded) ∧
    (∃ s, (Column.field ⟨.user, "name"⟩).render (among .lonely) = .ok name s) ∧
    (Column.raw "full_name").render (among .lonely) = .ok name (among .lonely) := by
  intro among name
  have hcolumn : Catalog.columnName ⟨.user, "name"⟩ (.empty 0) = .ok "full_name" _ :=
    Step.eq_ok_of_outcome (by decide +kernel)
  obtain ⟨text, hfield, hbehind, htable, -⟩ := written_columns_agree_with_fields ⟨.user, "name"⟩
    (among .crowded) hcolumn (e := ⟨.ofEntity .user, some "user", "u"⟩) (by decide)
  obtain ⟨alone, hfield', -, -, honly⟩ := written_columns_agree_with_fields ⟨.user, "name"⟩
    (among .lonely) hcolumn (e := ⟨.ofEntity .user, some "user", "u"⟩) (by decide)
  have hother : ∀ d ∈ Aliases.crowded.entries, d ≠ ⟨.ofEntity .user, some "user", "u"⟩ →
      ¬(d.table = some "user" ∨ d.key.literalName? = some "user") := by decide
  have hwritten := hbehind (by decide)
  have hwritten' := honly rfl (by decide)
  -- a column that is written is rendered without a change to the session
  obtain rfl : name = text := (EStateM.Result.ok.inj hwritten).1
  obtain rfl : name = alone := (EStateM.Result.ok.inj hwritten').1
  exact ⟨⟨_, hfield⟩, hwritten, htable "user" rfl (by decide) (by decide) hother,
    ⟨_, hfield'⟩, hwritten'⟩

/-- If no alias has a dot, what a column is written as is written so again, whatever text it is and
whatever names of tables and aliases coincide.  A text is written as it stands exactly when it is
canonical. -/
theorem qualification_is_idempotent (aliases : Aliases)
    (haliases : ∀ e ∈ aliases.entries, Undotted e.aliasName) (text : String) :
    aliases.qualifyColumn (aliases.qualifyColumn text) = aliases.qualifyColumn text ∧
      (aliases.qualifyColumn text = text ↔ aliases.Canonical text) := by
  have hcanonical := aliases.canonical_qualifyColumn text
  refine ⟨hcanonical.qualifyColumn_eq haliases, fun hsame => ?_, fun h => ?_⟩
  · rwa [hsame] at hcanonical
  · exact h.qualifyColumn_eq haliases

/-- `u` stays, being an alias, although it is the name of another table as well; a column of the
users is written so again, and so is one with a dot and backticks behind a name that is unknown. -/
theorem columns_of_crowded_stay :
    Aliases.crowded.qualifyColumn "user.id" = "u.\x60id\x60" ∧
    Aliases.crowded.qualifyColumn "u.\x60id\x60" = "u.\x60id\x60" ∧
    Aliases.crowded.qualifyColumn (Aliases.crowded.qualifyColumn "w.a\x60.b") =
      "w.\x60a\x60\x60.b\x60" ∧
    Aliases.crowded.Canonical "u.\x60id\x60" := by
  have haliases : ∀ e ∈ Aliases.crowded.entries, Undotted e.aliasName := by decide
  have hfirst : Aliases.crowded.qualifyColumn "user.id" = "u.\x60id\x60" := by decide
  have hstays := (qualification_is_idempotent .crowded haliases "user.id").1
  have hunknown := (qualification_is_idempotent .crowded haliases "w.a\x60.b").1
  rw [hfirst] at hstays
  exact ⟨hfirst, hstays, hunknown.trans (by decide),
    (qualification_is_idempotent .crowded haliases _).2.mp hstays⟩

end QueryLoom

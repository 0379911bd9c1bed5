import QueryLoom.Proofs.Conversion

/-!
# Quoted names

A quoted name is one identifier, which begins and ends with it.  Only the names that pass for quoted
are left as they are, and of these the ones that have a single backtick between the outer ones fall
apart.  Within a statement a quoted name is converted apart from what surrounds it, as long as no
backtick touches it: one behind it would take its end back, and one in front of it, which closes
another identifier, makes one backtick of that identifier together with the one that opens the name.

## Main definitions

* `Wrapped`: names that are quoted already.
* `Dialect.Outside`: texts that end outside of literals and identifiers.

## Main results

* `Dialect.lex_eq_identifier_iff`: the texts that are one identifier.
* `Dialect.Tokenized.append`: the tokens of two texts, one behind the other.
* `Dialect.Tokenized.goOn`: an identifier that goes on behind its last backtick.
* `quoted_name_is_one_identifier`, `quoted_name_is_converted_in_place`: the summaries.
-/

namespace QueryLoom

open Identifier

/-- A name that is quoted already: between its outer backticks every backtick stands twice. -/
def Wrapped (name : String) : Prop := ∃ content, name.toList = tick :: double content ++ [tick]

theorem Unquoted.toList_quote {name : String} (h : Unquoted name) :
    (quote name).toList = tick :: double name.toList ++ [tick] := by
  have hname : isQuoted name.toList = false := h
  rw [quote, String.toList_ofList, quoteChars, hname, if_neg Bool.false_ne_true]

theorem quote_of_not_unquoted {name : String} (h : ¬Unquoted name) : quote name = name := by
  have hname : isQuoted name.toList = true := by simpa [Unquoted] using h
  rw [quote, quoteChars, if_pos hname, String.ofList_toList]

theorem double_append (xs ys : List Char) : double (xs ++ ys) = double xs ++ double ys := by
  induction xs with
  | nil => rfl
  | cons c xs ih =>
      by_cases hc : c = tick
      · simp only [List.cons_append, double, hc, ↓reduceIte, ih]
      · simp only [List.cons_append, double, hc, ↓reduceIte, ih]

/-- Two names in one identifier have a backtick between them, which is written twice. -/
theorem double_tick_between (xs ys : List Char) :
    double (xs ++ tick :: ys) = double xs ++ tick :: tick :: double ys := by
  rw [double_append, double, if_pos rfl]

namespace Dialect

/-! ## Texts that are one identifier -/

/-- A text is one identifier if it is the content with its backticks doubled, in backticks. -/
theorem lex_eq_identifier_iff {text : String} {content : List Char} :
    lex text = [.identifier content true] ↔ text.toList = tick :: double content ++ [tick] := by
  constructor
  · intro h
    have hsource := (tokenized_iff.mpr h.symm).source
    simpa [Token.source] using hsource.symm
  · intro h
    have htokens : Tokenized [.identifier content true] text.toList := by
      rw [h]
      exact .identifier content (by decide) .nil
    exact (tokenized_iff.mp htokens).symm

/-- If a text that begins with a backtick is not one identifier, then the identifier that it begins
with ends earlier, or not at all. -/
theorem lex_of_ticked {text : String} (hopen : text.toList.head? = some tick)
    (h : ∀ content, lex text ≠ [.identifier content true]) :
    ∃ content closed more, lex text = .identifier content closed :: more ∧
      (closed = true → more ≠ []) := by
  have htokens : Tokenized (lex text) text.toList := tokenized_iff.mpr rfl
  generalize lex text = tokens at htokens h
  generalize text.toList = chars at htokens hopen
  cases htokens with
  | nil => simp at hopen
  | identifier content _ rest =>
      exact ⟨content, true, _, rfl, fun _ hnil => h content (by rw [hnil])⟩
  | openIdentifier content => exact ⟨content, false, [], rfl, nofun⟩
  | literal _ _ | openLiteral _ | placeholder _ => simp [tick] at hopen
  | other hc _ => exact absurd (Option.some.inj hopen) hc.2.1

/-! ## Texts that follow each other -/

/-- The text ends outside of literals and identifiers. -/
def Outside (text : String) : Prop := ∀ t ∈ lex text, t.isClosed = true

instance (text : String) : Decidable (Outside text) :=
  inferInstanceAs (Decidable (∀ t ∈ lex text, t.isClosed = true))

/-- What may stand in a closed token, and behind it. -/
def Token.Before (text : List Char) : Token → Prop
  | .literal content _ => '\x27' ∉ content
  | .identifier _ _ => Unticked text
  | .placeholder => True
  | .other c => c ≠ '\x27' ∧ c ≠ tick ∧ c ≠ '?'

variable {t : Token} {tokens xs ys : List Token} {text rest : List Char}

theorem Tokenized.cons (hclosed : t.isClosed = true) (h : t.Before text)
    (htail : Tokenized tokens text) : Tokenized (t :: tokens) (t.source ++ text) := by
  cases t with
  | literal content closed =>
      obtain rfl : closed = true := hclosed
      simpa [Token.source] using Tokenized.literal h htail
  | identifier content closed =>
      obtain rfl : closed = true := hclosed
      simpa [Token.source] using Tokenized.identifier content h htail
  | placeholder => exact .placeholder htail
  | other c => exact .other h htail

theorem Tokenized.uncons {whole : List Char} (h : Tokenized (t :: tokens) whole)
    (hclosed : t.isClosed = true) :
    ∃ text, whole = t.source ++ text ∧ t.Before text ∧ Tokenized tokens text := by
  cases h with
  | literal hcontent htail => exact ⟨_, by simp [Token.source], hcontent, htail⟩
  | identifier content hfollow htail => exact ⟨_, by simp [Token.source], hfollow, htail⟩
  | placeholder htail => exact ⟨_, rfl, trivial, htail⟩
  | other hc htail => exact ⟨_, rfl, hc, htail⟩
  | openLiteral _ | openIdentifier _ => exact absurd hclosed Bool.false_ne_true

/-- Only a closed identifier ends with a backtick. -/
theorem Token.Before.exists_identifier (h : t.Before text) (hclosed : t.isClosed = true)
    (hlast : t.source.getLast? = some tick) : ∃ content, t = .identifier content true := by
  cases t with
  | literal content closed =>
      obtain rfl : closed = true := hclosed
      simp [source, List.getLast?_cons, tick] at hlast
  | identifier content closed =>
      obtain rfl : closed = true := hclosed
      exact ⟨content, rfl⟩
  | placeholder => simp [source, tick] at hlast
  | other c => exact absurd (Option.some.inj hlast) h.2.1

/-- What follows a token may be extended, unless a backtick would follow a closing one. -/
theorem Token.Before.append (h : t.Before text) (hclosed : t.isClosed = true)
    (hmeet : text = [] → t.source.getLast? = some tick → Unticked rest) :
    t.Before (text ++ rest) := by
  cases t with
  | literal _ _ | placeholder | other _ => exact h
  | identifier content closed =>
      obtain rfl : closed = true := hclosed
      cases text with
      | nil => exact hmeet rfl (by simp [source, List.getLast?_cons])
      | cons c text => exact h

/-- Behind a text that ends outside of literals and identifiers there are the tokens of what
follows, unless a backtick follows one that closes an identifier. -/
theorem Tokenized.append (hx : Tokenized xs text) (hclosed : ∀ t ∈ xs, t.isClosed = true)
    (hmeet : text.getLast? = some tick → Unticked rest) (hy : Tokenized ys rest) :
    Tokenized (xs ++ ys) (text ++ rest) := by
  induction xs generalizing text with
  | nil =>
      cases hx
      exact hy
  | cons t xs ih =>
      obtain ⟨htclosed, hxclosed⟩ := List.forall_mem_cons.mp hclosed
      obtain ⟨text, rfl, hbefore, hx⟩ := hx.uncons htclosed
      have htail : Tokenized (xs ++ ys) (text ++ rest) :=
        ih hx hxclosed fun hlast => hmeet (by rw [List.getLast?_append, hlast, Option.some_or])
      have hextended : t.Before (text ++ rest) :=
        hbefore.append htclosed fun hnil hlast => hmeet (by rw [hnil, List.append_nil, hlast])
      rw [List.append_assoc]
      exact htail.cons htclosed hextended

/-- If such a text ends with a backtick, then that closes an identifier.  With another backtick
behind it the identifier goes on, up to the backtick that closes what follows. -/
theorem Tokenized.goOn (hx : Tokenized xs text) (hclosed : ∀ t ∈ xs, t.isClosed = true)
    (hlast : text.getLast? = some tick) :
    ∃ before content, xs = before ++ [.identifier content true] ∧
      ∀ more ys rest, Unticked rest → Tokenized ys rest →
        Tokenized (before ++ .identifier (content ++ tick :: more) true :: ys)
          (text ++ (tick :: double more ++ tick :: rest)) := by
  induction xs generalizing text with
  | nil =>
      cases hx
      simp at hlast
  | cons t xs ih =>
      obtain ⟨htclosed, hxclosed⟩ := List.forall_mem_cons.mp hclosed
      obtain ⟨text, rfl, hbefore, hx⟩ := hx.uncons htclosed
      cases text with
      | nil =>
          -- the token is the last one
          cases hx
          rw [List.append_nil] at hlast
          obtain ⟨content, rfl⟩ := hbefore.exists_identifier htclosed hlast
          refine ⟨[], content, rfl, fun more ys rest hrest hy => ?_⟩
          have htokens := Tokenized.identifier (content ++ tick :: more) hrest hy
          rw [double_tick_between] at htokens
          simpa [Token.source] using htokens
      | cons c text =>
          have hlast' : (c :: text).getLast? = some tick := by
            simpa [List.getLast?_append, List.getLast?_cons] using hlast
          obtain ⟨before, content, rfl, hmore⟩ := ih hx hxclosed hlast'
          refine ⟨t :: before, content, rfl, fun more ys rest hrest hy => ?_⟩
          have hextended : t.Before (c :: text ++ (tick :: double more ++ tick :: rest)) :=
            hbefore.append htclosed fun hnil => absurd hnil (List.cons_ne_nil c text)
          rw [List.append_assoc]
          exact (hmore more ys rest hrest hy).cons htclosed hextended

end Dialect

/-! ## Summaries -/

open Dialect

/-- The quoted form of a name is one identifier exactly when the name does not pass for quoted, or
is quoted already.  It begins with a backtick and ends with the one that closes it, and so it is
read apart from whatever follows it without a backtick in front.  The content of the identifier is
the name, if that does not pass for quoted, and otherwise stands in the name.  In every other case
the name is left as it is, and the identifier that it begins with ends earlier, so that a part of
the name is outside of it, or not at all. -/
theorem quoted_name_is_one_identifier (name : String) :
    ((∃ content, lex (quote name) = [.identifier content true]) ↔
      Unquoted name ∨ Wrapped name) ∧
    (∀ content, lex (quote name) = [.identifier content true] →
      (quote name).toList = tick :: double content ++ [tick] ∧
      ∀ rest, Unticked rest → lexFrom .plain [] ((quote name).toList ++ rest) =
        .identifier content true :: lexFrom .plain [] rest) ∧
    (Unquoted name → lex (quote name) = [.identifier name.toList true]) ∧
    (¬Unquoted name → quote name = name) ∧
    (¬Unquoted name → ¬Wrapped name →
      ∃ content closed more, lex (quote name) = .identifier content closed :: more ∧
        (closed = true → more ≠ [])) := by
  have hunquoted (h : Unquoted name) : lex (quote name) = [.identifier name.toList true] :=
    lex_eq_identifier_iff.mpr h.toList_quote
  have hkept (h : ¬Unquoted name) :
      (∃ content, lex (quote name) = [.identifier content true]) ↔ Wrapped name := by
    rw [quote_of_not_unquoted h]
    simp only [lex_eq_identifier_iff, Wrapped]
  refine ⟨?_, fun content h => ?_, hunquoted, quote_of_not_unquoted, fun h hwrapped => ?_⟩
  · by_cases h : Unquoted name
    · exact iff_of_true ⟨_, hunquoted h⟩ (.inl h)
    · rw [hkept h, or_iff_right h]
  · have htext := lex_eq_identifier_iff.mp h
    refine ⟨htext, fun rest hrest => ?_⟩
    rw [htext, tick, List.cons_append, List.cons_append, lexFrom, List.append_assoc]
    exact lexFrom_double content [] rest hrest
  · have hnone := (not_congr (hkept h)).mpr hwrapped
    refine lex_of_ticked ?_ fun content hlex => hnone ⟨content, hlex⟩
    have hquoted : isQuoted name.toList = true := by simpa [Unquoted] using h
    rw [quote_of_not_unquoted h]
    cases hname : name.toList with
    | nil => simp [hname, isQuoted] at hquoted
    | cons c rest =>
        rw [hname, isQuoted, Bool.and_eq_true, beq_iff_eq] at hquoted
        rw [List.head?_cons, hquoted.1]

/-- The shortcut for names that are quoted already also takes names with a single backtick in them;
what it returns for them is no identifier. -/
theorem quoted_name_falls_apart :
    lex (quote "`a`b`") = [.identifier ['a'] true, .other 'b', .identifier [] false] ∧
    ¬∀ name, ∃ content, lex (quote name) = [.identifier content true] := by
  have hlex : lex (quote "`a`b`") = [.identifier ['a'] true, .other 'b', .identifier [] false] := by
    decide
  refine ⟨hlex, fun hall => ?_⟩
  obtain ⟨content, hone⟩ := hall "`a`b`"
  rw [hlex] at hone
  cases hone

/-- A name with a backtick in it, one that is quoted already, and one that is not. -/
theorem quoted_names_of_three_kinds :
    lex (quote "we`ird") = [.identifier "we`ird".toList true] ∧
    (quote "`a``b`" = "`a``b`" ∧ ∃ content, lex (quote "`a``b`") = [.identifier content true]) ∧
    ((lexFrom .plain [] ((quote "we`ird").toList ++ ".x".toList) =
      .identifier "we`ird".toList true :: lexFrom .plain [] ".x".toList)) ∧
    ∃ content closed more, lex (quote "```") = .identifier content closed :: more ∧
      (closed = true → more ≠ []) := by
  obtain ⟨-, hone, hunquoted, -⟩ := quoted_name_is_one_identifier "we`ird"
  obtain ⟨hwrapped, -, -, hkept, -⟩ := quoted_name_is_one_identifier "`a``b`"
  obtain ⟨-, -, -, -, hbroken⟩ := quoted_name_is_one_identifier "```"
  have hname := hunquoted (by decide)
  have hcontent : Wrapped "`a``b`" := ⟨['a', tick, 'b'], by decide⟩
  have hnot : ¬Wrapped "```" := by
    rintro ⟨content, h⟩
    have hlex : lex "```" = [.identifier content true] := lex_eq_identifier_iff.mpr h
    have hopen : lex "```" = [.identifier [tick] false] := by decide
    rw [hopen] at hlex
    cases hlex
  exact ⟨hname, ⟨hkept (by decide), hwrapped.mpr (.inr hcontent)⟩,
    (hone _ hname).2 ".x".toList (by decide), hbroken (by decide) hnot⟩

/-- Let a text end outside of literals and identifiers, and a name not pass for quoted, and let what
follows not begin with a backtick.  If the text does not end with a backtick, the three are
converted one after the other: the text as if it stood alone, the name between double quotes with
every double quote in it written twice, so that it can be read back, and what follows with its
placeholders numbered on from those of the text.

A backtick at the end of the text closes an identifier.  With the one that opens the name behind it,
it is a backtick in that identifier, which goes on with the name. -/
theorem quoted_name_is_converted_in_place (front name back : String) (hfront : Outside front)
    (hname : Unquoted name) (hback : Unticked back.toList) :
    (front.toList.getLast? ≠ some tick →
      (convert (front ++ quote name ++ back)).toList =
        (convert front).toList ++ '"' :: escape name.toList ++ '"' ::
          convertFrom .plain ((lex front).count .placeholder) back.toList) ∧
    (front.toList.getLast? = some tick →
      (convert (front ++ quote name ++ back)).toList =
        (convert front).toList.dropLast ++ tick :: escape name.toList ++ '"' ::
          convertFrom .plain ((lex front).count .placeholder) back.toList) ∧
    undouble (escape name.toList) = name.toList := by
  have hread : Tokenized (lex front) front.toList := tokenized_iff.mpr rfl
  have hrest : Tokenized (lex back) back.toList := tokenized_iff.mpr rfl
  have htext : (front ++ quote name ++ back).toList =
      front.toList ++ (tick :: double name.toList ++ tick :: back.toList) := by
    simp [String.toList_append, hname.toList_quote]
  -- whatever stands in front of it, the identifier is written with what follows
  have hwritten : ∀ (before : List Token) (content : List Char),
      lex (front ++ quote name ++ back) = before ++ .identifier content true :: lex back →
        (convert (front ++ quote name ++ back)).toList =
          printFrom 0 before ++ '"' :: escape content ++ '"' ::
            convertFrom .plain (before.count .placeholder) back.toList := by
    intro before content hlex
    rw [convert_eq_print, String.toList_ofList, hlex, printFrom_append, printFrom, printFrom_lex]
    simp
  refine ⟨fun hlast => ?_, fun hlast => ?_, undouble_escape _⟩
  · have hquoted : Tokenized (.identifier name.toList true :: lex back)
        (tick :: double name.toList ++ tick :: back.toList) := .identifier _ hback hrest
    have htokens := hread.append hfront (fun h => absurd h hlast) hquoted
    rw [← htext] at htokens
    rw [hwritten _ _ (tokenized_iff.mp htokens).symm, convert_eq_print front, String.toList_ofList]
  · obtain ⟨before, content, hlex, hmore⟩ := hread.goOn hfront hlast
    have htokens := hmore name.toList (lex back) back.toList hback hrest
    rw [← htext] at htokens
    have hcount : (lex front).count .placeholder = before.count .placeholder := by simp [hlex]
    have hconverted : (convert front).toList =
        printFrom 0 before ++ '"' :: escape content ++ ['"'] := by
      rw [convert_eq_print, String.toList_ofList, hlex, printFrom_append]
      simp [printFrom]
    rw [hwritten _ _ (tokenized_iff.mp htokens).symm, hconverted, hcount, List.dropLast_concat,
      escape_append]
    simp [escape, tick]

/-- A backtick in front of a name makes it a part of the identifier that stands there. -/
theorem name_goes_on_behind_a_backtick :
    convert ("`a`" ++ quote "b" ++ "") = "\"a`b\"" ∧
    ¬∀ front name back, Outside front → Unquoted name → Unticked back.toList →
      (convert (front ++ quote name ++ back)).toList =
        (convert front).toList ++ '"' :: escape name.toList ++ '"' ::
          convertFrom .plain ((lex front).count .placeholder) back.toList := by
  refine ⟨by decide, fun hall => ?_⟩
  exact absurd (hall "`a`" "b" "" (by decide) (by decide) (by decide)) (by decide)

/-- A name that begins with a backtick and has quotes of all kinds in it, between placeholders; and
one behind a backtick. -/
theorem names_between_placeholders :
    (convert ("a = ? AND " ++ quote "`\"?' é" ++ " < ?")).toList =
      "a = $1 AND \"`\"\"?' é\" < $2".toList ∧
    (convert ("x.`a`" ++ quote "b\"" ++ "?")).toList = "x.\"a`b\"\"\"$1".toList := by
  have hplain := (quoted_name_is_converted_in_place "a = ? AND " "`\"?' é" " < ?"
    (by decide) (by decide) (by decide)).1 (by decide)
  have hjoined := (quoted_name_is_converted_in_place "x.`a`" "b\"" "?"
    (by decide) (by decide) (by decide)).2.1 (by decide)
  exact ⟨hplain.trans (by decide), hjoined.trans (by decide)⟩

end QueryLoom

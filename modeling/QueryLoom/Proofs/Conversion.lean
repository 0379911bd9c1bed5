import QueryLoom.Proofs.Settled

/-!
# The tokens that are converted

The conversion to the dialect of the server goes through a statement once.  What it does can be told
token by token: every text is made of tokens in exactly one way, whether or not the last token has
its end, and the conversion writes them one after the other.  Literals are written as they are, the
placeholders get the numbers from one on in their order, and the content of an identifier can be
read back from what is written.

## Main definitions

* `Dialect.Tokenized`: the tokens that make up a text.
* `Dialect.Token.source`, `Dialect.Token.printed`: a token as it stands in the text, and as it is
  converted.
* `Dialect.numbered`: tokens with the number of placeholders up to each.
* `Dialect.undouble`: reading two double quotes as one.

## Main results

* `Dialect.tokenized_iff`: every text is made of its tokens and of no others.
* `Dialect.printFrom_eq`: the conversion writes token after token.
* `Dialect.numbers_of_placeholders`: placeholders are numbered in their order.
* `conversion_writes_the_tokens`: the summary.
-/

namespace QueryLoom

namespace Dialect

/-! ## The tokens that make up a text -/

/-- The tokens that make up a text.  A literal goes to the next quote, or to the end if there is
none.  In an identifier two backticks stand for one, and it is closed by a backtick that is followed
by no other, or goes to the end. -/
inductive Tokenized : List Token → List Char → Prop where
  | nil : Tokenized [] []
  | literal {tokens : List Token} {text content : List Char} (hcontent : '\x27' ∉ content)
      (rest : Tokenized tokens text) :
      Tokenized (.literal content true :: tokens) ('\x27' :: content ++ '\x27' :: text)
  | openLiteral {content : List Char} (hcontent : '\x27' ∉ content) :
      Tokenized [.literal content false] ('\x27' :: content)
  | identifier {tokens : List Token} {text : List Char} (content : List Char)
      (hclosed : Unticked text) (rest : Tokenized tokens text) :
      Tokenized (.identifier content true :: tokens)
        (Identifier.tick :: Identifier.double content ++ Identifier.tick :: text)
  | openIdentifier (content : List Char) :
      Tokenized [.identifier content false] (Identifier.tick :: Identifier.double content)
  | placeholder {tokens : List Token} {text : List Char} (rest : Tokenized tokens text) :
      Tokenized (.placeholder :: tokens) ('?' :: text)
  | other {tokens : List Token} {text : List Char} {c : Char}
      (hc : c ≠ '\x27' ∧ c ≠ Identifier.tick ∧ c ≠ '?') (rest : Tokenized tokens text) :
      Tokenized (.other c :: tokens) (c :: text)

/-- A token as it stands in the text. -/
def Token.source : Token → List Char
  | .literal content closed => '\x27' :: content ++ (if closed then ['\x27'] else [])
  | .identifier content closed =>
    Identifier.tick :: Identifier.double content ++ (if closed then [Identifier.tick] else [])
  | .placeholder => ['?']
  | .other c => [c]

/-- The tokens of a text, one after the other, are the text. -/
theorem Tokenized.source {tokens : List Token} {text : List Char} (h : Tokenized tokens text) :
    tokens.flatMap Token.source = text := by
  induction h with
  | nil => rfl
  | literal _ _ ih => simp [Token.source, ih]
  | openLiteral _ => simp [Token.source]
  | identifier content _ _ ih => simp [Token.source, ih]
  | openIdentifier content => simp [Token.source]
  | placeholder _ ih => simp [Token.source, ih]
  | other _ _ ih => simp [Token.source, ih]

/-! ## Reading tokens -/

/-- The content of a literal is read up to the next quote. -/
theorem lexFrom_literal {content : List Char} (h : '\x27' ∉ content) (read rest : List Char) :
    lexFrom .literal read (content ++ rest) = lexFrom .literal (read ++ content) rest := by
  induction content generalizing read with
  | nil => rw [List.nil_append, List.append_nil]
  | cons c content ih =>
      obtain ⟨hc, hcontent⟩ := not_or.mp (mt List.mem_cons.mpr h)
      have hstep := ih hcontent (read ++ [c])
      simpa [lexFrom, Ne.symm hc] using hstep

/-- An identifier without its closing backtick goes to the end. -/
theorem lexFrom_openIdentifier (content read : List Char) :
    lexFrom .identifier read (Identifier.double content) =
      [.identifier (read ++ content) false] := by
  have hbody := lexFrom_body content read []
  rwa [List.append_nil] at hbody

/-- The tokens that make up a text are read from it. -/
theorem Tokenized.lexFrom_eq {tokens : List Token} {text : List Char} (h : Tokenized tokens text) :
    lexFrom .plain [] text = tokens := by
  induction h with
  | nil => rfl
  | literal hcontent _ ih =>
      rw [List.cons_append, lexFrom, lexFrom_literal hcontent, lexFrom, ih, List.nil_append]
  | @openLiteral content hcontent =>
      have hread := lexFrom_literal hcontent [] []
      rw [List.append_nil, List.nil_append] at hread
      rw [lexFrom, hread, lexFrom]
  | identifier content hclosed _ ih =>
      rw [List.cons_append, Identifier.tick, lexFrom]
      exact (lexFrom_double content [] _ hclosed).trans (by rw [ih, List.nil_append])
  | openIdentifier content =>
      rw [Identifier.tick, lexFrom, lexFrom_openIdentifier, List.nil_append]
  | placeholder _ ih => rw [lexFrom, ih]
  | other hc _ ih =>
      obtain ⟨hquote, htick, hmark⟩ := hc
      have htick' : _ ≠ '\x60' := htick
      simp [lexFrom, ih]

private theorem double_concat (content : List Char) (c : Char) :
    Identifier.double (content ++ [c]) =
      Identifier.double content ++ (if c = Identifier.tick then [c, c] else [c]) := by
  induction content with
  | nil => by_cases hc : c = Identifier.tick <;> simp [Identifier.double, hc]
  | cons first content ih =>
      by_cases hfirst : first = Identifier.tick <;> simp [Identifier.double, hfirst, ih]

/-- What stands in front of a place: the open token without its end. -/
private def begun : Place → List Char → List Char
  | .plain, _ => []
  | .literal, read => '\x27' :: read
  | .identifier, read => Identifier.tick :: Identifier.double read

/-- There is no quote in the part of a literal that is read already. -/
private def Unended : Place → List Char → Prop
  | .literal, read => '\x27' ∉ read
  | _, _ => True

/-- What is read from a place makes up the text from the beginning of the open token on. -/
private theorem tokenized_lexFrom (place : Place) (read text : List Char) (h : Unended place read) :
    Tokenized (lexFrom place read text) (begun place read ++ text) := by
  fun_induction lexFrom place read text with
  | case1 => exact .nil
  | case2 read => simpa [begun] using Tokenized.openLiteral h
  | case3 read => simpa [begun] using Tokenized.openIdentifier read
  | case4 read rest ih => exact .literal h (ih trivial)
  | case5 read c rest hc ih =>
      have hread : '\x27' ∉ read ++ [c] := by
        simpa [List.mem_append, not_or, eq_comm] using ⟨h, hc⟩
      simpa [begun] using ih hread
  | case6 read rest ih => simpa [begun, double_concat, Identifier.tick] using ih trivial
  | case7 read rest hpair ih =>
      -- the backtick closes the identifier since no second one follows
      have hclosed : Unticked rest := by
        cases rest with
        | nil => simp [Unticked]
        | cons c rest => simpa [Unticked, Identifier.tick] using fun hc => hpair rest (by rw [hc])
      exact .identifier read hclosed (ih trivial)
  | case8 read c rest hpair hlast ih =>
      have hc : c ≠ Identifier.tick := hlast
      simpa [begun, double_concat, hc] using ih trivial
  | case9 read rest ih => simpa [begun] using ih List.not_mem_nil
  | case10 read rest ih => exact ih trivial
  | case11 read rest ih => exact .placeholder (ih trivial)
  | case12 read c rest hquote htick hmark ih => exact .other ⟨hquote, htick, hmark⟩ (ih trivial)

/-- Every text is made of its tokens and of no others. -/
theorem tokenized_iff {tokens : List Token} {sql : String} :
    Tokenized tokens sql.toList ↔ tokens = lex sql := by
  constructor
  · exact fun h => h.lexFrom_eq.symm
  · rintro rfl
    exact tokenized_lexFrom .plain [] sql.toList trivial

/-! ## Writing tokens -/

/-- A token in the dialect of the server, where a placeholder has a number. -/
def Token.printed (number : Nat) : Token → List Char
  | .literal content closed => '\x27' :: content ++ (if closed then ['\x27'] else [])
  | .identifier content closed => '"' :: escape content ++ (if closed then ['"'] else [])
  | .placeholder => '$' :: Nat.toDigits 10 number
  | .other c => [c]

/-- Tokens with the number of placeholders up to each, and with it. -/
def numbered (tokens : List Token) : List (Nat × Token) :=
  tokens.mapIdx fun i t => ((tokens.take (i + 1)).count .placeholder, t)

theorem numbered_cons (t : Token) (tokens : List Token) :
    numbered (t :: tokens) = ([t].count .placeholder, t) ::
      (numbered tokens).map fun e => ([t].count .placeholder + e.1, e.2) := by
  have hcount : ∀ i, (t :: tokens.take (i + 1)).count .placeholder =
      [t].count .placeholder + (tokens.take (i + 1)).count .placeholder := by
    intro i
    rw [← List.singleton_append, List.count_append]
  have hrest : (tokens.mapIdx fun i u => ((t :: tokens.take (i + 1)).count .placeholder, u)) =
      (numbered tokens).map fun e => ([t].count .placeholder + e.1, e.2) := by
    simp only [hcount, numbered]
    exact List.ext_getElem (by simp) (by simp)
  rw [numbered, List.mapIdx_cons, ← hrest]
  rfl

theorem printFrom_cons (count : Nat) (t : Token) (tokens : List Token) :
    printFrom count (t :: tokens) =
      t.printed (count + [t].count .placeholder) ++
        printFrom (count + [t].count .placeholder) tokens := by
  cases t with
  | literal content closed => simp [printFrom, Token.printed]
  | identifier content closed => simp [printFrom, Token.printed]
  | placeholder => simp [printFrom, Token.printed]
  | other c => simp [printFrom, Token.printed]

/-- Tokens are written one after the other, numbered on from the placeholders before them. -/
theorem printFrom_eq (count : Nat) (tokens : List Token) :
    printFrom count tokens = (numbered tokens).flatMap fun e => e.2.printed (count + e.1) := by
  induction tokens generalizing count with
  | nil => rfl
  | cons t tokens ih =>
      rw [printFrom_cons, ih, numbered_cons, List.flatMap_cons, List.flatMap_map]
      simp only [Nat.add_assoc]

/-- The numbers of the placeholders are the numbers from one on, in order. -/
theorem numbers_of_placeholders (tokens : List Token) :
    ((numbered tokens).filter (·.2 = .placeholder)).map Prod.fst =
      List.range' 1 (tokens.count .placeholder) := by
  induction tokens with
  | nil => rfl
  | cons t tokens ih =>
      have hrest : ∀ n, (((numbered tokens).map fun e => (n + e.1, e.2)).filter
          (·.2 = .placeholder)).map Prod.fst =
            (List.range' 1 (tokens.count .placeholder)).map (n + ·) := by
        intro n
        rw [← ih, List.filter_map, List.map_map, List.map_map]
        rfl
      rw [numbered_cons]
      by_cases hplaceholder : t = .placeholder
      · subst hplaceholder
        have hone : [Token.placeholder].count .placeholder = 1 := rfl
        rw [List.filter_cons_of_pos (by simp), List.map_cons, hrest, hone, List.count_cons_self,
          List.map_add_range', List.range'_succ]
      · rw [List.filter_cons_of_neg (by simpa using hplaceholder), hrest,
          List.count_cons_of_ne hplaceholder, List.map_add_range']
        simp [hplaceholder]

/-- Read two double quotes as one. -/
def undouble : List Char → List Char
  | [] => []
  | '"' :: '"' :: rest => '"' :: undouble rest
  | c :: rest => c :: undouble rest

/-- The content of an identifier is read back from what is written for it. -/
theorem undouble_escape (content : List Char) : undouble (escape content) = content := by
  induction content with
  | nil => rfl
  | cons c content ih =>
      by_cases hc : c = '"'
      · subst hc
        simp [escape, undouble, ih]
      · simp [escape, undouble, hc, ih]

end Dialect

/-! ## Summary -/

/-- Every text is made of tokens in exactly one way, and its conversion consists of the tokens, each
as it is written, one after the other.  The numbers of the placeholders are the numbers from one on,
in the order of the text.  Literals are written as they stand in the text, and so is whatever
belongs to no other token; an identifier is written between double quotes, of which the last is
there if it was closed, and reading two double quotes in it as one yields its content. -/
theorem conversion_writes_the_tokens (sql : String) :
    (∀ tokens, Dialect.Tokenized tokens sql.toList ↔ tokens = Dialect.lex sql) ∧
    (Dialect.lex sql).flatMap Dialect.Token.source = sql.toList ∧
    (Dialect.convert sql).toList =
      (Dialect.numbered (Dialect.lex sql)).flatMap (fun e => e.2.printed e.1) ∧
    ((Dialect.numbered (Dialect.lex sql)).filter (·.2 = .placeholder)).map Prod.fst =
      List.range' 1 ((Dialect.lex sql).count .placeholder) ∧
    ∀ number,
      (Dialect.Token.placeholder.printed number = ("$" ++ toString number).toList) ∧
      (∀ content closed, (Dialect.Token.literal content closed).printed number =
        (Dialect.Token.literal content closed).source) ∧
      (∀ c, (Dialect.Token.other c).printed number = (Dialect.Token.other c).source) ∧
      ∀ content closed,
        (Dialect.Token.identifier content closed).printed number =
          '"' :: Dialect.escape content ++ (if closed then ['"'] else []) ∧
        Dialect.undouble (Dialect.escape content) = content := by
  have htokenized : Dialect.Tokenized (Dialect.lex sql) sql.toList :=
    Dialect.tokenized_iff.mpr rfl
  have hconverted : (Dialect.convert sql).toList =
      (Dialect.numbered (Dialect.lex sql)).flatMap fun e => e.2.printed e.1 := by
    rw [Dialect.convert_eq_print, String.toList_ofList, Dialect.printFrom_eq]
    simp only [Nat.zero_add]
  refine ⟨fun _ => Dialect.tokenized_iff, htokenized.source, hconverted,
    Dialect.numbers_of_placeholders _, fun number => ⟨?_, fun _ _ => rfl, fun _ => rfl, ?_⟩⟩
  · simp [Dialect.Token.printed, Nat.toString_eq_repr, Nat.toList_repr]
  · exact fun content closed => ⟨rfl, Dialect.undouble_escape content⟩

/-- A doubled backtick and a double quote in an identifier, and a literal without its end. -/
example : Dialect.convert "`a``\"` = ? AND b = '?" = "\"a`\"\"\" = $1 AND b = '?" := by
  decide

end QueryLoom

import QueryLoom.Dialect

/-!
# The tokens of a statement

A statement is made of literals, quoted identifiers, placeholders and other characters.  A literal
goes from one quote to the next.  An identifier is opened by a backtick; two backticks in a row are
one of its characters, and a single one closes it.  The conversion to the dialect of the server
prints these tokens one after the other, and numbers the placeholders.

A text that ends outside of literals and identifiers can be read apart from what follows it.

## Main definitions

* `Dialect.Token`, `Dialect.lex`: the tokens of a text.
* `Dialect.printFrom`: tokens in the dialect of the server.
* `Dialect.ReadsApart`: a text that is read apart from what follows, with a number of
  placeholders.

## Main results

* `Dialect.convert_eq_print`: the conversion prints the tokens.
* `Dialect.convert_placeholder`: the placeholders are numbered in their order.
* `Dialect.ReadsApart.append`: two such texts follow each other.
-/

namespace QueryLoom

namespace Dialect

/-- A token; literals and identifiers have a content, and may lack their end. -/
inductive Token where
  | literal (content : List Char) (closed : Bool)
  | identifier (content : List Char) (closed : Bool)
  | placeholder
  | other (c : Char)
  deriving DecidableEq, Repr

/-- Whether a token has its end. -/
def Token.isClosed : Token → Bool
  | .literal _ closed => closed
  | .identifier _ closed => closed
  | .placeholder => true
  | .other _ => true

/-- The tokens of what follows a place, where `read` is the content of the open token so far. -/
def lexFrom : Place → List Char → List Char → List Token
  | .plain, _, [] => []
  | .literal, read, [] => [.literal read false]
  | .identifier, read, [] => [.identifier read false]
  | .literal, read, '\x27' :: rest => .literal read true :: lexFrom .plain [] rest
  | .literal, read, c :: rest => lexFrom .literal (read ++ [c]) rest
  | .identifier, read, '\x60' :: '\x60' :: rest => lexFrom .identifier (read ++ ['\x60']) rest
  | .identifier, read, '\x60' :: rest => .identifier read true :: lexFrom .plain [] rest
  | .identifier, read, c :: rest => lexFrom .identifier (read ++ [c]) rest
  | .plain, _, '\x27' :: rest => lexFrom .literal [] rest
  | .plain, _, '\x60' :: rest => lexFrom .identifier [] rest
  | .plain, _, '?' :: rest => .placeholder :: lexFrom .plain [] rest
  | .plain, _, c :: rest => .other c :: lexFrom .plain [] rest

/-- The tokens of a text. -/
def lex (text : String) : List Token := lexFrom .plain [] text.toList

/-- The content of an identifier between double quotes; a double quote in it is written twice. -/
def escape : List Char → List Char
  | [] => []
  | c :: rest => if c = '"' then '"' :: '"' :: escape rest else c :: escape rest

/-- Tokens in the dialect of the server, where `count` placeholders stand before them. -/
def printFrom : Nat → List Token → List Char
  | _, [] => []
  | count, .literal content closed :: rest =>
    '\x27' :: content ++ (if closed then ['\x27'] else []) ++ printFrom count rest
  | count, .identifier content closed :: rest =>
    '"' :: escape content ++ (if closed then ['"'] else []) ++ printFrom count rest
  | count, .placeholder :: rest =>
    '$' :: Nat.toDigits 10 (count + 1) ++ printFrom (count + 1) rest
  | count, .other c :: rest => c :: printFrom count rest

/-! ## The conversion prints the tokens -/

theorem escape_append (xs ys : List Char) : escape (xs ++ ys) = escape xs ++ escape ys := by
  induction xs with
  | nil => rfl
  | cons c rest ih =>
      by_cases h : c = '"'
      · simp only [List.cons_append, escape, h, ↓reduceIte, ih]
      · simp only [List.cons_append, escape, h, ↓reduceIte, ih]

/-- What stands before the tokens of a place: the open token without its end. -/
private def opened : Place → List Char → List Char
  | .plain, _ => []
  | .literal, read => '\x27' :: read
  | .identifier, read => '"' :: escape read

/-- Printing the tokens that follow a place is converting what follows it. -/
private theorem printFrom_lexFrom (place : Place) (read text : List Char) (count : Nat) :
    printFrom count (lexFrom place read text) =
      opened place read ++ convertFrom place count text := by
  fun_induction lexFrom place read text generalizing count with
  | case1 => rfl
  | case2 read => simp [printFrom, opened, convertFrom]
  | case3 read => simp [printFrom, opened, convertFrom]
  | case4 read rest ih => simp [printFrom, opened, convertFrom, ih]
  | case5 read c rest hc ih => simp [opened, convertFrom, ih]
  | case6 read rest ih => simp [opened, convertFrom, ih, escape_append, escape]
  | case7 read rest hc ih => simp [printFrom, opened, convertFrom, ih]
  | case8 read c rest hpair hlast ih =>
      -- only here the conversion splits further: a double quote in an identifier is written twice
      by_cases hquote : c = '"'
      · subst hquote
        simp [opened, convertFrom, ih, escape_append, escape]
      · simp [opened, convertFrom, ih, escape_append, escape, hquote]
  | case9 read rest ih => simp [opened, convertFrom, ih]
  | case10 read rest ih => simp [opened, convertFrom, ih, escape]
  | case11 read rest ih => simp [printFrom, opened, convertFrom, ih]
  | case12 read c rest h1 h2 h3 ih => simp [printFrom, opened, convertFrom, ih]

/-- Printing the tokens of a text is converting it, behind any number of placeholders. -/
theorem printFrom_lex (count : Nat) (text : String) :
    printFrom count (lex text) = convertFrom .plain count text.toList :=
  printFrom_lexFrom .plain [] text.toList count

/-- The conversion prints the tokens of a text. -/
theorem convert_eq_print (sql : String) : convert sql = String.ofList (printFrom 0 (lex sql)) := by
  unfold convert lex
  rw [printFrom_lexFrom]
  rfl

/-- Tokens are printed one after the other; those behind others are numbered on from there. -/
theorem printFrom_append (count : Nat) (xs ys : List Token) :
    printFrom count (xs ++ ys) =
      printFrom count xs ++ printFrom (count + xs.count .placeholder) ys := by
  induction xs generalizing count with
  | nil => rfl
  | cons t xs ih =>
      cases t with
      | literal content closed => simp [printFrom, ih]
      | identifier content closed => simp [printFrom, ih]
      | placeholder =>
          have hnext : count + 1 + xs.count .placeholder = count + (xs.count .placeholder + 1) := by
            omega
          simp [printFrom, ih, hnext]
      | other c => simp [printFrom, ih]

/-- A placeholder behind `k` others is printed as number `k + 1`. -/
theorem convert_placeholder {sql : String} {xs ys : List Token}
    (h : lex sql = xs ++ .placeholder :: ys) :
    convert sql = String.ofList (printFrom 0 xs) ++ "$" ++ toString (xs.count .placeholder + 1) ++
      String.ofList (printFrom (xs.count .placeholder + 1) ys) := by
  apply String.toList_inj.mp
  rw [convert_eq_print, h, printFrom_append]
  simp [printFrom, Nat.toString_eq_repr, Nat.toList_repr]

/-! ## Texts that are read apart from what follows -/

/-- The text is read apart from what follows it, if that is allowed: it consists of whole tokens,
and the given number of them are placeholders. -/
def ReadsApart (allowed : List Char → Prop) (text : List Char) (placeholders : Nat) : Prop :=
  ∃ tokens, (∀ rest, allowed rest →
      lexFrom .plain [] (text ++ rest) = tokens ++ lexFrom .plain [] rest) ∧
    tokens.count .placeholder = placeholders ∧ ∀ t ∈ tokens, t.isClosed = true

/-- Two texts that are read apart follow each other, if the second one may follow the first. -/
theorem ReadsApart.append {P Q : List Char → Prop} {xs ys : List Char} {m n : Nat}
    (hx : ReadsApart P xs m) (hy : ReadsApart Q ys n) (h : ∀ rest, Q rest → P (ys ++ rest)) :
    ReadsApart Q (xs ++ ys) (m + n) := by
  obtain ⟨first, hfirst, hm, hfirstClosed⟩ := hx
  obtain ⟨second, hsecond, hn, hsecondClosed⟩ := hy
  refine ⟨first ++ second, ?_, ?_, ?_⟩
  · intro rest hrest
    rw [List.append_assoc, hfirst _ (h rest hrest), hsecond rest hrest, List.append_assoc]
  · rw [List.count_append, hm, hn]
  · intro t ht
    rcases List.mem_append.mp ht with ht | ht
    · exact hfirstClosed t ht
    · exact hsecondClosed t ht

/-- A text that is read apart where nothing follows consists of these tokens. -/
theorem ReadsApart.lex {allowed : List Char → Prop} {text : String} {n : Nat}
    (h : ReadsApart allowed text.toList n) (hnil : allowed []) :
    (Dialect.lex text).count .placeholder = n ∧ ∀ t ∈ Dialect.lex text, t.isClosed = true := by
  obtain ⟨tokens, hread, hcount, hclosed⟩ := h
  have hlex : Dialect.lex text = tokens := by
    have hall := hread [] hnil
    rw [List.append_nil] at hall
    rw [Dialect.lex, hall]
    exact List.append_nil tokens
  rw [hlex]
  exact ⟨hcount, hclosed⟩

end Dialect

end QueryLoom

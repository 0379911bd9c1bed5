import Mathlib.Data.List.Forall2
import QueryLoom.Proofs.Tokens
import QueryLoom.Query

/-!
# Settled texts

A text that ends outside of literals and identifiers is settled: it can be read apart from what
follows it, but for one thing, since a backtick that follows a closing one would take it back.
Quoted names are settled whatever they are, and texts that are put together from settled ones by
something bare are settled again.

## Main definitions

* `Complete`, `Settled`: texts that are read apart from what follows, with a number of
  placeholders.
* `Bare`: texts without placeholders, quotes and backticks.
* `Unquoted`: names that do not pass for quoted.
* `AllSettled`: lists of settled texts.

## Main results

* `settled_quote`: a quoted name is settled.
* `Settled.between`, `Settled.joinText`, `AllSettled.intercalate`: so are texts put together.
-/

namespace QueryLoom

open Dialect

/-- What does not begin with a backtick. -/
def Unticked (text : List Char) : Prop := text.head? ≠ some Identifier.tick

instance (text : List Char) : Decidable (Unticked text) :=
  inferInstanceAs (Decidable (text.head? ≠ some Identifier.tick))

/-- A text after which anything may follow. -/
def Complete (text : String) (placeholders : Nat) : Prop :=
  ReadsApart (fun _ => True) text.toList placeholders

/-- A text after which anything may follow but a backtick. -/
def Settled (text : String) (placeholders : Nat) : Prop :=
  ReadsApart Unticked text.toList placeholders

theorem Complete.settled {text : String} {n : Nat} (h : Complete text n) : Settled text n := by
  obtain ⟨tokens, hread, hrest⟩ := h
  exact ⟨tokens, fun rest _ => hread rest trivial, hrest⟩

/-- Anything settled may follow a complete text. -/
theorem Complete.before {a b : String} {m n : Nat} (ha : Complete a m) (hb : Settled b n) :
    Settled (a ++ b) (m + n) := by
  unfold Settled
  rw [String.toList_append]
  exact ReadsApart.append ha hb fun _ _ => trivial

theorem Complete.append {a b : String} {m n : Nat} (ha : Complete a m) (hb : Complete b n) :
    Complete (a ++ b) (m + n) := by
  unfold Complete
  rw [String.toList_append]
  exact ReadsApart.append ha hb fun _ _ => trivial

/-- A text that does not begin with a backtick, and is not empty, may follow a settled one. -/
theorem unticked_append {text rest : List Char} (hne : text ≠ []) (h : Unticked text) :
    Unticked (text ++ rest) := by
  cases text with
  | nil => exact absurd rfl hne
  | cons c cs => exact h

/-- A complete text behind a settled one completes it. -/
theorem Settled.complete {a b : String} {m n : Nat} (ha : Settled a m) (hb : Complete b n)
    (hne : b.toList ≠ []) (htick : Unticked b.toList) : Complete (a ++ b) (m + n) := by
  unfold Complete
  rw [String.toList_append]
  exact ReadsApart.append ha hb fun _ _ => unticked_append hne htick

/-! ## Plain texts and quoted names -/

/-- A text without placeholders, quotes and backticks. -/
def Bare (text : String) : Prop :=
  ∀ c ∈ text.toList, c ≠ '?' ∧ c ≠ '\x27' ∧ c ≠ Identifier.tick

/-- Whether a character may stand in a bare text. -/
def isBare (c : Char) : Bool := c != '?' && c != '\x27' && c != Identifier.tick

instance (text : String) : Decidable (Bare text) :=
  decidable_of_iff (text.toList.all isBare = true) (by simp [Bare, isBare, and_assoc])

/-- A bare text consists of its characters. -/
theorem Bare.complete {text : String} (h : Bare text) : Complete text 0 := by
  have hread : ∀ cs : List Char, (∀ c ∈ cs, c ≠ '?' ∧ c ≠ '\x27' ∧ c ≠ Identifier.tick) →
      ReadsApart (fun _ => True) cs 0 := by
    intro cs hcs
    induction cs with
    | nil => exact ⟨[], fun _ _ => rfl, rfl, fun _ h => nomatch h⟩
    | cons c cs ih =>
        obtain ⟨hmark, hquote, htick⟩ := hcs c (List.mem_cons_self)
        have hone : ReadsApart (fun _ => True) [c] 0 := by
          refine ⟨[.other c], fun rest _ => ?_, rfl, by simp [Token.isClosed]⟩
          have htick' : c ≠ '\x60' := htick
          simp [lexFrom]
        exact ReadsApart.append hone (ih fun d hd => hcs d (List.mem_cons_of_mem _ hd))
          fun _ _ => trivial
  exact hread text.toList h

theorem Bare.unticked {text : String} (h : Bare text) : Unticked text.toList := by
  intro htick
  cases hcs : text.toList with
  | nil => simp [hcs] at htick
  | cons c cs =>
      have hc : c ∈ text.toList := by
        rw [hcs]
        exact List.mem_cons_self
      rw [hcs] at htick
      exact (h c hc).2.2 (by simpa using htick)

theorem Bare.append {a b : String} (ha : Bare a) (hb : Bare b) : Bare (a ++ b) := by
  intro c hc
  rw [String.toList_append] at hc
  rcases List.mem_append.mp hc with hleft | hright
  · exact ha c hleft
  · exact hb c hright

/-- Numbers consist of digits. -/
theorem bare_toString (n : Nat) : Bare (toString n) := by
  intro c hc
  rw [Nat.toString_eq_repr, Nat.toList_repr] at hc
  have hdigit : c.isDigit = true := Nat.isDigit_of_mem_toDigits (by decide) (by decide) hc
  refine ⟨?_, ?_, ?_⟩
  · intro h
    subst h
    exact absurd hdigit (by decide)
  · intro h
    subst h
    exact absurd hdigit (by decide)
  · intro h
    subst h
    exact absurd hdigit (by decide)

/-- A name with its backticks doubled is read as the name. -/
theorem lexFrom_body (name read rest : List Char) :
    lexFrom .identifier read (Identifier.double name ++ rest) =
      lexFrom .identifier (read ++ name) rest := by
  induction name generalizing read with
  | nil => simp [Identifier.double]
  | cons c name ih =>
      by_cases hc : c = Identifier.tick
      · subst hc
        have hstep := ih (read ++ [Identifier.tick])
        simpa [Identifier.double, Identifier.tick, lexFrom] using hstep
      · have hstep := ih (read ++ [c])
        have hc' : c ≠ '\x60' := hc
        simpa [Identifier.double, hc, lexFrom, hc'] using hstep

/-- What stands between the quotes of a name is read back as the name. -/
theorem lexFrom_double (name read rest : List Char) (h : Unticked rest) :
    lexFrom .identifier read (Identifier.double name ++ Identifier.tick :: rest) =
      .identifier (read ++ name) true :: lexFrom .plain [] rest := by
  rw [lexFrom_body]
  cases rest with
  | nil => simp [Identifier.tick, lexFrom]
  | cons c rest =>
      have hc : c ≠ '\x60' := fun hc => h (by rw [hc]; rfl)
      simp [Identifier.tick, lexFrom, hc]

/-- A name that does not already count as quoted. -/
def Unquoted (name : String) : Prop := Identifier.isQuoted name.toList = false

instance (name : String) : Decidable (Unquoted name) :=
  inferInstanceAs (Decidable (Identifier.isQuoted name.toList = false))

/-- A quoted name is one identifier, whatever the name is, unless it counted as quoted. -/
theorem settled_quote {name : String} (h : Unquoted name) :
    Settled (Identifier.quote name) 0 := by
  unfold Settled Identifier.quote Identifier.quoteChars
  unfold Unquoted at h
  refine ⟨[.identifier name.toList true], fun rest hrest => ?_, rfl, by simp [Token.isClosed]⟩
  rw [h, if_neg Bool.false_ne_true, String.toList_ofList]
  have hread := lexFrom_double name.toList [] rest hrest
  simpa [Identifier.tick, lexFrom] using hread

/-- A bare text does not count as quoted. -/
theorem Bare.unquoted {text : String} (h : Bare text) : Unquoted text := by
  unfold Unquoted
  cases hcs : text.toList with
  | nil => rfl
  | cons c cs =>
      have hc := (h c (by rw [hcs]; exact List.mem_cons_self)).2.2
      simp [Identifier.isQuoted, hc]

/-! ## Texts in a row -/

/-- A text that may stand between settled texts. -/
structure Glue (text : String) : Prop where
  complete : Complete text 0
  nonempty : text.toList ≠ []
  unticked : Unticked text.toList

theorem Bare.glue {text : String} (h : Bare text) (hne : text.toList ≠ []) : Glue text :=
  ⟨h.complete, hne, h.unticked⟩

/-- Behind a settled text glue completes it. -/
theorem Settled.glued {a glue : String} {n : Nat} (ha : Settled a n) (hglue : Glue glue) :
    Complete (a ++ glue) n :=
  ha.complete hglue.complete hglue.nonempty hglue.unticked

/-- Two settled texts with glue between them. -/
theorem Settled.between {a glue b : String} {m n : Nat} (ha : Settled a m) (hglue : Glue glue)
    (hb : Settled b n) : Settled (a ++ glue ++ b) (m + n) := by
  have hfirst : Complete (a ++ glue) m := ha.glued hglue
  exact hfirst.before hb

/-- A settled text that is empty has no placeholder. -/
theorem Settled.eq_zero {text : String} {n : Nat} (h : Settled text n) (hempty : text = "") :
    n = 0 := by
  subst hempty
  have hnil : Unticked [] := by simp [Unticked]
  have hlex := (ReadsApart.lex h hnil).1
  exact hlex.symm

theorem settled_empty : Settled "" 0 := by
  have hbare : Bare "" := by decide
  exact hbare.complete.settled

/-- Joining leaves out what is empty, which has no placeholders. -/
theorem Settled.joinText {a b : String} {m n : Nat} (ha : Settled a m) (hb : Settled b n) :
    Settled (Query.joinText a b) (m + n) := by
  unfold Query.joinText
  by_cases hbempty : b.isEmpty
  · have hn : n = 0 := hb.eq_zero (String.isEmpty_iff.mp hbempty)
    rw [if_pos hbempty, hn, Nat.add_zero]
    exact ha
  · rw [if_neg hbempty]
    by_cases haempty : a.isEmpty
    · have hm : m = 0 := ha.eq_zero (String.isEmpty_iff.mp haempty)
      rw [if_pos haempty, hm, Nat.zero_add]
      exact hb
    · rw [if_neg haempty]
      have hblank : Glue " " := Bare.glue (by decide) (by decide)
      exact ha.between hblank hb

/-- A settled text in parentheses. -/
theorem Settled.parenthesized {a : String} {n : Nat} (ha : Settled a n) :
    Settled ("(" ++ a ++ ")") n := by
  have hopen : Bare "(" := by decide
  have hclose : Glue ")" := Bare.glue (by decide) (by decide)
  have hfirst : Settled ("(" ++ a) (0 + n) := hopen.complete.before ha
  rw [Nat.zero_add] at hfirst
  exact (hfirst.glued hclose).settled

/-- Settled texts, with the number of their placeholders. -/
inductive AllSettled : List String → Nat → Prop where
  | nil : AllSettled [] 0
  | cons {text : String} {texts : List String} {m n : Nat} (head : Settled text m)
      (tail : AllSettled texts n) : AllSettled (text :: texts) (m + n)

theorem AllSettled.append {xs ys : List String} {m n : Nat} (hx : AllSettled xs m)
    (hy : AllSettled ys n) : AllSettled (xs ++ ys) (m + n) := by
  induction hx with
  | nil => simpa using hy
  | cons head tail ih =>
      rw [List.cons_append, Nat.add_assoc]
      exact .cons head ih

/-- Texts that are settled one by one, each with a placeholder for each of its values, are settled
together. -/
theorem AllSettled.of_forall₂ {α : Type} {values : α → List Value} {as : List α}
    {texts : List String}
    (h : List.Forall₂ (fun a text => Settled text (values a).length) as texts) :
    AllSettled texts (as.flatMap values).length := by
  induction h with
  | nil => exact .nil
  | cons head _ ih =>
      rw [List.flatMap_cons, List.length_append]
      exact .cons head ih

/-- Settled texts with commas between them. -/
theorem AllSettled.intercalate {texts : List String} {n : Nat} (h : AllSettled texts n) :
    Settled (", ".intercalate texts) n := by
  induction h with
  | nil => exact settled_empty
  | @cons text texts m n head tail ih =>
      cases texts with
      | nil =>
          have hn : n = 0 := ih.eq_zero rfl
          rw [String.intercalate_singleton, hn, Nat.add_zero]
          exact head
      | cons next rest =>
          have hcomma : Glue ", " := Bare.glue (by decide) (by decide)
          rw [String.intercalate_cons_cons]
          exact head.between hcomma ih

end QueryLoom

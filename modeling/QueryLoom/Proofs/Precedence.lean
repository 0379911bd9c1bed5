/-!
# Reading predicates with precedence

A predicate in SQL is a row of atoms, AND, OR and parentheses.  Parentheses come first, then AND,
then OR.  The grammar has a grade for each of them: a factor is an atom or a predicate in
parentheses, a conjunction is a row of factors, and a disjunction is a row of conjunctions.

## Main definitions

* `Predicate.Symbol`: what a predicate is written with.
* `Predicate.Reads`: the truth of a row of symbols, read at a grade.
* `Predicate.step`: reading the symbols one by one.

## Main results

* `Predicate.Reads.foldl_step`: reading one by one finds the truth that the grammar gives.
* `Predicate.Reads.unique`: a row of symbols is read in one way only.
-/

namespace QueryLoom.Predicate

/-- What a predicate is written with; atoms are numbered. -/
inductive Symbol where
  | atom (n : Nat)
  | and
  | or
  | opening
  | closing
  deriving DecidableEq, Repr

/-- How tightly a row of symbols holds together. -/
inductive Grade where
  | factor
  | conjunction
  | disjunction
  deriving DecidableEq, Repr

/-- The truth of a row of symbols, read at a grade, where `truth` is that of the atoms. -/
inductive Reads (truth : Nat → Bool) : Grade → List Symbol → Bool → Prop where
  | atom (n : Nat) : Reads truth .factor [.atom n] (truth n)
  | parenthesized {xs : List Symbol} {b : Bool} (h : Reads truth .disjunction xs b) :
      Reads truth .factor (.opening :: xs ++ [.closing]) b
  | factor {xs : List Symbol} {b : Bool} (h : Reads truth .factor xs b) :
      Reads truth .conjunction xs b
  | and {xs ys : List Symbol} {b c : Bool} (hx : Reads truth .conjunction xs b)
      (hy : Reads truth .factor ys c) : Reads truth .conjunction (xs ++ .and :: ys) (b && c)
  | conjunction {xs : List Symbol} {b : Bool} (h : Reads truth .conjunction xs b) :
      Reads truth .disjunction xs b
  | or {xs ys : List Symbol} {b c : Bool} (hx : Reads truth .disjunction xs b)
      (hy : Reads truth .conjunction ys c) : Reads truth .disjunction (xs ++ .or :: ys) (b || c)

/-! ## Reading one by one -/

/-- What is known of an open level: the truth of the conjunctions before the last OR, and of the
one behind it. -/
structure Level where
  earlier : Bool
  current : Bool
  deriving DecidableEq, Repr

namespace Level

/-- Nothing is read yet. -/
def start : Level := ⟨false, true⟩

/-- A factor joins the open conjunction. -/
def add (level : Level) (b : Bool) : Level := ⟨level.earlier, level.current && b⟩

/-- An OR completes it. -/
def next (level : Level) : Level := ⟨level.earlier || level.current, true⟩

/-- The truth of what was read. -/
def value (level : Level) : Bool := level.earlier || level.current

end Level

/-- Read one symbol, with the levels that are open from the inside out. -/
def step (truth : Nat → Bool) : List Level → Symbol → List Level
  | level :: outer, .atom n => level.add (truth n) :: outer
  | level :: outer, .or => level.next :: outer
  | levels, .opening => .start :: levels
  | inner :: level :: outer, .closing => level.add inner.value :: outer
  | levels, _ => levels

/-- What reading a row of symbols one by one finds, if they have this truth at a grade: factors and
conjunctions join the open conjunction, and a disjunction is read from where one may start. -/
def Finds (truth : Nat → Bool) (xs : List Symbol) (b : Bool) : Grade → Prop
  | .disjunction => ∀ earlier outer, ∃ level,
      xs.foldl (step truth) (⟨earlier, true⟩ :: outer) = level :: outer ∧
        level.value = (earlier || b)
  | _ => ∀ level outer, xs.foldl (step truth) (level :: outer) = level.add b :: outer

/-- Reading one by one finds the truth that the grammar gives. -/
theorem Reads.foldl_step {truth : Nat → Bool} {grade : Grade} {xs : List Symbol} {b : Bool}
    (h : Reads truth grade xs b) : Finds truth xs b grade := by
  induction h with
  | atom n =>
      intro level outer
      rfl
  | @parenthesized xs b h ih =>
      intro level outer
      obtain ⟨inner, hread, hvalue⟩ := ih false (level :: outer)
      have hinner : inner.value = b := by rw [hvalue, Bool.false_or]
      rw [List.cons_append, List.foldl_cons, List.foldl_append]
      show List.foldl (step truth)
        (List.foldl (step truth) (.start :: level :: outer) xs) [.closing] = _
      rw [Level.start, hread, List.foldl_cons, List.foldl_nil]
      simp only [step, hinner]
  | factor h ih => exact ih
  | @and xs ys b c hx hy ihx ihy =>
      intro level outer
      rw [List.foldl_append, ihx level outer, List.foldl_cons]
      have hand : step truth (level.add b :: outer) .and = level.add b :: outer := rfl
      rw [hand, ihy (level.add b) outer]
      simp only [Level.add, Bool.and_assoc]
  | @conjunction xs b h ih =>
      intro earlier outer
      refine ⟨_, ih ⟨earlier, true⟩ outer, ?_⟩
      simp only [Level.add, Level.value, Bool.true_and]
  | @or xs ys b c hx hy ihx ihy =>
      intro earlier outer
      obtain ⟨level, hread, hvalue⟩ := ihx earlier outer
      have hor : step truth (level :: outer) .or = ⟨level.value, true⟩ :: outer := rfl
      refine ⟨Level.add ⟨level.value, true⟩ c, ?_, ?_⟩
      · rw [List.foldl_append, hread, List.foldl_cons, hor]
        exact ihy ⟨level.value, true⟩ outer
      · show (level.value || (true && c)) = (earlier || (b || c))
        rw [hvalue, Bool.true_and, Bool.or_assoc]

/-- A row of symbols is read in one way only. -/
theorem Reads.unique {truth : Nat → Bool} {xs : List Symbol} {b c : Bool}
    (hb : Reads truth .disjunction xs b) (hc : Reads truth .disjunction xs c) : b = c := by
  obtain ⟨level, hread, hvalue⟩ := hb.foldl_step false []
  obtain ⟨level', hread', hvalue'⟩ := hc.foldl_step false []
  have hsame : level = level' := by
    have hlevels : [level] = [level'] := hread.symm.trans hread'
    exact List.cons.inj hlevels |>.1
  rw [Bool.false_or] at hvalue hvalue'
  rw [← hvalue, ← hvalue', hsame]

end QueryLoom.Predicate

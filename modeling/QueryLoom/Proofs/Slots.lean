import QueryLoom.Proofs.Filling
import QueryLoom.Proofs.Parsing

/-!
# The slots of a template

A template is filled in one walk over its parts, in which all slots draw on the same values.  A
single placeholder takes the next value, and is written even if there is none; the placeholder of a
list takes whatever is left.  Nothing is checked on the way.  What keeps text and values together is
the check of their number before the walk: in a template that passes it no single placeholder comes
upon an empty row of values, and none of the values is left at the end.

## Main definitions

* `Template.Filling`, `Template.Filling.run`: the walk over the parts.
* `Part.shown`: what stands for a part, as its place among the parts says.

## Main results

* `Template.Filling.run_eq`: the walk writes and binds what `Template.fill` says, checked or not.
* `Template.left_ne_nil`: every single placeholder has a value.
* `Template.text_of_fill`, `Template.count_of_fill`: the text, and the placeholders in it.
* `templates_bind_all_or_nothing`: the summary.
-/

namespace QueryLoom

namespace Template

/-! ## The walk over the parts -/

/-- A walk over the parts of a template: the text written so far, the session, and the values that
are left. -/
structure Filling where
  text : String
  session : Session
  left : List Value

namespace Filling

/-- Write a text. -/
def write (f : Filling) (text : String) : Filling := { f with text := f.text ++ text }

/-- Bind the next value, if there is one. -/
def bindNext (f : Filling) : Filling :=
  match f.left with
  | [] => f
  | value :: left =>
    { f with session := { f.session with params := f.session.params ++ [value] }, left }

/-- A placeholder for each of some values, which are bound one by one, where `n` placeholders of
the list stand already. -/
def drain (n : Nat) (text : String) (session : Session) : List Value → Filling
  | [] => ⟨text, session, []⟩
  | value :: left =>
    let text := if n = 0 then text else text ++ ", "
    drain (n + 1) (text ++ "?") { session with params := session.params ++ [value] } left

/-- The next part. -/
def step (column : String) (f : Filling) : Part → Filling
  | .text s => f.write s
  | .column => f.write column
  | .param => (f.write "?").bindNext
  | .params => drain 0 f.text f.session f.left

/-- Parts one after the other. -/
def run (column : String) (f : Filling) (parts : List Part) : Filling :=
  parts.foldl (step column) f

end Filling

/-- Behind the first placeholder of a list every other one comes with a separator. -/
theorem placeholders_succ (n : Nat) :
    placeholders (n + 1) = "?" ++ String.join (List.replicate n ", ?") := by
  induction n with
  | zero => rfl
  | succ n ih =>
      show "?, " ++ placeholders (n + 1) = _
      rw [ih, List.replicate_succ, String.join_cons, ← String.append_assoc, ← String.append_assoc]
      rfl

theorem placeholders_eq_intercalate (n : Nat) :
    placeholders n = ", ".intercalate (List.replicate n "?") := by
  induction n with
  | zero => rfl
  | succ n ih =>
      cases n with
      | zero => rfl
      | succ n =>
          have htwo : List.replicate (n + 2) "?" = "?" :: "?" :: List.replicate n "?" := rfl
          rw [htwo, String.intercalate_cons_cons, ← List.replicate_succ, ← ih]
          rfl

theorem count_placeholders (n : Nat) : (placeholders n).toList.count '?' = n := by
  induction n with
  | zero => rfl
  | succ n ih =>
      cases n with
      | zero => rfl
      | succ n =>
          show ("?, " ++ placeholders (n + 1)).toList.count '?' = n + 1 + 1
          rw [String.toList_append, List.count_append, ih, Nat.add_comm]
          rfl

namespace Filling

/-- Once a list has begun, every value brings a separator and a placeholder. -/
theorem drain_succ (n : Nat) (text : String) (session : Session) (left : List Value) :
    drain (n + 1) text session left =
      ⟨text ++ String.join (List.replicate left.length ", ?"),
        { session with params := session.params ++ left }, []⟩ := by
  induction left generalizing n text session with
  | nil => simp [drain]
  | cons value left ih =>
      rw [drain, ih]
      simp [List.replicate_succ, String.append_assoc]

/-- A list takes all values that are left. -/
theorem drain_zero (text : String) (session : Session) (left : List Value) :
    drain 0 text session left =
      ⟨text ++ placeholders left.length,
        { session with params := session.params ++ left }, []⟩ := by
  cases left with
  | nil => simp [drain, placeholders]
  | cons value left =>
      rw [drain, drain_succ, List.length_cons, placeholders_succ]
      simp [String.append_assoc]

/-- Without any check, the walk writes and binds what filling the parts comes to, and drops from the
values those that it binds. -/
theorem run_eq (column : String) (f : Filling) (parts : List Part) :
    f.run column parts =
      ⟨f.text ++ (fill column parts f.left).1,
        { f.session with params := f.session.params ++ (fill column parts f.left).2 },
        f.left.drop (fill column parts f.left).2.length⟩ := by
  induction parts generalizing f with
  | nil => simp [run, fill]
  | cons part rest ih =>
      obtain ⟨text, session, left⟩ := f
      show (step column ⟨text, session, left⟩ part).run column rest = _
      rw [ih]
      cases part with
      | text s => simp [step, write, fill, String.append_assoc]
      | column => simp [step, write, fill, String.append_assoc]
      | param =>
          cases left with
          | nil => simp [step, write, bindNext, fill, String.append_assoc]
          | cons value left => simp [step, write, bindNext, fill, String.append_assoc]
      | params => simp [step, drain_zero, fill, fill_bound_nil, String.append_assoc]

/-- Single placeholders take a value each. -/
theorem left_run (column : String) (f : Filling) {parts : List Part} (h : .params ∉ parts) :
    (f.run column parts).left = f.left.drop (parts.count .param) := by
  induction parts generalizing f with
  | nil => rfl
  | cons part rest ih =>
      have hrest : .params ∉ rest := fun hmem => h (List.mem_cons_of_mem _ hmem)
      show ((step column f part).run column rest).left = _
      rw [ih _ hrest]
      cases part with
      | text s => simp [step, write]
      | column => simp [step, write]
      | param =>
          obtain ⟨text, session, left⟩ := f
          cases left with
          | nil => simp [step, write, bindNext]
          | cons value left => simp [step, write, bindNext]
      | params => exact absurd List.mem_cons_self h

end Filling

/-! ## Templates that take the values -/

section Accepted

variable {template : Template} {values : List Value}

/-- The walk over a template that takes the values binds all of them. -/
theorem run_of_accepts (h : template.accepts values.length = true) (column : String)
    (s : Session) :
    Filling.run column ⟨"", s, values⟩ template.parts =
      ⟨(fill column template.parts values).1, { s with params := s.params ++ values }, []⟩ := by
  rw [Filling.run_eq, fill_bound template column values h, List.drop_length, String.empty_append]

/-- And it finds a value for every single placeholder. -/
theorem left_ne_nil (h : template.accepts values.length = true) (column : String) (s : Session)
    {front back : List Part} (hparts : template.parts = front ++ .param :: back) :
    (Filling.run column ⟨"", s, values⟩ front).left ≠ [] := by
  obtain ⟨halone, henough⟩ := enough_of_accepts h
  rw [hparts, List.countP_append, List.countP_cons_of_pos rfl] at halone henough
  have hsingle : .params ∉ front := by
    intro hmem
    have hzero := halone (List.mem_append_left _ hmem)
    omega
  have hfront : front.count .param < values.length := by
    unfold List.count
    omega
  rw [Filling.left_run column _ hsingle]
  simpa using hfront

end Accepted

/-- A template refuses a number of values if its slots cannot take that many: a list wants a value,
and no single placeholder beside it. -/
theorem accepts_eq_false_iff (template : Template) (values : List Value) :
    template.accepts values.length = false ↔
      if .params ∈ template.parts then .param ∈ template.parts ∨ values = []
      else values.length ≠ template.parts.count .param := by
  have hsingle : template.fixed ≠ 0 ↔ .param ∈ template.parts :=
    Nat.pos_iff_ne_zero.symm.trans List.count_pos_iff
  unfold accepts
  by_cases hlist : .params ∈ template.parts
  · have hvariadic : template.variadic = true := List.contains_iff_mem.mpr hlist
    rw [if_pos hvariadic, if_pos hlist, Bool.and_eq_false_iff, beq_eq_false_iff_ne, hsingle,
      bne_eq_false_iff_eq, List.length_eq_zero_iff]
  · have hvariadic : ¬ template.variadic = true := fun h => hlist (List.contains_iff_mem.mp h)
    rw [if_neg hvariadic, if_neg hlist, beq_eq_false_iff_ne]
    exact Iff.rfl

end Template

/-! ## The text -/

/-- What stands for a part, behind the parts in front of it, when a number of values is bound.  Of
several lists only the first one has placeholders. -/
def Part.shown (column : String) (count : Nat) (front : List Part) : Part → String
  | .text s => s
  | .column => column
  | .param => "?"
  | .params => if .params ∈ front then "" else ", ".intercalate (List.replicate count "?")

namespace Template

/-- Filled parts are what stands for each of them, if the values are gone behind a list, and the
first list is still to have all of them and no single placeholder beside it. -/
theorem text_of_fill (column : String) (count : Nat) (front : List Part) {parts : List Part}
    {values : List Value} (hgone : .params ∈ front → values = [])
    (hlist : .params ∉ front → .params ∈ parts → values.length = count ∧ .param ∉ parts) :
    (fill column parts values).1 =
      String.join (parts.mapIdx fun i part => part.shown column count (front ++ parts.take i)) := by
  induction parts generalizing front values with
  | nil => rfl
  | cons part rest ih =>
      have hnext := fun values => @ih (front ++ [part]) values
      simp only [List.append_assoc, List.singleton_append] at hnext
      rw [List.mapIdx_cons, String.join_cons]
      simp only [List.take_zero, List.append_nil, List.take_succ_cons]
      cases part with
      | text s =>
          exact congrArg (s ++ ·) (hnext values (by simpa using hgone) (by simpa using hlist))
      | column =>
          exact congrArg (column ++ ·) (hnext values (by simpa using hgone) (by simpa using hlist))
      | param =>
          -- a single placeholder stands beside no list that is still to come
          have hlater : .params ∉ front → .params ∉ rest := fun hfront hmem =>
            (hlist hfront (List.mem_cons_of_mem _ hmem)).2 List.mem_cons_self
          have hnone : ∀ values : List Value, .params ∉ front ++ [.param] → .params ∈ rest →
              values.length = count ∧ .param ∉ rest :=
            fun values hfront hmem => absurd hmem (hlater (by simpa using hfront))
          cases values with
          | nil => exact congrArg ("?" ++ ·) (hnext [] (fun _ => rfl) (hnone []))
          | cons value values =>
              have hfront : .params ∉ front ++ [.param] := by
                simpa using fun hmem => List.cons_ne_nil _ _ (hgone hmem)
              exact congrArg ("?" ++ ·)
                (hnext values (fun hmem => absurd hmem hfront) (hnone values))
      | params =>
          have hslot : placeholders values.length = Part.params.shown column count front := by
            by_cases hfront : .params ∈ front
            · rw [hgone hfront, Part.shown, if_pos hfront]
              rfl
            · rw [(hlist hfront List.mem_cons_self).1, Part.shown, if_neg hfront,
                placeholders_eq_intercalate]
          rw [← hslot]
          exact congrArg (placeholders values.length ++ ·) (hnext [] (fun _ => rfl) (by simp))

/-- Filled parts have a placeholder for each value that they bind, besides those in the column, if
their texts have none, a list stands alone and the values suffice. -/
theorem count_of_fill (column : String) {parts : List Part} {values : List Value}
    (hplain : ∀ s, .text s ∈ parts → '?' ∉ s.toList)
    (halone : .params ∈ parts → parts.countP (· == .param) = 0)
    (henough : parts.countP (· == .param) ≤ values.length) :
    (fill column parts values).1.toList.count '?' =
      (fill column parts values).2.length + parts.count .column * column.toList.count '?' := by
  induction parts generalizing values with
  | nil => simp [fill]
  | cons part rest ih =>
      have hrest := fun values => @ih values fun s hs => hplain s (List.mem_cons_of_mem _ hs)
      cases part with
      | text s =>
          have hnone : s.toList.count '?' = 0 :=
            List.count_eq_zero.mpr (hplain s List.mem_cons_self)
          have htail := hrest values (by simpa using halone) (by simpa using henough)
          simp [fill, hnone, htail]
      | column =>
          have htail := hrest values (by simpa using halone) (by simpa using henough)
          simp [fill, htail, Nat.add_mul]
          omega
      | param =>
          have hsingle : .params ∉ rest := fun hmem => by simpa using halone (by simp [hmem])
          cases values with
          | nil => simp at henough
          | cons value values =>
              have htail := hrest values (fun hmem => absurd hmem hsingle) (by simpa using henough)
              simp [fill, htail]
              omega
      | params =>
          have hzero : rest.countP (· == .param) = 0 := by simpa using halone List.mem_cons_self
          have htail := hrest [] (fun _ => hzero) (by simp [hzero])
          simp [fill, htail, count_placeholders]
          omega

end Template

/-! ## Summary -/

/-- Let a template that was read from a source be filled for a column.  If it is, the values were
bound in their order behind those that were bound before, and the text is what stands for each of
the parts, with as many placeholders as values besides those in the column.  The walk over the parts
has led to this text and this session; it came upon no single placeholder without a value, and no
value is left.  If it is not, the session is as it was.  And it is not exactly if the slots cannot
take that many values: a list wants at least one value and no single placeholder beside it, and
single placeholders want one value each. -/
theorem templates_bind_all_or_nothing (source column : String) (values : List Value)
    (s : Session) :
    let template := Template.parse source
    (∀ text s', template.apply column values s = .ok text s' →
      s' = { s with params := s.params ++ values } ∧
      text = String.join (template.parts.mapIdx fun i part =>
        part.shown column values.length (template.parts.take i)) ∧
      text.toList.count '?' =
        values.length + template.parts.count .column * column.toList.count '?' ∧
      Template.Filling.run column ⟨"", s, values⟩ template.parts = ⟨text, s', []⟩ ∧
      ∀ front back, template.parts = front ++ .param :: back →
        (Template.Filling.run column ⟨"", s, values⟩ front).left ≠ []) ∧
    (∀ e s', template.apply column values s = .error e s' →
      s' = s ∧ e = .validation (.parameterCount source values.length)) ∧
    ((∃ e s', template.apply column values s = .error e s') ↔
      if .params ∈ template.parts then .param ∈ template.parts ∨ values = []
      else values.length ≠ template.parts.count .param) := by
  intro template
  rw [← template.accepts_eq_false_iff values]
  cases haccepts : template.accepts values.length with
  | false =>
      rw [Template.apply_of_not_accepts haccepts]
      refine ⟨nofun, ?_, fun _ => rfl, fun _ => ⟨_, _, rfl⟩⟩
      rintro e s' ⟨⟩
      exact ⟨rfl, rfl⟩
  | true =>
      obtain ⟨halone, henough⟩ := Template.enough_of_accepts haccepts
      have hproper : Template.Proper template.parts := (Template.parts_eq_iff.mp rfl).2
      have hcount := Template.count_of_fill column (fun s hs => (hproper.plain hs).2.1) halone
        henough
      rw [Template.fill_bound template column values haccepts] at hcount
      have htext := @Template.text_of_fill column values.length [] template.parts values
        (fun hmem => absurd hmem List.not_mem_nil)
        fun _ hmem => ⟨rfl, List.count_eq_zero.mp (halone hmem)⟩
      rw [Template.apply_of_accepts haccepts]
      refine ⟨?_, nofun, nofun, nofun⟩
      rintro text s' ⟨⟩
      exact ⟨rfl, htext, hcount, Template.run_of_accepts haccepts column s,
        fun front back => Template.left_ne_nil haccepts column s⟩

/-- Of two lists the first one has both values, and the placeholder in the column is one more.  A
range finds its second bound behind the first one; with one bound it is refused, with none bound. -/
theorem second_list_is_empty :
    let s : Session := { Session.start .full (.empty 0) with params := [.bool true] }
    let lists := Template.parse "\x7bcolumn\x7d IN (\x7b?\x7d) -- \x7b?\x7d"
    let range := Template.parse "\x7bcolumn\x7d BETWEEN ? AND ?"
    (∃ text s', lists.apply "f(?)" [.int 1, .int 2] s = .ok text s' ∧
      s'.params = [.bool true, .int 1, .int 2] ∧ text = "f(?) IN (?, ?) -- " ∧
      text.toList.count '?' = 3) ∧
    (∃ text s', range.apply "a" [.int 1, .int 2] s = .ok text s' ∧
      (Template.Filling.run "a" ⟨"", s, [.int 1, .int 2]⟩
        [.column, .text " BETWEEN ", .param, .text " AND "]).left ≠ []) ∧
    ∃ e s', range.apply "a" [.int 1] s = .error e s' ∧ s'.params = [.bool true] := by
  intro s lists range
  obtain ⟨hlists, -⟩ := templates_bind_all_or_nothing
    "\x7bcolumn\x7d IN (\x7b?\x7d) -- \x7b?\x7d" "f(?)" [.int 1, .int 2] s
  obtain ⟨hrange, -⟩ := templates_bind_all_or_nothing
    "\x7bcolumn\x7d BETWEEN ? AND ?" "a" [.int 1, .int 2] s
  obtain ⟨-, hrefused, hrefuses⟩ := templates_bind_all_or_nothing
    "\x7bcolumn\x7d BETWEEN ? AND ?" "a" [.int 1] s
  refine ⟨?_, ?_, ?_⟩
  · have hok := @Template.apply_of_accepts lists [.int 1, .int 2] (by decide) "f(?)" s
    obtain ⟨hparams, htext, hcount, -⟩ := hlists _ _ hok
    exact ⟨_, _, hok, rfl, htext.trans (by decide), hcount.trans (by decide)⟩
  · have hok := @Template.apply_of_accepts range [.int 1, .int 2] (by decide) "a" s
    obtain ⟨-, -, -, -, hleft⟩ := hrange _ _ hok
    exact ⟨_, _, hok, hleft _ [] (by decide)⟩
  · obtain ⟨e, s', herror⟩ := hrefuses.mpr (by decide)
    exact ⟨e, s', herror, by rw [(hrefused e s' herror).1]⟩

end QueryLoom

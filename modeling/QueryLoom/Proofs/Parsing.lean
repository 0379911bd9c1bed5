import QueryLoom.Template

/-!
# Reading templates

The parts of a template are its source cut up: nothing is lost, and no marker is overlooked.  A
source has only one such row of parts.  It is the one that a loop finds which walks through the
bytes of the source with two cursors; the loop ends, and it never cuts within a character.

## Main definitions

* `Part.source`: what a part is written as.
* `Template.marker?`: the marker at the beginning of what is still to be read.
* `Template.Scans`: reading a source from some place on.
* `Template.Proper`: rows of parts in which no marker is overlooked.
* `Template.Cursors`, `Template.Cursors.Rounds`: the state of the loop, and rounds of it.

## Main results

* `Template.scans_scan`, `Template.Scans.unique`: a source is read in one way.
* `Template.parts_eq_iff`: the parts are the only proper ones that are written as the source.
* `Template.Scans.exists_rounds`: the loop ends, and finds the parts.
* `parts_are_the_source_cut_up`: the summary.
-/

namespace QueryLoom

/-- What a part is written as. -/
def Part.source : Part → String
  | .text s => s
  | .column => "\x7bcolumn\x7d"
  | .param => "?"
  | .params => "\x7b?\x7d"

namespace Template

/-! ## Markers -/

/-- The parts other than text, in the order in which they are looked for. -/
def markers : List Part := [.column, .params, .param]

theorem mem_markers_iff {p : Part} : p ∈ markers ↔ p = .column ∨ p = .params ∨ p = .param := by
  simp [markers]

theorem text_notMem_markers (s : String) : Part.text s ∉ markers := by
  simp [markers]

/-- The marker that the rest of a source begins with. -/
def marker? (rest : List Char) : Option Part :=
  markers.find? fun p => p.source.toList.isPrefixOf rest

theorem marker?_eq_some {rest : List Char} {p : Part} (h : marker? rest = some p) :
    p ∈ markers ∧ ∃ tail, rest = p.source.toList ++ tail := by
  have hprefix := List.find?_some h
  obtain ⟨tail, htail⟩ := List.isPrefixOf_iff_prefix.mp hprefix
  exact ⟨List.mem_of_find?_eq_some h, tail, htail.symm⟩

/-- No marker begins as another one does. -/
theorem marker?_source {p : Part} (h : p ∈ markers) (tail : List Char) :
    marker? (p.source.toList ++ tail) = some p := by
  rcases mem_markers_iff.mp h with rfl | rfl | rfl <;> simp [marker?, markers, Part.source]

theorem source_append_ne_nil {p : Part} (h : p ∈ markers) (tail : List Char) :
    p.source.toList ++ tail ≠ [] := by
  rcases mem_markers_iff.mp h with rfl | rfl | rfl <;> simp [Part.source]

/-- Behind a marker there is less to read. -/
theorem length_lt_source_append {p : Part} (h : p ∈ markers) (tail : List Char) :
    tail.length < (p.source.toList ++ tail).length := by
  have hsource : p.source.toList ≠ [] := by
    simpa using source_append_ne_nil h []
  rw [List.length_append]
  exact Nat.lt_add_of_pos_left (List.length_pos_iff.mpr hsource)

theorem pending_of_ne_nil {text : List Char} (h : text ≠ []) :
    pending text = [.text (String.ofList text)] := by
  rw [pending, if_neg (by simpa using h)]

theorem pending_toList {s : String} (h : s ≠ "") : pending s.toList = [.text s] := by
  rw [pending_of_ne_nil (by simpa using h), String.ofList_toList]

/-! ## Reading from some place on -/

/-- Behind a text that has been read since the last marker, the rest of a source yields parts. -/
inductive Scans : List Char → List Char → List Part → Prop where
  | stop (text : List Char) : Scans text [] (pending text)
  | skip {text rest : List Char} {c : Char} {parts : List Part} :
      marker? (c :: rest) = none → Scans (text ++ [c]) rest parts → Scans text (c :: rest) parts
  | mark {text rest tail : List Char} {p : Part} {parts : List Part} :
      p ∈ markers → rest = p.source.toList ++ tail → Scans [] tail parts →
        Scans text rest (pending text ++ p :: parts)

theorem scans_scan (text rest : List Char) : Scans text rest (scan text rest) := by
  fun_induction scan text rest with
  | case1 text rest ih => exact .mark (p := .column) (by decide) rfl ih
  | case2 text rest ih => exact .mark (p := .params) (by decide) rfl ih
  | case3 text rest ih => exact .mark (p := .param) (by decide) rfl ih
  | case4 text c rest hcolumn hparams hparam ih =>
      refine .skip (Option.eq_none_iff_forall_ne_some.mpr fun p hp => ?_) ih
      obtain ⟨hmem, tail, htail⟩ := marker?_eq_some hp
      rcases mem_markers_iff.mp hmem with rfl | rfl | rfl
      · obtain ⟨hc, hrest⟩ := List.cons.inj htail
        exact hcolumn tail hc hrest
      · obtain ⟨hc, hrest⟩ := List.cons.inj htail
        exact hparams tail hc hrest
      · exact hparam (List.cons.inj htail).1
  | case5 text => exact .stop text

/-- There is only one way to read. -/
theorem Scans.unique {text rest : List Char} {parts others : List Part}
    (h : Scans text rest parts) (hothers : Scans text rest others) : parts = others := by
  -- the mixed cases are out because the marker in front is told by what is still to be read
  induction h generalizing others with
  | stop text =>
      cases hothers with
      | stop => rfl
      | mark hp hrest => exact absurd hrest.symm (source_append_ne_nil hp _)
  | skip hnone _ ih =>
      cases hothers with
      | skip _ hothers => exact ih hothers
      | mark hp hrest =>
          rw [hrest, marker?_source hp] at hnone
          cases hnone
  | @mark text rest tail p parts hp hrest _ ih =>
      cases hothers with
      | stop => exact absurd hrest.symm (source_append_ne_nil hp tail)
      | skip hnone =>
          rw [hrest, marker?_source hp] at hnone
          cases hnone
      | @mark _ _ tail' q _ hq hrest' hothers =>
          have hsame : some p = some q := by
            rw [← marker?_source hp tail, ← hrest, hrest', marker?_source hq]
          cases hsame
          have htail : tail = tail' := List.append_cancel_left (hrest.symm.trans hrest')
          subst htail
          rw [ih hothers]

/-! ## Rows of parts -/

/-- Parts as they are written one behind the other. -/
def sourceOf (parts : List Part) : String := String.join (parts.map Part.source)

@[simp]
theorem toList_sourceOf_nil : (sourceOf []).toList = [] := rfl

@[simp]
theorem toList_sourceOf_cons (p : Part) (parts : List Part) :
    (sourceOf (p :: parts)).toList = p.source.toList ++ (sourceOf parts).toList := by
  rw [sourceOf, List.map_cons, String.join_cons, String.toList_append, sourceOf]

/-- No marker begins within the text if the rest of a source follows it. -/
def Free (text rest : List Char) : Prop :=
  ∀ back, back <:+ text → back ≠ [] → marker? (back ++ rest) = none

theorem free_nil (rest : List Char) : Free [] rest :=
  fun _ hback hne => absurd (List.suffix_nil.mp hback) hne

/-- A text goes on where no marker begins. -/
theorem Free.concat {text rest : List Char} {c : Char} (h : Free text (c :: rest))
    (hnone : marker? (c :: rest) = none) : Free (text ++ [c]) rest := by
  intro back hback hne
  rcases List.suffix_concat_iff.mp hback with rfl | ⟨front, rfl, hfront⟩
  · exact absurd rfl hne
  · rw [List.append_assoc, List.singleton_append]
    by_cases hempty : front = []
    · rwa [hempty]
    · exact h front hfront hempty

/-- So there is no marker in it. -/
theorem Free.not_infix {text rest : List Char} (h : Free text rest) {p : Part}
    (hp : p ∈ markers) : ¬ p.source.toList <:+: text := by
  rintro ⟨front, back, rfl⟩
  have hnone := h (p.source.toList ++ back) ⟨front, by rw [List.append_assoc]⟩
    (source_append_ne_nil hp back)
  rw [List.append_assoc, marker?_source hp] at hnone
  cases hnone

/-- Texts that are not empty stand between markers, and no marker begins within them. -/
inductive Proper : List Part → Prop where
  | nothing : Proper []
  | marker {p : Part} {rest : List Part} : p ∈ markers → Proper rest → Proper (p :: rest)
  | last {s : String} : s ≠ "" → Free s.toList [] → Proper [.text s]
  | text {s : String} {p : Part} {rest : List Part} :
      s ≠ "" → p ∈ markers → Free s.toList (sourceOf (p :: rest)).toList → Proper rest →
        Proper (.text s :: p :: rest)

/-- What is read is proper, and is written as what was read. -/
theorem Scans.proper {text rest : List Char} {parts : List Part} (h : Scans text rest parts)
    (hfree : Free text rest) : Proper parts ∧ (sourceOf parts).toList = text ++ rest := by
  induction h with
  | stop text =>
      by_cases hempty : text = []
      · subst hempty
        exact ⟨.nothing, rfl⟩
      · rw [pending_of_ne_nil hempty]
        exact ⟨.last (by simpa using hempty) (by simpa using hfree), by simp [Part.source]⟩
  | skip hnone _ ih =>
      obtain ⟨hproper, hsource⟩ := ih (hfree.concat hnone)
      exact ⟨hproper, by rw [hsource, List.append_assoc, List.singleton_append]⟩
  | @mark text rest tail p parts hp hrest _ ih =>
      obtain ⟨hproper, hsource⟩ := ih (free_nil tail)
      have hbehind : (sourceOf (p :: parts)).toList = rest := by
        rw [toList_sourceOf_cons, hsource, hrest, List.nil_append]
      by_cases hempty : text = []
      · subst hempty
        exact ⟨.marker hp hproper, hbehind⟩
      · rw [pending_of_ne_nil hempty, List.singleton_append]
        refine ⟨.text (by simpa using hempty) hp ?_ hproper, ?_⟩
        · rwa [hbehind, String.toList_ofList]
        · rw [toList_sourceOf_cons, hbehind, Part.source, String.toList_ofList]

/-- Reading goes on behind a text in which no marker begins. -/
theorem Scans.over (before : List Char) {text rest : List Char} {parts : List Part}
    (hfree : Free text rest) (h : Scans (before ++ text) rest parts) :
    Scans before (text ++ rest) parts := by
  induction text generalizing before with
  | nil => simpa using h
  | cons c text ih =>
      have hnone : marker? (c :: (text ++ rest)) = none :=
        hfree (c :: text) List.suffix_rfl (List.cons_ne_nil _ _)
      have hbehind : Free text rest :=
        fun back hback => hfree back (hback.trans (List.suffix_cons c text))
      have hrest : Scans (before ++ [c] ++ text) rest parts := by
        rwa [List.append_assoc, List.singleton_append]
      exact .skip hnone (ih _ hbehind hrest)

/-- Proper parts are read from what they are written as. -/
theorem Proper.scans {parts : List Part} (h : Proper parts) :
    Scans [] (sourceOf parts).toList parts := by
  induction h with
  | nothing => exact .stop []
  | @marker p rest hp _ ih =>
      have hmarker : Scans [] _ (pending [] ++ p :: rest) :=
        .mark hp (toList_sourceOf_cons p rest) ih
      exact hmarker
  | @last s hne hfree =>
      have hend : Scans s.toList [] (pending s.toList) := .stop s.toList
      rw [pending_toList hne] at hend
      rw [toList_sourceOf_cons]
      exact .over [] hfree hend
  | @text s p rest hne hp hfree _ ih =>
      have hmarker : Scans s.toList _ (pending s.toList ++ p :: rest) :=
        .mark hp (toList_sourceOf_cons p rest) ih
      rw [pending_toList hne, List.singleton_append] at hmarker
      rw [toList_sourceOf_cons]
      exact .over [] hfree hmarker

/-- The parts of a template are the only proper ones that are written as its source. -/
theorem parts_eq_iff {source : String} {parts : List Part} :
    parts = (parse source).parts ↔ sourceOf parts = source ∧ Proper parts := by
  have hscans := scans_scan [] source.toList
  constructor
  · rintro rfl
    obtain ⟨hproper, hsource⟩ := hscans.proper (free_nil _)
    exact ⟨String.toList_inj.mp hsource, hproper⟩
  · rintro ⟨rfl, hproper⟩
    exact hproper.scans.unique hscans

namespace Proper

variable {parts : List Part}

/-- A text is not empty, and has neither a placeholder nor a place for the column in it. -/
theorem plain (h : Proper parts) {s : String} (hs : .text s ∈ parts) :
    s ≠ "" ∧ '?' ∉ s.toList ∧ ¬ Part.column.source.toList <:+: s.toList := by
  have hfree : s ≠ "" ∧ ∃ rest, Free s.toList rest := by
    induction h with
    | nothing => cases hs
    | marker hp _ ih =>
        rcases List.mem_cons.mp hs with rfl | hrest
        · exact absurd hp (text_notMem_markers s)
        · exact ih hrest
    | last hne hfree =>
        cases List.mem_singleton.mp hs
        exact ⟨hne, _, hfree⟩
    | text hne hp hfree _ ih =>
        rcases List.mem_cons.mp hs with heq | hbehind
        · cases heq
          exact ⟨hne, _, hfree⟩
        · rcases List.mem_cons.mp hbehind with rfl | hrest
          · exact absurd hp (text_notMem_markers s)
          · exact ih hrest
  obtain ⟨hne, rest, hfree⟩ := hfree
  refine ⟨hne, fun hmem => ?_, hfree.not_infix (by decide)⟩
  obtain ⟨front, back, hsplit⟩ := List.append_of_mem hmem
  exact hfree.not_infix (p := .param) (by decide) ⟨front, back, by simp [hsplit, Part.source]⟩

/-- Texts are not adjacent. -/
theorem not_adjacent (h : Proper parts) (s t : String) : ¬ [.text s, .text t] <:+: parts := by
  induction h with
  | nothing => simp
  | @marker p rest hp _ ih =>
      rw [List.infix_cons_iff, not_or]
      refine ⟨fun hprefix => ?_, ih⟩
      rw [(List.cons_prefix_cons.mp hprefix).1.symm] at hp
      exact text_notMem_markers s hp
  | last => simp [List.infix_cons_iff]
  | @text r p rest _ hp _ hrest ih =>
      rw [List.infix_cons_iff, List.infix_cons_iff, not_or, not_or]
      refine ⟨fun hprefix => ?_, fun hprefix => ?_, ih⟩
      · have hsecond := (List.cons_prefix_cons.mp hprefix).2
        rw [(List.cons_prefix_cons.mp hsecond).1.symm] at hp
        exact text_notMem_markers t hp
      · rw [(List.cons_prefix_cons.mp hprefix).1.symm] at hp
        exact text_notMem_markers s hp

end Proper

/-! ## Bytes -/

open Config (byteLength)

theorem byteLength_append (front back : List Char) :
    byteLength (front ++ back) = byteLength front + byteLength back := by
  induction front with
  | nil => simp [byteLength]
  | cons c front ih => simp [byteLength, ih, Nat.add_assoc]

theorem byteLength_pos {text : List Char} (h : text ≠ []) : 0 < byteLength text := by
  cases text with
  | nil => exact absurd rfl h
  | cons c text => exact Nat.add_pos_left c.utf8Size_pos _

/-- Cut characters in two at a byte offset, which has to lie between two of them. -/
def cutAt? : List Char → Nat → Option (List Char × List Char)
  | rest, 0 => some ([], rest)
  | [], _ + 1 => none
  | c :: rest, n + 1 =>
    if c.utf8Size ≤ n + 1 then
      (cutAt? rest (n + 1 - c.utf8Size)).map fun (front, back) => (c :: front, back)
    else none

theorem cutAt?_append (front back : List Char) :
    cutAt? (front ++ back) (byteLength front) = some (front, back) := by
  induction front with
  | nil =>
      show cutAt? back 0 = some ([], back)
      unfold cutAt?
      rfl
  | cons c front ih =>
      obtain ⟨n, hn⟩ : ∃ n, byteLength (c :: front) = n + 1 :=
        Nat.exists_eq_add_of_le' (Nat.le_add_right_of_le c.utf8Size_pos)
      have hlength : c.utf8Size + byteLength front = n + 1 := hn
      have hrest : n + 1 - c.utf8Size = byteLength front := by omega
      rw [hn, List.cons_append, cutAt?, if_pos (by omega), hrest, ih]
      rfl

/-- The characters from one byte offset to another one. -/
def slice? (source : List Char) (start stop : Nat) : Option (List Char) := do
  let (_, behind) ← cutAt? source start
  let (text, _) ← cutAt? behind (stop - start)
  some text

theorem slice?_append (front text back : List Char) :
    slice? (front ++ text ++ back) (byteLength front) (byteLength (front ++ text)) = some text := by
  have hlength : byteLength (front ++ text) - byteLength front = byteLength text := by
    rw [byteLength_append]
    omega
  simp [slice?, cutAt?_append, hlength]

/-! ## The loop -/

/-- Two cursors, as offsets in bytes, and the parts found so far.  The text between the cursors has
been read since the last marker. -/
structure Cursors where
  start : Nat
  here : Nat
  parts : List Part

namespace Cursors

/-- The part for the text up to an offset, if there is any. -/
def text? (source : List Char) (s : Cursors) (stop : Nat) : Option (List Part) :=
  if s.start < stop then (slice? source s.start stop).map fun text => [.text (String.ofList text)]
  else some []

/-- A round of the loop: a marker ends the text before it, and any other character is passed. -/
def step (source : List Char) (s : Cursors) : Option Cursors := do
  let (_, rest) ← cutAt? source s.here
  match marker? rest with
  | some p =>
    let text ← s.text? source s.here
    let here := s.here + byteLength p.source.toList
    some ⟨here, here, s.parts ++ text ++ [p]⟩
  | none => some { s with here := s.here + (rest.head?.map Char.utf8Size).getD 1 }

/-- The parts when the loop has been left. -/
def finish (source : List Char) (s : Cursors) : Option (List Part) :=
  (s.text? source (byteLength source)).map (s.parts ++ ·)

/-- A number of rounds, each of them with characters left. -/
inductive Rounds (source : List Char) : Nat → Cursors → Cursors → Prop where
  | none (s : Cursors) : Rounds source 0 s s
  | next {n : Nat} {s t u : Cursors} : s.here < byteLength source → s.step source = some t →
      Rounds source n t u → Rounds source (n + 1) s u

/-- The cursors around a text, behind what stands before it. -/
def around (before text : List Char) (parts : List Part) : Cursors :=
  ⟨byteLength before, byteLength (before ++ text), parts⟩

section Rounds

variable {source before text rest : List Char} (parts : List Part)
  (hsource : source = before ++ text ++ rest)

include hsource

theorem cutAt?_around : cutAt? source (around before text parts).here =
    some (before ++ text, rest) := by
  rw [hsource]
  exact cutAt?_append _ _

/-- The text between the cursors is the text that has been read. -/
theorem text?_around :
    (around before text parts).text? source (byteLength (before ++ text)) =
      some (pending text) := by
  unfold text?
  by_cases hempty : text = []
  · subst hempty
    simp [around, pending]
  · have hbetween : byteLength before < byteLength (before ++ text) := by
      have hpos := byteLength_pos hempty
      rw [byteLength_append]
      omega
    simp only [around, if_pos hbetween, hsource, slice?_append, pending_of_ne_nil hempty]
    rfl

/-- A round that comes upon a marker. -/
theorem step_of_mark {p : Part} (hp : p ∈ markers) {tail : List Char}
    (hrest : rest = p.source.toList ++ tail) :
    (around before text parts).step source =
      some (around (before ++ text ++ p.source.toList) [] (parts ++ (pending text ++ [p]))) := by
  have hhere : byteLength (before ++ text) + byteLength p.source.toList =
      byteLength (before ++ text ++ p.source.toList) := (byteLength_append _ _).symm
  have hmarker : marker? rest = some p := by rw [hrest, marker?_source hp]
  have hcut := cutAt?_around parts hsource
  have htext := text?_around parts hsource
  unfold step
  simp only [around] at hcut htext ⊢
  simp only [hcut, Option.bind_eq_bind, Option.bind_some, hmarker, htext, hhere, List.append_nil,
    List.append_assoc]

/-- A round that passes a character. -/
theorem step_of_skip {c : Char} {tail : List Char} (hrest : rest = c :: tail)
    (hnone : marker? rest = none) :
    (around before text parts).step source = some (around before (text ++ [c]) parts) := by
  have hhere : byteLength (before ++ text) + c.utf8Size = byteLength (before ++ (text ++ [c])) := by
    rw [← List.append_assoc, byteLength_append (before ++ text)]
    rfl
  have hcut := cutAt?_around parts hsource
  unfold step
  simp only [around] at hcut ⊢
  simp only [hcut, Option.bind_eq_bind, Option.bind_some, hnone]
  simp only [hrest, List.head?_cons, Option.map_some, Option.getD_some, hhere]

/-- There is another round as long as there are characters left. -/
theorem here_lt (hrest : rest ≠ []) : (around before text parts).here < byteLength source := by
  have hpos := byteLength_pos hrest
  rw [hsource, byteLength_append]
  exact Nat.lt_add_of_pos_right hpos

end Rounds

end Cursors

/-- From every place on, the loop is left after no more rounds than there are characters left, and
the parts have been found. -/
theorem Scans.exists_rounds {source before text rest : List Char} {found : List Part}
    (h : Scans text rest found) (hsource : source = before ++ text ++ rest) (parts : List Part) :
    ∃ n ≤ rest.length, ∃ last, Cursors.Rounds source n (.around before text parts) last ∧
      ¬ last.here < byteLength source ∧ last.finish source = some (parts ++ found) := by
  -- the cursors stand around the text read since the last marker, so a marker moves that text into
  -- what is before, and any other character only makes it longer
  induction h generalizing before parts with
  | stop text =>
      have hend : source = before ++ text := by rw [hsource, List.append_nil]
      have htext := Cursors.text?_around parts hsource
      refine ⟨0, Nat.zero_le _, _, .none _, ?_, ?_⟩
      · rw [hend]
        exact Nat.lt_irrefl _
      · rw [← hend] at htext
        rw [Cursors.finish, htext]
        rfl
  | @skip text rest c found hnone _ ih =>
      have hgoes : source = before ++ (text ++ [c]) ++ rest := by
        rw [hsource, List.append_cons, List.append_assoc before text]
      obtain ⟨n, hn, last, hrounds, hlast⟩ := ih hgoes parts
      have hleft := Cursors.here_lt parts hsource (List.cons_ne_nil c rest)
      have hstep := Cursors.step_of_skip parts hsource rfl hnone
      exact ⟨n + 1, Nat.succ_le_succ hn, last, .next hleft hstep hrounds, hlast⟩
  | @mark text rest tail p found hp hrest _ ih =>
      have hgoes : source = before ++ text ++ p.source.toList ++ [] ++ tail := by
        rw [hsource, hrest, List.append_nil, List.append_assoc (before ++ text)]
      obtain ⟨n, hn, last, hrounds, hlast, hfinish⟩ := ih hgoes (parts ++ (pending text ++ [p]))
      have hmarker : rest ≠ [] := hrest ▸ source_append_ne_nil hp tail
      have hleft := Cursors.here_lt parts hsource hmarker
      have hstep := Cursors.step_of_mark parts hsource hp hrest
      have hshorter : tail.length < rest.length := hrest ▸ length_lt_source_append hp tail
      refine ⟨n + 1, by omega, last, .next hleft hstep hrounds, hlast, ?_⟩
      rw [hfinish]
      simp

end Template

/-! ## Summary -/

/-- The parts of a template are written one behind the other as its source.  Texts are not empty and
not adjacent, and there is neither a placeholder nor a place for the column in them.  No other row
of parts is written as the source if no marker begins within its texts.  The single values are the
parts for one value, and the template takes a list if there is a part for one.  The loop over the
bytes of the source is left after no more rounds than there are characters, it cuts the source only
between characters, and it finds these parts. -/
theorem parts_are_the_source_cut_up (source : String) :
    let template := Template.parse source
    let characters := source.toList
    String.join (template.parts.map Part.source) = source ∧
    (∀ s, .text s ∈ template.parts → s ≠ "" ∧ '?' ∉ s.toList ∧
      ¬ "\x7bcolumn\x7d".toList <:+: s.toList) ∧
    (∀ s t, ¬ [.text s, .text t] <:+: template.parts) ∧
    (∀ parts, parts = template.parts ↔ Template.sourceOf parts = source ∧ Template.Proper parts) ∧
    template.fixed = template.parts.count .param ∧
    (template.variadic = true ↔ .params ∈ template.parts) ∧
    ∃ n ≤ characters.length, ∃ last, Template.Cursors.Rounds characters n ⟨0, 0, []⟩ last ∧
      ¬ last.here < Config.byteLength characters ∧
      last.finish characters = some template.parts := by
  intro template characters
  obtain ⟨hsource, hproper⟩ := Template.parts_eq_iff.mp (Eq.refl template.parts)
  have hscans := Template.scans_scan [] characters
  have hstart : characters = [] ++ [] ++ characters := rfl
  exact ⟨hsource, fun s => hproper.plain, hproper.not_adjacent, fun parts => Template.parts_eq_iff,
    rfl, List.contains_iff_mem, hscans.exists_rounds hstart []⟩

/-- Markers that are broken off are text, and a brace before a marker is text by itself. -/
theorem parts_of_broken_markers :
    let template := Template.parse "\x7b\x7b?\x7dé?\x7bcolumn\x7d\x7bcol"
    template.parts = [.text "\x7b", .params, .text "é", .param, .column, .text "\x7bcol"] ∧
      .text "\x7bcol" ∈ template.parts ∧ '?' ∉ "\x7bcol".toList ∧
      ¬ "\x7bcolumn\x7d".toList <:+: "\x7bcol".toList := by
  intro template
  obtain ⟨-, hplain, -⟩ :=
    parts_are_the_source_cut_up "\x7b\x7b?\x7dé?\x7bcolumn\x7d\x7bcol"
  have hmem : .text "\x7bcol" ∈ template.parts := by decide
  exact ⟨by decide, hmem, (hplain _ hmem).2⟩

end QueryLoom

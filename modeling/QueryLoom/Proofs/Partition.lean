import Mathlib.Logic.ExistsUnique
import QueryLoom.Fetch
import QueryLoom.Proofs.Rendering

/-!
# The rows of pages

The rows of all pages stand one behind the other, and every row is on exactly one page, up to the
greatest total that 64 bits hold.  Offsets of pages that exist are never cut off; only those of
requests far behind the last page are, and they stay the greatest offset.  The statement for a page
is built whenever the one for all rows is, unless the request itself is refused.

## Main definitions

* `Page.turnedTo`: another page of the same rows.
* `Page.Covers`: a row is on a page.
* `Page.Refused`: what is wrong with a request.
* `Step.ending`: what a step leaves, and whether it failed.

## Main results

* `Page.toNat_offset`, `Page.lt_toNat_pages_iff`: the arithmetic of pages in natural numbers.
* `Page.existsUnique_page`: every row is on one page.
* `Statement.ending_buildPage`: limits and offsets are never to blame for a failure.
* `pages_partition_the_rows`: the summary.
-/

namespace QueryLoom

open Step

/-! ## Arithmetic -/

namespace Page

variable {α : Type}

/-- Another page of the same rows. -/
def turnedTo (page : Page α) (n : UInt64) : Page α := { page with page := n }

/-- The row with a number, counted from zero, is on the page. -/
def Covers (page : Page α) (i : Nat) : Prop :=
  page.offset.toNat ≤ i ∧ i < page.offset.toNat + page.size.toNat

/-- An offset is exact unless it would be beyond 64 bits. -/
theorem toNat_offset (page : Page α) :
    page.offset.toNat = min ((page.page.toNat - 1) * page.size.toNat) greatest := by
  have hgreatest : greatest < UInt64.size := by decide
  exact UInt64.toNat_ofNat_of_lt' (Nat.lt_of_le_of_lt (Nat.min_le_right _ _) hgreatest)

theorem toNat_size_pos {page : Page α} (hsize : page.size ≠ 0) : 0 < page.size.toNat :=
  Nat.pos_of_ne_zero fun hzero => hsize (UInt64.toNat_inj.mp hzero)

/-- Rounding up does not lead beyond 64 bits. -/
theorem toNat_pages {page : Page α} (hsize : page.size ≠ 0) :
    page.pages.toNat = (page.total.toNat + (page.size.toNat - 1)) / page.size.toNat := by
  have hpos := toNat_size_pos hsize
  have htotal := page.total.toNat_lt
  have hfits : (page.total.toNat + (page.size.toNat - 1)) / page.size.toNat < UInt64.size := by
    rw [Nat.div_lt_iff_lt_mul hpos, UInt64.size]
    omega
  rw [pages, if_neg hsize, UInt64.toNat_ofNat_of_lt' hfits]

/-- There are more than `n` pages exactly if `n` pages do not hold all rows. -/
theorem lt_toNat_pages_iff {page : Page α} (hsize : page.size ≠ 0) (n : Nat) :
    n < page.pages.toNat ↔ n * page.size.toNat < page.total.toNat := by
  have hpos := toNat_size_pos hsize
  calc n < page.pages.toNat
      ↔ n < (page.total.toNat + (page.size.toNat - 1)) / page.size.toNat := by
        rw [toNat_pages hsize]
    _ ↔ (n + 1) * page.size.toNat ≤ page.total.toNat + (page.size.toNat - 1) :=
        Nat.le_div_iff_mul_le hpos
    _ ↔ n * page.size.toNat < page.total.toNat := by
        rw [Nat.succ_mul]
        omega

theorem hasNext_iff {page : Page α} (hsize : page.size ≠ 0) :
    page.hasNext = true ↔ page.page.toNat * page.size.toNat < page.total.toNat := by
  rw [hasNext, decide_eq_true_iff, UInt64.lt_iff_toNat_lt, lt_toNat_pages_iff hsize]

/-- The offset of a page that exists is exact, and there are rows behind it. -/
theorem offset_of_le_pages (page : Page α) (hsize : page.size ≠ 0) {n : UInt64} (hfirst : 1 ≤ n)
    (hlast : n ≤ page.pages) :
    (page.turnedTo n).offset.toNat = (n.toNat - 1) * page.size.toNat ∧
      (page.turnedTo n).offset.toNat < page.total.toNat := by
  have hbefore : n.toNat - 1 < page.pages.toNat := by
    have hone : 1 ≤ n.toNat := UInt64.le_iff_toNat_le.mp hfirst
    have hle := UInt64.le_iff_toNat_le.mp hlast
    omega
  have hrows := (lt_toNat_pages_iff hsize _).mp hbefore
  have htotal := page.total.toNat_lt
  have hexact : (n.toNat - 1) * page.size.toNat ≤ greatest := by
    unfold greatest
    omega
  rw [toNat_offset]
  exact ⟨Nat.min_eq_left hexact, Nat.lt_of_le_of_lt (Nat.min_le_left _ _) hrows⟩

/-- Offsets do not decrease from page to page. -/
theorem offset_mono (page : Page α) {m n : UInt64} (h : m ≤ n) :
    (page.turnedTo m).offset ≤ (page.turnedTo n).offset := by
  have hbefore : m.toNat - 1 ≤ n.toNat - 1 := Nat.sub_le_sub_right (UInt64.le_iff_toNat_le.mp h) 1
  rw [UInt64.le_iff_toNat_le, toNat_offset, toNat_offset]
  have hrows := Nat.mul_le_mul_right page.size.toNat hbefore
  simp only [turnedTo]
  omega

/-- The page of a row is told by division. -/
theorem covers_iff (page : Page α) (hsize : page.size ≠ 0) {n : UInt64} (hfirst : 1 ≤ n)
    (hlast : n ≤ page.pages) (i : Nat) :
    (page.turnedTo n).Covers i ↔ n.toNat = i / page.size.toNat + 1 := by
  have hpos := toNat_size_pos hsize
  have hone : 1 ≤ n.toNat := UInt64.le_iff_toNat_le.mp hfirst
  have hwidth : (page.turnedTo n).size = page.size := rfl
  rw [Covers, (page.offset_of_le_pages hsize hfirst hlast).1, hwidth]
  constructor
  · rintro ⟨hfrom, hto⟩
    have hquotient : i / page.size.toNat = n.toNat - 1 :=
      Nat.div_eq_of_lt_le hfrom (by rwa [Nat.succ_mul])
    omega
  · intro hpage
    rw [hpage, Nat.add_sub_cancel]
    exact ⟨Nat.div_mul_le_self _ _, Nat.lt_div_mul_add hpos⟩

/-- Every row is on exactly one of the pages. -/
theorem existsUnique_page (page : Page α) (hsize : page.size ≠ 0) {i : Nat}
    (hi : i < page.total.toNat) :
    ∃! n : UInt64, 1 ≤ n ∧ n ≤ page.pages ∧ (page.turnedTo n).Covers i := by
  have htotal := page.total.toNat_lt
  have hless : i / page.size.toNat ≤ i := Nat.div_le_self _ _
  have hnumber : (UInt64.ofNat (i / page.size.toNat + 1)).toNat = i / page.size.toNat + 1 :=
    UInt64.toNat_ofNat_of_lt' (by rw [UInt64.size]; omega)
  have hfirst : 1 ≤ UInt64.ofNat (i / page.size.toNat + 1) := by
    rw [UInt64.le_iff_toNat_le, hnumber]
    exact Nat.le_add_left 1 _
  have hlast : UInt64.ofNat (i / page.size.toNat + 1) ≤ page.pages := by
    rw [UInt64.le_iff_toNat_le, hnumber, Nat.succ_le_iff, lt_toNat_pages_iff hsize]
    exact Nat.lt_of_le_of_lt (Nat.div_mul_le_self _ _) hi
  refine ⟨_, ⟨hfirst, hlast, (page.covers_iff hsize hfirst hlast i).mpr hnumber⟩, ?_⟩
  rintro n ⟨hone, hle, hcovers⟩
  have hn := (page.covers_iff hsize hone hle i).mp hcovers
  exact UInt64.toNat_inj.mp (hn.trans hnumber.symm)

/-! ## Requests -/

/-- What is wrong with a request: pages are counted from one, and have rows. -/
def Refused (page : Page α) (e : Error) : Prop :=
  page.page = 0 ∧ e = .validation .pageZero ∨
    page.page ≠ 0 ∧ page.size = 0 ∧ e = .validation .sizeZero

theorem validate_eq_error_iff {page : Page α} {e : Error} :
    page.validate = .error e ↔ page.Refused e := by
  unfold validate Refused
  by_cases hpage : page.page = 0
  · simp [hpage, eq_comm]
  · by_cases hsize : page.size = 0 <;> simp [hpage, hsize, eq_comm]

theorem validate_eq_ok_iff {page : Page α} :
    page.validate = .ok () ↔ page.page ≠ 0 ∧ page.size ≠ 0 := by
  unfold validate
  by_cases hpage : page.page = 0
  · simp [hpage]
  · by_cases hsize : page.size = 0 <;> simp [hpage, hsize]

theorem exists_refused_iff {page : Page α} :
    (∃ e, page.Refused e) ↔ page.page = 0 ∨ page.size = 0 := by
  unfold Refused
  by_cases hpage : page.page = 0
  · simp [hpage]
  · simp [hpage]

theorem request_eq (n size : UInt64) :
    (request n size : Except Error (Page α)) =
      ({ page := n, size } : Page α).validate.map fun _ => { page := n, size } := rfl

/-- A request is made unless something is wrong with it. -/
theorem request_eq_error_iff {n size : UInt64} {e : Error} :
    (request n size : Except Error (Page α)) = .error e ↔
      Refused ({ page := n, size } : Page α) e := by
  rw [← validate_eq_error_iff, request_eq]
  cases validate ({ page := n, size } : Page α) with
  | ok _ => simp [Except.map]
  | error fault => simp [Except.map]

theorem request_eq_ok_iff {n size : UInt64} {page : Page α} :
    request n size = .ok page ↔ n ≠ 0 ∧ size ≠ 0 ∧ page = { page := n, size } := by
  have hvalid : validate ({ page := n, size } : Page α) = .ok () ↔ n ≠ 0 ∧ size ≠ 0 :=
    validate_eq_ok_iff
  rw [← and_assoc, ← hvalid, request_eq]
  cases validate ({ page := n, size } : Page α) with
  | ok _ => simp [Except.map, eq_comm]
  | error fault => simp [Except.map]

end Page

/-! ## Failures -/

namespace Step

variable {σ α β : Type}

/-- What a step leaves, with the error if it failed, and without what it yields. -/
def ending : EStateM.Result Error σ α → Option Error × σ
  | .ok _ s => (none, s)
  | .error e s => (some e, s)

theorem eq_error_iff {result : EStateM.Result Error σ α} {e : Error} {s : σ} :
    result = .error e s ↔ ending result = (some e, s) := by
  cases result with
  | ok a t => simp [ending]
  | error e t => simp [ending]

/-- Steps that end alike can take each other's place. -/
theorem ending_bind {m : EStateM Error σ α} {f g : α → EStateM Error σ β}
    (h : ∀ a s, ending (f a s) = ending (g a s)) (s : σ) :
    ending ((m >>= f) s) = ending ((m >>= g) s) := by
  cases hm : m s with
  | ok a t =>
      rw [bind_of_ok hm, bind_of_ok hm]
      exact h a t
  | error e t => rw [bind_of_error hm, bind_of_error hm]

/-- What is yielded may be converted. -/
theorem ending_map (m : EStateM Error σ α) (f : α → β) (s : σ) :
    ending ((m >>= fun a => pure (f a)) s) = ending (m s) := by
  cases hm : m s with
  | ok a t =>
      rw [bind_of_ok hm]
      rfl
  | error e t =>
      rw [bind_of_error hm]
      rfl

end Step

/-- A limit or an offset is written, or left out, and nothing else happens. -/
theorem Segment.render_of_isPaging {segment : Segment} (h : segment.isPaging = true)
    (s : Session) : ∃ text, segment.render s = .ok text s := by
  have hunless : ∀ text : String, ∃ written, unlessUnpaged (pure text) s = .ok written s := by
    intro text
    show ∃ written, (if s.mode = .full then pure (some text) else pure none : Render _) s =
      .ok written s
    by_cases hmode : s.mode = .full
    · exact ⟨some text, by rw [if_pos hmode]; rfl⟩
    · exact ⟨none, by rw [if_neg hmode]; rfl⟩
  cases segment with
  | limit n => exact hunless _
  | offset n => exact hunless _
  | _ => cases h

/-- Segments end as they do without their limits and offsets. -/
theorem Segment.ending_renderAll (segments : List Segment) (before before' : String)
    (s : Session) :
    ending (renderAll before segments s) =
      ending (renderAll before' (segments.filter fun g => !g.isPaging) s) := by
  -- a limit or an offset only changes the text before, on which no ending depends
  induction segments generalizing before before' s with
  | nil => rfl
  | cons segment rest ih =>
      cases hpaging : segment.isPaging with
      | true =>
          obtain ⟨text, hrender⟩ := render_of_isPaging hpaging s
          rw [List.filter_cons_of_neg (by simp [hpaging]), renderAll, bind_of_ok hrender]
          exact ih _ _ s
      | false =>
          rw [List.filter_cons_of_pos (by simp [hpaging]), renderAll, renderAll]
          exact ending_bind (fun _ t => ih _ _ t) s

namespace Statement

/-- A statement fails to be built as it fails to render, and its session is closed either way. -/
theorem ending_buildIn (statement : Statement) (mode : Mode) (catalog : Catalog) :
    ending (statement.buildIn mode catalog) =
      (ending (statement.render (Session.start mode catalog))).map id Session.close := by
  unfold buildIn
  cases statement.render (Session.start mode catalog) with
  | ok sql session => rfl
  | error e session => rfl

/-- The statement for a page fails exactly as the one for all rows does. -/
theorem ending_buildPage (statement : Statement) (size offset : Nat) (catalog : Catalog) :
    ending (statement.buildPage size offset catalog) = ending (statement.build catalog) := by
  have hsegments : ∀ s, ending (Segment.renderAll "" (statement.paged size offset).segments s) =
      ending (Segment.renderAll "" statement.segments s) := by
    intro s
    rw [Segment.ending_renderAll _ "" "", Segment.ending_renderAll statement.segments "" ""]
    simp [paged, Segment.isPaging]
  unfold buildPage build
  rw [ending_buildIn, ending_buildIn]
  congr 1
  unfold render
  cases hfault : statement.fault with
  | some fault => simp [paged, hfault]
  | none =>
      simp only [paged, hfault]
      exact ending_bind (fun _ t => ending_bind (fun _ u => hsegments u) t) _

end Statement

namespace Fetch

variable {α : Type}

/-- A page is built unless the request is refused or the statement for all rows fails. -/
theorem buildPage_eq_error_iff (fetch : Fetch α) (page : Page α) (catalog : Catalog) {e : Error}
    {catalog' : Catalog} :
    fetch.buildPage page catalog = .error e catalog' ↔
      page.Refused e ∧ catalog' = catalog ∨
        page.page ≠ 0 ∧ page.size ≠ 0 ∧ fetch.build catalog = .error e catalog' := by
  unfold buildPage
  cases hvalidate : page.validate with
  | error fault =>
      show EStateM.Result.error fault catalog = .error e catalog' ↔ _
      constructor
      · intro h
        cases h
        exact .inl ⟨Page.validate_eq_error_iff.mp hvalidate, rfl⟩
      · rintro (⟨hrefused, rfl⟩ | ⟨hpage, hsize, -⟩)
        · rw [Page.validate_eq_error_iff.mpr hrefused] at hvalidate
          cases hvalidate
          rfl
        · rw [Page.validate_eq_ok_iff.mpr ⟨hpage, hsize⟩] at hvalidate
          cases hvalidate
  | ok _ =>
      obtain ⟨hpage, hsize⟩ := Page.validate_eq_ok_iff.mp hvalidate
      have haccepted : ¬ page.Refused e := by
        intro hrefused
        rw [Page.validate_eq_error_iff.mpr hrefused] at hvalidate
        cases hvalidate
      have hrows : fetch.build catalog = .error e catalog' ↔
          ending (fetch.statement.build catalog) = (some e, catalog') := by
        rw [eq_error_iff, build, ending_map]
      simp only [eq_error_iff, ending_map, Statement.ending_buildPage] at hrows ⊢
      simp [haccepted, hpage, hsize, hrows]

end Fetch

/-! ## Summary -/

/-- Let pages of some size share out some number of rows, both of 64 bits.  Unless the size is zero,
every row is on exactly one of the pages, and there is a next page exactly if there are rows behind
the page.  The offset of any page is the number of rows before it, or the greatest number of 64 bits
if that is less; so it never becomes less for a later page.  A request is refused exactly if its
page or its size is zero.  The statement for a page fails exactly if the request is refused, which
leaves the catalog alone, or if the statement for all rows fails likewise. -/
theorem pages_partition_the_rows {α : Type} (page : Page α) :
    (page.size ≠ 0 →
      (∀ i < page.total.toNat,
        ∃! n : UInt64, 1 ≤ n ∧ n ≤ page.pages ∧ (page.turnedTo n).Covers i) ∧
      ∀ n : UInt64, (page.turnedTo n).hasNext = true ↔
        n.toNat * page.size.toNat < page.total.toNat) ∧
    (∀ n : UInt64, (page.turnedTo n).offset.toNat =
      min ((n.toNat - 1) * page.size.toNat) (UInt64.size - 1)) ∧
    (∀ m n : UInt64, m ≤ n → (page.turnedTo m).offset ≤ (page.turnedTo n).offset) ∧
    (∀ request : Page α, (∃ e, request.Refused e) ↔ request.page = 0 ∨ request.size = 0) ∧
    (∀ (n size : UInt64) e, (Page.request n size : Except Error (Page α)) = .error e ↔
      Page.Refused ({ page := n, size } : Page α) e) ∧
    (∀ (n size : UInt64) (request : Page α), Page.request n size = .ok request ↔
      n ≠ 0 ∧ size ≠ 0 ∧ request = { page := n, size }) ∧
    (∀ (fetch : Fetch α) catalog e catalog', fetch.buildPage page catalog = .error e catalog' ↔
      page.Refused e ∧ catalog' = catalog ∨
        page.page ≠ 0 ∧ page.size ≠ 0 ∧ fetch.build catalog = .error e catalog') := by
  refine ⟨fun hsize => ⟨fun i hi => page.existsUnique_page hsize hi, fun n => ?_⟩, fun n => ?_,
    fun m n => page.offset_mono, fun request => Page.exists_refused_iff,
    fun n size e => Page.request_eq_error_iff, fun n size request => Page.request_eq_ok_iff,
    fun fetch catalog e catalog' => fetch.buildPage_eq_error_iff page catalog⟩
  · have hwidth : (page.turnedTo n).size ≠ 0 := hsize
    exact Page.hasNext_iff hwidth
  · exact (page.turnedTo n).toNat_offset

/-- The last row of the greatest total is on exactly one page of ten, and there is no next page
behind it; the page before it has one. -/
theorem last_row_of_greatest_total :
    let page : Page Int64 := { size := 10, total := 0xFFFFFFFFFFFFFFFF }
    (∃! n : UInt64, 1 ≤ n ∧ n ≤ page.pages ∧ (page.turnedTo n).Covers (UInt64.size - 2)) ∧
    (page.turnedTo 1844674407370955162).hasNext = false ∧
    (page.turnedTo 1844674407370955161).hasNext = true := by
  intro page
  obtain ⟨hshared, -⟩ := pages_partition_the_rows page
  obtain ⟨hrow, hnext⟩ := hshared (by decide)
  refine ⟨hrow _ (by decide), ?_, (hnext _).mpr (by decide)⟩
  exact Bool.eq_false_iff.mpr fun h => absurd ((hnext _).mp h) (by decide)

/-- A request far behind the last page is for the greatest offset. -/
example : ({ page := 0x8000000000000000, size := 3 } : Page Int64).offset = 0xFFFFFFFFFFFFFFFF := by
  decide

end QueryLoom

import Mathlib.Order.Bounds.Basic
import QueryLoom.Bytes
import QueryLoom.Config
import QueryLoom.Proofs.Parsing

/-!
# Texts cut to a length

A text that is too long for the log is cut to a length in bytes, and then back to a boundary between
characters.  The boundary is found in the bytes of the text: from the limit a loop goes back for as
long as the byte there continues a character.  Every character has one byte that begins it and up to
three that continue it.  So the bytes tell where the boundaries are, the loop goes back by three
bytes at most, and it drops less than a character.

## Main definitions

* `Config.Boundary`: the offsets between characters, told from the characters.
* `Bytes.isBoundary`: the same told from the bytes.
* `Bytes.Back`: the loop that goes back to a boundary.

## Main results

* `Config.exists_boundary`: one of four offsets in a row is a boundary.
* `Bytes.isBoundary_encode`: bytes and characters tell the same boundaries.
* `Config.isGreatest_floorBoundary`: the last boundary within a limit.
* `Bytes.back_floorBoundary`: where the loop leads.
* `logged_text_is_the_longest_prefix`: the summary.
-/

namespace QueryLoom

open Config (byteLength takeBytes floorBoundary)
open Template (byteLength_append byteLength_pos cutAt? cutAt?_append)

/-! ## Boundaries -/

namespace Config

/-- An offset lies between two characters, or at one of the ends, if it is the length of some of the
first characters. -/
def Boundary (cs : List Char) (n : Nat) : Prop := ∃ front, front <+: cs ∧ n = byteLength front

theorem boundary_zero (cs : List Char) : Boundary cs 0 := ⟨[], List.nil_prefix, rfl⟩

theorem boundary_byteLength (cs : List Char) : Boundary cs (byteLength cs) :=
  ⟨cs, List.prefix_rfl, rfl⟩

theorem Boundary.le {cs : List Char} {n : Nat} (h : Boundary cs n) : n ≤ byteLength cs := by
  obtain ⟨front, ⟨back, rfl⟩, rfl⟩ := h
  rw [byteLength_append]
  exact Nat.le_add_right _ _

/-- A boundary is in front of the first character, or is one of the others behind it. -/
theorem boundary_cons_iff {c : Char} {cs : List Char} {n : Nat} :
    Boundary (c :: cs) n ↔ n = 0 ∨ ∃ m, n = c.utf8Size + m ∧ Boundary cs m := by
  constructor
  · rintro ⟨front, hinit, rfl⟩
    cases front with
    | nil => exact .inl rfl
    | cons d front =>
        obtain ⟨rfl, hrest⟩ := List.cons_prefix_cons.mp hinit
        exact .inr ⟨_, rfl, front, hrest, rfl⟩
  · rintro (rfl | ⟨m, rfl, front, hinit, rfl⟩)
    · exact boundary_zero _
    · exact ⟨c :: front, List.cons_prefix_cons.mpr ⟨rfl, hinit⟩, rfl⟩

theorem isBoundary_iff {cs : List Char} {n : Nat} : isBoundary cs n = true ↔ Boundary cs n := by
  fun_induction isBoundary cs n with
  | case1 cs => exact iff_of_true rfl (boundary_zero cs)
  | case2 n =>
      refine iff_of_false Bool.false_ne_true fun h => ?_
      exact absurd h.le (Nat.not_succ_le_zero n)
  | case3 c cs n hn ih =>
      rw [Bool.and_eq_true, decide_eq_true_iff, ih, boundary_cons_iff, or_iff_right hn]
      constructor
      · exact fun ⟨hle, hboundary⟩ => ⟨_, (Nat.add_sub_cancel' hle).symm, hboundary⟩
      · rintro ⟨m, rfl, hboundary⟩
        exact ⟨Nat.le_add_right _ _, by rwa [Nat.add_sub_cancel_left]⟩

/-- A character is no longer than four bytes, so one of four offsets in a row is a boundary. -/
theorem exists_boundary {cs : List Char} {n : Nat} (h : n ≤ byteLength cs) :
    ∃ m, Boundary cs m ∧ m ≤ n ∧ n ≤ m + 3 := by
  induction cs generalizing n with
  | nil => exact ⟨0, boundary_zero [], Nat.zero_le n, Nat.le_add_right_of_le h⟩
  | cons c cs ih =>
      by_cases hbehind : c.utf8Size ≤ n
      · obtain ⟨k, rfl⟩ := Nat.exists_eq_add_of_le hbehind
        have hk : k ≤ byteLength cs := Nat.le_of_add_le_add_left h
        obtain ⟨m, hboundary, hle, hge⟩ := ih hk
        exact ⟨c.utf8Size + m, boundary_cons_iff.mpr (.inr ⟨m, rfl, hboundary⟩), by omega, by omega⟩
      · have hfour := c.utf8Size_le_four
        exact ⟨0, boundary_zero _, Nat.zero_le n, by omega⟩

end Config

open Config (Boundary)

/-! ## Bytes of characters -/

namespace Bytes

/-- Whether a byte continues a character. -/
def continues (b : UInt8) : Bool := 128 ≤ b.toNat && b.toNat < 192

/-- Whether an offset is a boundary: the beginning, the end, and any offset at which there is a byte
that does not continue a character. -/
def isBoundary (bytes : Bytes) (n : Nat) : Bool :=
  n == 0 || match bytes[n]? with
    | some b => !continues b
    | none => n == bytes.length

/-- A number of steps back to a boundary; there is no step back from zero. -/
inductive Back (bytes : Bytes) : Nat → Nat → Nat → Prop where
  | stop {n : Nat} : bytes.isBoundary n = true → Back bytes 0 n n
  | back {steps n last : Nat} : bytes.isBoundary (n + 1) = false → Back bytes steps n last →
      Back bytes (steps + 1) (n + 1) last

/-- The bytes of characters. -/
def encode (cs : List Char) : Bytes := cs.flatMap String.utf8EncodeChar

theorem ofText_eq_encode (text : String) : ofText text = encode text.toList := by
  have hbytes : text.toByteArray = text.toList.utf8Encode := by
    rw [← String.toByteArray_ofList, String.ofList_toList]
  show text.toByteArray.data.toList = _
  rw [hbytes]
  exact List.toList_data_toByteArray

theorem encode_append (front back : List Char) :
    encode (front ++ back) = encode front ++ encode back := List.flatMap_append

theorem length_encode (cs : List Char) : (encode cs).length = byteLength cs := by
  induction cs with
  | nil => rfl
  | cons c cs ih =>
      rw [byteLength, ← ih]
      simp [encode]

theorem length_ofText (text : String) : (ofText text).length = byteLength text.toList := by
  rw [ofText_eq_encode, length_encode]

/-- A character has one byte that begins it, and others that continue it. -/
theorem utf8EncodeChar_eq (c : Char) : ∃ first others, String.utf8EncodeChar c = first :: others ∧
    continues first = false ∧ ∀ b ∈ others, continues b = true := by
  -- in each of the four forms the bytes behind the first one are numbers from 128 to 191
  fun_cases String.utf8EncodeChar c
  all_goals
    refine ⟨_, _, rfl, ?_, ?_⟩
    · simp [continues]
      omega
    · simp [continues] <;> omega

/-- So the bytes of characters are those of the first one, in front of the others. -/
theorem encode_cons (c : Char) (cs : List Char) : ∃ first others,
    encode (c :: cs) = first :: (others ++ encode cs) ∧ c.utf8Size = others.length + 1 ∧
      continues first = false ∧ ∀ b ∈ others, continues b = true := by
  obtain ⟨first, others, hbytes, hfirst, hothers⟩ := utf8EncodeChar_eq c
  refine ⟨first, others, ?_, ?_, hfirst, hothers⟩
  · rw [encode, List.flatMap_cons, hbytes, encode, List.cons_append]
  · rw [← String.length_utf8EncodeChar, hbytes, List.length_cons]

/-! ## The test on bytes -/

theorem isBoundary_iff {bytes : Bytes} {n : Nat} : bytes.isBoundary n = true ↔
    n = 0 ∨ n = bytes.length ∨ ∃ b, bytes[n]? = some b ∧ continues b = false := by
  unfold isBoundary
  cases hbyte : bytes[n]? with
  | none => simp
  | some b =>
      have hwithin : n ≠ bytes.length := Nat.ne_of_lt (List.getElem?_eq_some_iff.mp hbyte).1
      simp [hwithin]

/-- There is no boundary within a character. -/
theorem isBoundary_within {c : Char} {n : Nat} (hpos : 0 < n) (hlt : n < c.utf8Size)
    (cs : List Char) : (encode (c :: cs)).isBoundary n = false := by
  obtain ⟨first, others, hencode, hsize, -, hothers⟩ := encode_cons c cs
  obtain ⟨k, rfl⟩ := Nat.exists_eq_add_of_le' hpos
  have hk : k < others.length := by omega
  have hbyte : (encode (c :: cs))[k + 1]? = some others[k] := by
    rw [hencode, List.getElem?_cons_succ, List.getElem?_append_left hk,
      List.getElem?_eq_getElem hk]
  have hcontinues := hothers _ (List.getElem_mem hk)
  have hlength : k + 1 ≠ (encode (c :: cs)).length := by
    rw [hencode, List.length_cons, List.length_append]
    omega
  rw [Bool.eq_false_iff, Ne, isBoundary_iff, hbyte]
  rintro (hzero | hend | ⟨b, ⟨⟩, hbegins⟩)
  · exact Nat.succ_ne_zero k hzero
  · exact hlength hend
  · rw [hcontinues] at hbegins
    cases hbegins

/-- Behind a character the boundaries are those of the others. -/
theorem isBoundary_behind (c : Char) (cs : List Char) (n : Nat) :
    (encode (c :: cs)).isBoundary (c.utf8Size + n) = (encode cs).isBoundary n := by
  have hlength : (encode (c :: cs)).length = c.utf8Size + (encode cs).length := by
    rw [length_encode, length_encode]
    rfl
  have hbyte : (encode (c :: cs))[c.utf8Size + n]? = (encode cs)[n]? := by
    obtain ⟨first, others, hencode, hsize, -⟩ := encode_cons c cs
    rw [hencode, hsize, Nat.add_right_comm, List.getElem?_cons_succ,
      List.getElem?_append_right (Nat.le_add_right _ _), Nat.add_sub_cancel_left]
  rw [Bool.eq_iff_iff, isBoundary_iff, isBoundary_iff, hlength, hbyte, Nat.add_right_inj]
  constructor
  · rintro (hzero | hend | hbegins)
    · exact .inl (Nat.eq_zero_of_add_eq_zero_left hzero)
    · exact .inr (.inl hend)
    · exact .inr (.inr hbegins)
  · rintro (rfl | hend | hbegins)
    · -- the first of the others begins here, unless there are none
      cases cs with
      | nil => exact .inr (.inl rfl)
      | cons d cs =>
          obtain ⟨first, others, hencode, -, hfirst, -⟩ := encode_cons d cs
          exact .inr (.inr ⟨first, by rw [hencode]; rfl, hfirst⟩)
    · exact .inr (.inl hend)
    · exact .inr (.inr hbegins)

/-- The boundaries that the bytes tell are those of the characters. -/
theorem isBoundary_encode {cs : List Char} {n : Nat} :
    (encode cs).isBoundary n = true ↔ Boundary cs n := by
  induction cs generalizing n with
  | nil =>
      rw [isBoundary_iff]
      constructor
      · rintro (rfl | rfl | ⟨b, hb, -⟩)
        · exact Config.boundary_zero []
        · exact Config.boundary_zero []
        · cases hb
      · exact fun h => .inl (Nat.le_zero.mp h.le)
  | cons c cs ih =>
      rw [Config.boundary_cons_iff]
      constructor
      · intro h
        by_cases hn : c.utf8Size ≤ n
        · obtain ⟨m, rfl⟩ := Nat.exists_eq_add_of_le hn
          rw [isBoundary_behind, ih] at h
          exact .inr ⟨m, rfl, h⟩
        · rcases Nat.eq_zero_or_pos n with rfl | hpos
          · exact .inl rfl
          · rw [isBoundary_within hpos (Nat.lt_of_not_le hn)] at h
            cases h
      · rintro (rfl | ⟨m, rfl, hboundary⟩)
        · rfl
        · rw [isBoundary_behind, ih]
          exact hboundary

end Bytes

/-! ## The cut -/

namespace Config

/-- Going back from a limit leads to the last boundary within it. -/
theorem isGreatest_floorBoundary (cs : List Char) (limit : Nat) :
    IsGreatest {n | Boundary cs n ∧ n ≤ limit} (floorBoundary cs limit) := by
  induction limit with
  | zero => exact ⟨⟨boundary_zero cs, Nat.le_refl 0⟩, fun n hn => hn.2⟩
  | succ limit ih =>
      unfold floorBoundary
      by_cases hboundary : isBoundary cs (limit + 1) = true
      · rw [if_pos hboundary]
        exact ⟨⟨isBoundary_iff.mp hboundary, Nat.le_refl _⟩, fun n hn => hn.2⟩
      · rw [if_neg hboundary]
        obtain ⟨⟨hfloor, hle⟩, hgreatest⟩ := ih
        refine ⟨⟨hfloor, Nat.le_succ_of_le hle⟩, fun n hn => ?_⟩
        have hne : n ≠ limit + 1 := by
          rintro rfl
          exact hboundary (isBoundary_iff.mpr hn.1)
        exact hgreatest ⟨hn.1, Nat.le_of_lt_succ (Nat.lt_of_le_of_ne hn.2 hne)⟩

theorem takeBytes_append (front back : List Char) :
    takeBytes (front ++ back) (byteLength front) = front := by
  induction front with
  | nil =>
      cases back with
      | nil => rfl
      | cons c back => exact if_neg (Nat.not_le_of_lt c.utf8Size_pos)
  | cons c front ih =>
      have hrest : byteLength (c :: front) - c.utf8Size = byteLength front :=
        Nat.add_sub_cancel_left ..
      have hfits : c.utf8Size ≤ byteLength (c :: front) := Nat.le_add_right ..
      rw [List.cons_append, takeBytes, if_pos hfits, hrest, ih]

/-- A text that is too long is cut at the last boundary within the limit. -/
theorem cutTo_of_lt {text : String} {limit : Nat} (h : limit < byteLength text.toList) :
    ∃ back, text.toList = (cutTo (some limit) text).toList ++ back ∧
      byteLength (cutTo (some limit) text).toList = floorBoundary text.toList limit := by
  obtain ⟨⟨⟨front, ⟨back, hsplit⟩, hfront⟩, -⟩, -⟩ := isGreatest_floorBoundary text.toList limit
  have hcut : cutTo (some limit) text = String.ofList front := by
    refine (if_pos h).trans ?_
    rw [hfront, ← hsplit, takeBytes_append]
  rw [hcut, String.toList_ofList]
  exact ⟨back, hsplit.symm, hfront.symm⟩

/-- Any other text stays as it is. -/
theorem cutTo_of_le {text : String} {limit : Option Nat}
    (h : ∀ max ∈ limit, byteLength text.toList ≤ max) : cutTo limit text = text := by
  cases limit with
  | none => rfl
  | some limit => exact if_neg (Nat.not_lt_of_le (h limit rfl))

/-- In either case a beginning of the text is left, up to the last boundary that is allowed. -/
theorem isGreatest_cutTo (limit : Option Nat) (text : String) :
    (cutTo limit text).toList <+: text.toList ∧
      IsGreatest {n | Boundary text.toList n ∧ ∀ max ∈ limit, n ≤ max}
        (byteLength (cutTo limit text).toList) := by
  by_cases hfits : ∀ max ∈ limit, byteLength text.toList ≤ max
  · rw [cutTo_of_le hfits]
    exact ⟨List.prefix_rfl, ⟨boundary_byteLength _, hfits⟩, fun n hn => hn.1.le⟩
  · obtain ⟨max, rfl, hlong⟩ : ∃ max, limit = some max ∧ max < byteLength text.toList := by
      simpa using hfits
    obtain ⟨back, hsplit, hlength⟩ := cutTo_of_lt hlong
    have hgreatest := isGreatest_floorBoundary text.toList max
    rw [hlength]
    simp only [Option.mem_some_iff, forall_eq']
    exact ⟨⟨back, hsplit.symm⟩, hgreatest⟩

/-- Of two beginnings of a text the shorter one is a beginning of the longer one. -/
theorem prefix_of_byteLength_le {cs front other : List Char} (hfront : front <+: cs)
    (hother : other <+: cs) (h : byteLength front ≤ byteLength other) : front <+: other := by
  rcases List.prefix_or_prefix_of_prefix hfront hother with hinit | ⟨rest, rfl⟩
  · exact hinit
  · have hrest : rest = [] := by
      by_contra hne
      have hpos := byteLength_pos hne
      rw [byteLength_append] at h
      omega
    simp [hrest]

end Config

namespace Bytes

/-- From every limit the loop goes back to the last boundary within it. -/
theorem back_floorBoundary (cs : List Char) (limit : Nat) :
    (encode cs).Back (limit - floorBoundary cs limit) limit (floorBoundary cs limit) := by
  induction limit with
  | zero => exact .stop (isBoundary_encode.mpr (Config.boundary_zero cs))
  | succ limit ih =>
      unfold floorBoundary
      by_cases hboundary : Config.isBoundary cs (limit + 1) = true
      · rw [if_pos hboundary, Nat.sub_self]
        exact .stop (isBoundary_encode.mpr (Config.isBoundary_iff.mp hboundary))
      · have hinside : (encode cs).isBoundary (limit + 1) = false := by
          rw [Bool.eq_false_iff, Ne, isBoundary_encode, ← Config.isBoundary_iff]
          exact hboundary
        have hle : floorBoundary cs limit ≤ limit := (Config.isGreatest_floorBoundary cs limit).1.2
        rw [if_neg hboundary, Nat.succ_sub hle]
        exact .back hinside ih

/-- There is only one way back. -/
theorem Back.unique {bytes : Bytes} {steps others n last end' : Nat} (h : bytes.Back steps n last)
    (hother : bytes.Back others n end') : others = steps ∧ end' = last := by
  induction h generalizing others with
  | stop hboundary =>
      cases hother with
      | stop => exact ⟨rfl, rfl⟩
      | back hinside => cases hboundary.symm.trans hinside
  | back hinside _ ih =>
      cases hother with
      | stop hboundary => cases hboundary.symm.trans hinside
      | back _ hrest =>
          obtain ⟨rfl, rfl⟩ := ih hrest
          exact ⟨rfl, rfl⟩

end Bytes

/-! ## Summary -/

/-- What is logged of a text is a beginning of it, and any other beginning that the limit allows is
a beginning of what is logged.  In bytes it goes up to the last boundary that the limit allows.  It
is the whole text if that fits or there is no limit.  Otherwise the loop that goes back from the
limit leads to this boundary, in one way only, after three steps at most and without a step from
zero; and there the text falls apart into what is logged and the characters behind it. -/
theorem logged_text_is_the_longest_prefix (limit : Option Nat) (text : String) :
    let cut := Config.cutTo limit text
    let bytes := Bytes.ofText text
    let length := (Bytes.ofText cut).length
    (cut.toList <+: text.toList ∧ ∀ front, front <+: text.toList →
      (∀ max ∈ limit, byteLength front ≤ max) → front <+: cut.toList) ∧
    Bytes.ofText cut = bytes.take length ∧
    IsGreatest {n | bytes.isBoundary n = true ∧ ∀ max ∈ limit, n ≤ max} length ∧
    ((∀ max ∈ limit, bytes.length ≤ max) → cut = text) ∧
    ∀ max ∈ limit, max < bytes.length →
      (∃ rest, cutAt? text.toList length = some (cut.toList, rest)) ∧
      ∃ steps ≤ 3, bytes.Back steps max length ∧
        ∀ others last, bytes.Back others max last → others = steps ∧ last = length := by
  intro cut bytes length
  obtain ⟨hinit, hgreatest⟩ := Config.isGreatest_cutTo limit text
  have hlength : length = byteLength cut.toList := Bytes.length_ofText cut
  have hbytes : bytes = Bytes.encode text.toList := Bytes.ofText_eq_encode text
  refine ⟨⟨hinit, fun front hfront hwithin => ?_⟩, ?_, ?_, fun hfits => ?_, ?_⟩
  · exact Config.prefix_of_byteLength_le hfront hinit
      (hgreatest.2 ⟨⟨front, hfront, rfl⟩, hwithin⟩)
  · obtain ⟨rest, hrest⟩ := hinit
    rw [hlength, hbytes, ← hrest, Bytes.encode_append, ← Bytes.length_encode, List.take_left,
      Bytes.ofText_eq_encode]
  · rw [hlength, hbytes]
    simpa only [Bytes.isBoundary_encode] using hgreatest
  · apply Config.cutTo_of_le
    rwa [hbytes, Bytes.length_encode] at hfits
  · rintro max hmax hlong
    cases hmax
    rw [hbytes, Bytes.length_encode] at hlong
    obtain ⟨back, hsplit, hfloor⟩ := Config.cutTo_of_lt hlong
    have hback := Bytes.back_floorBoundary text.toList max
    obtain ⟨m, hboundary, hle, hnear⟩ := Config.exists_boundary hlong.le
    have hfar := (Config.isGreatest_floorBoundary text.toList max).2 ⟨hboundary, hle⟩
    rw [← hfloor, ← hlength] at hback hfar
    rw [hbytes]
    refine ⟨⟨back, ?_⟩, _, ?_, hback, fun others last => hback.unique⟩
    · rw [hlength, hsplit, cutAt?_append]
    · omega

/-- A limit within a character of four bytes: the loop goes back by three of them, and the character
is dropped as a whole.  A limit at its end keeps it. -/
theorem cut_in_front_of_four_bytes :
    let text := "aé€😀"
    let bytes := Bytes.ofText text
    let cut := Config.cutTo (some 9) text
    (9 < bytes.length ∧ cut = "aé€" ∧ bytes.Back 3 9 6 ∧
      ∃ rest, cutAt? text.toList 6 = some (cut.toList, rest)) ∧
    ("aé".toList <+: text.toList ∧ byteLength "aé".toList ≤ 9 ∧ "aé".toList <+: cut.toList) ∧
    bytes.length ≤ 10 ∧ Config.cutTo (some 10) text = text := by
  intro text bytes cut
  obtain ⟨⟨-, hlongest⟩, -, -, -, hloop⟩ := logged_text_is_the_longest_prefix (some 9) text
  obtain ⟨-, -, -, hwhole, -⟩ := logged_text_is_the_longest_prefix (some 10) text
  have hlong : 9 < bytes.length := by decide
  have hfits : bytes.length ≤ 10 := by decide
  have hinit : "aé".toList <+: text.toList := by decide
  have hshort : byteLength "aé".toList ≤ 9 := by decide
  have hlength : (Bytes.ofText cut).length = 6 := by decide
  obtain ⟨hrest, steps, -, hback, hunique⟩ := hloop 9 rfl hlong
  have hthree : bytes.Back 3 9 6 :=
    .back (by decide) (.back (by decide) (.back (by decide) (.stop (by decide))))
  obtain ⟨rfl, -⟩ := hunique 3 6 hthree
  rw [hlength] at hrest hback
  refine ⟨⟨hlong, by decide, hback, hrest⟩, ⟨hinit, hshort, hlongest _ hinit ?_⟩, hfits,
    hwhole ?_⟩
  · rintro _ ⟨⟩
    exact hshort
  · rintro _ ⟨⟩
    exact hfits

end QueryLoom

import Mathlib.Data.List.DropRight
import Mathlib.Data.List.Dedup
import QueryLoom.Proofs.Names

/-!
# The queue of a cache

A cache keeps its entries and their order of use apart: the entries are in a store, and a queue
lists their keys.  Every operation keeps the two in step, so the queue alone tells what is in the
cache, and cutting a cache down to its bound is taking the end of its queue.

## Main definitions

* `Lru.Sound`: the queue lists the keys of the entries and is within the bound.
* `Lru.renew`: a queue after a use of a key.
* `Lru.cut`: a cache without all but the last keys of its queue.
* `Lru.Recent`: a key was used, and few others since.

## Main results

* `Lru.evict_eq`: eviction cuts a cache down to its bound.
* `Lru.Sound.touch`, `Lru.Sound.insertIfAbsent_eq`, `Lru.Sound.setCapacity_eq`: what every
  operation does to a sound cache, which stays sound.
* `Lru.mem_rtake_dedup_iff`: the last distinct keys are the recent ones.
-/

namespace QueryLoom

namespace Lru

variable {κ ν : Type}

/-! ## The end of a queue -/

/-- A queue that is not too long is its own end. -/
theorem rtake_of_length_le {order : List κ} {n : Nat} (h : order.length ≤ n) :
    order.rtake n = order := by
  rw [List.rtake, Nat.sub_eq_zero_of_le h, List.drop_zero]

/-- The end of a queue does not depend on what stands far enough in front. -/
theorem rtake_append_of_le {front back : List κ} {n : Nat} (h : n ≤ back.length) :
    (front ++ back).rtake n = back.rtake n := by
  have hcount : (front ++ back).length - n = front.length + (back.length - n) := by
    rw [List.length_append]
    omega
  rw [List.rtake, hcount, List.drop_length_add_append, List.rtake]

theorem rtake_suffix (order : List κ) (n : Nat) : order.rtake n <:+ order :=
  List.drop_suffix _ _

theorem length_rtake_le (order : List κ) (n : Nat) : (order.rtake n).length ≤ n := by
  rw [List.rtake, List.length_drop]
  omega

variable [DecidableEq κ]

/-- The end of a queue without repetitions consists of the keys that are in it. -/
theorem filter_mem_rtake {order : List κ} (h : order.Nodup) (n : Nat) :
    order.filter (· ∈ order.rtake n) = order.rtake n := by
  obtain ⟨front, hsplit⟩ := rtake_suffix order n
  have hfirst : front.filter (· ∈ order.rtake n) = [] := by
    rw [← hsplit] at h
    refine List.filter_eq_nil_iff.mpr fun a ha hlast => ?_
    exact (List.nodup_append.mp h).2.2 a ha a (of_decide_eq_true hlast) rfl
  have hlast : (order.rtake n).filter (· ∈ order.rtake n) = order.rtake n :=
    List.filter_eq_self.mpr fun a ha => decide_eq_true ha
  calc order.filter (· ∈ order.rtake n)
      = (front ++ order.rtake n).filter (· ∈ order.rtake n) := by rw [hsplit]
    _ = order.rtake n := by rw [List.filter_append, hfirst, hlast, List.nil_append]

/-- A queue after a use of a key, which becomes the most recent one. -/
def renew (order : List κ) (key : κ) : List κ := order.erase key ++ [key]

theorem renew_of_notMem {order : List κ} {key : κ} (h : key ∉ order) :
    renew order key = order ++ [key] := by
  rw [renew, List.erase_of_not_mem h]

theorem perm_renew {order : List κ} {key : κ} (h : key ∈ order) : (renew order key).Perm order :=
  (List.perm_append_singleton key _).trans (List.perm_cons_erase h).symm

theorem nodup_renew {order : List κ} (h : order.Nodup) (key : κ) : (renew order key).Nodup := by
  have hcons : (key :: order.erase key).Nodup := List.nodup_cons.mpr ⟨h.not_mem_erase, h.erase key⟩
  exact (List.perm_append_singleton key _).nodup_iff.mpr hcons

/-- Whether a key is erased from a queue or from an end that is longer by one, the end is the
same. -/
private theorem rtake_erase {order : List κ} (h : order.Nodup) (key : κ) (n : Nat) :
    ((order.rtake (n + 1)).erase key).rtake n = (order.erase key).rtake n := by
  by_cases hshort : order.length ≤ n + 1
  · rw [rtake_of_length_le hshort]
  · obtain ⟨front, hsplit⟩ := rtake_suffix order (n + 1)
    have hlength : (order.rtake (n + 1)).length = n + 1 := by
      rw [List.rtake, List.length_drop]
      omega
    by_cases hkey : key ∈ front
    · have hother : key ∉ order.rtake (n + 1) := by
        rw [← hsplit] at h
        exact fun hlast => (List.nodup_append.mp h).2.2 key hkey key hlast rfl
      have hwhole : order.erase key = front.erase key ++ order.rtake (n + 1) := by
        conv_lhs => rw [← hsplit]
        exact List.erase_append_left _ hkey
      rw [hwhole, rtake_append_of_le (by omega), List.erase_of_not_mem hother]
    · have hwhole : order.erase key = front ++ (order.rtake (n + 1)).erase key := by
        conv_lhs => rw [← hsplit]
        exact List.erase_append_right _ hkey
      have hlong : n ≤ ((order.rtake (n + 1)).erase key).length := by
        have := List.le_length_erase (a := key) (l := order.rtake (n + 1))
        omega
      rw [hwhole, rtake_append_of_le hlong]

/-- What is not in the end of a queue before a use is not in it after the use either. -/
theorem rtake_renew {order : List κ} (h : order.Nodup) (key : κ) (n : Nat) :
    (renew (order.rtake n) key).rtake n = (renew order key).rtake n := by
  cases n with
  | zero => rw [List.rtake_zero, List.rtake_zero]
  | succ n =>
      unfold renew
      rw [List.rtake_concat_succ, List.rtake_concat_succ, rtake_erase h]

/-! ## Caches that are in order -/

/-- The queue lists the key of every entry once and nothing else, and is within the bound. -/
structure Sound (cache : Lru κ ν) : Prop where
  nodup : cache.order.Nodup
  keys : (cache.store.map Prod.fst).Perm cache.order
  bounded : cache.order.length ≤ cache.capacity

omit [DecidableEq κ] in
theorem sound_empty (capacity : Nat) : (empty capacity : Lru κ ν).Sound :=
  ⟨List.nodup_nil, .refl _, Nat.zero_le _⟩

/-- A key has an entry if and only if it is in the queue. -/
theorem Sound.peek?_eq_none_iff {cache : Lru κ ν} (h : cache.Sound) {key : κ} :
    cache.peek? key = none ↔ key ∉ cache.order := by
  rw [← h.keys.mem_iff, peek?, List.lookup_eq_none_iff]
  constructor
  · intro hall hmem
    obtain ⟨e, he, rfl⟩ := List.mem_map.mp hmem
    simpa using hall e he
  · intro hnot e he
    have hne : key ≠ e.1 := fun heq => hnot (heq ▸ List.mem_map_of_mem he)
    simpa using hne

theorem Sound.mem_order {cache : Lru κ ν} (h : cache.Sound) {key : κ} {value : ν}
    (hvalue : cache.peek? key = some value) : key ∈ cache.order := by
  by_contra hnot
  rw [h.peek?_eq_none_iff.mpr hnot] at hvalue
  cases hvalue

/-- Every entry is the one that its key has. -/
theorem Sound.peek?_of_mem {cache : Lru κ ν} (h : cache.Sound) {e : κ × ν}
    (he : e ∈ cache.store) : cache.peek? e.1 = some e.2 := by
  have hnodup : (cache.store.map Prod.fst).Nodup := h.keys.nodup_iff.mpr h.nodup
  obtain ⟨front, back, hstore⟩ := List.append_of_mem he
  refine List.lookup_eq_some_iff.mpr ⟨front, back, hstore, fun p hp => ?_⟩
  rw [hstore, List.map_append, List.map_cons] at hnodup
  have hne := (List.nodup_append.mp hnodup).2.2 p.1 (List.mem_map_of_mem hp) e.1 List.mem_cons_self
  simpa using hne.symm

/-- A cache without all but the last keys of its queue. -/
def cut (cache : Lru κ ν) (n : Nat) : Lru κ ν :=
  { cache with
    store := cache.store.filter (·.1 ∈ cache.order.rtake n)
    order := cache.order.rtake n }

/-- Trimming cuts, if the queue lists the keys of the store. -/
theorem trim_eq {store : List (κ × ν)} {order : List κ} (hnodup : order.Nodup)
    (hkeys : (store.map Prod.fst).Perm order) (capacity : Nat) :
    trim capacity store order =
      (store.filter (·.1 ∈ order.rtake capacity), order.rtake capacity) := by
  induction order generalizing store with
  | nil =>
      have hstore : store = [] := List.map_eq_nil_iff.mp hkeys.eq_nil
      rw [hstore, List.rtake_nil]
      rfl
  | cons oldest rest ih =>
      obtain ⟨holdest, hrest⟩ := List.nodup_cons.mp hnodup
      have hlength : store.length = rest.length + 1 := by
        simpa using hkeys.length_eq
      unfold trim
      by_cases hfull : capacity < store.length
      · have hothers : ((store.filter fun e => e.1 ≠ oldest).map Prod.fst).Perm rest := by
          have hfiltered := hkeys.filter (· ≠ oldest)
          rw [List.filter_map, List.filter_cons_of_neg (by simp)] at hfiltered
          have hall : rest.filter (· ≠ oldest) = rest :=
            List.filter_eq_self.mpr fun a ha => decide_eq_true fun h => holdest (h ▸ ha)
          rwa [hall] at hfiltered
        have hend : ([oldest] ++ rest).rtake capacity = rest.rtake capacity :=
          rtake_append_of_le (by omega)
        rw [List.singleton_append] at hend
        rw [if_pos hfull, ih hrest hothers, hend, List.filter_filter]
        congr 1
        refine List.filter_congr fun e _ => ?_
        have hne : e.1 ∈ rest.rtake capacity → e.1 ≠ oldest := fun he heq =>
          holdest (heq ▸ (rtake_suffix rest capacity).mem he)
        grind
      · have hall : (oldest :: rest).rtake capacity = oldest :: rest :=
          rtake_of_length_le (by rw [List.length_cons]; omega)
        rw [if_neg hfull, hall, List.filter_eq_self.mpr]
        exact fun e he => decide_eq_true (hkeys.mem_iff.mp (List.mem_map_of_mem he))

/-- Eviction cuts a cache down to its bound. -/
theorem evict_eq {cache : Lru κ ν} (hnodup : cache.order.Nodup)
    (hkeys : (cache.store.map Prod.fst).Perm cache.order) :
    cache.evict = cache.cut cache.capacity := by
  unfold evict cut
  by_cases hzero : cache.capacity = 0
  · simp [hzero, empty]
  · rw [if_neg hzero, trim_eq hnodup hkeys]

/-- What is left of a cache within its bound is in order. -/
theorem sound_cut {cache : Lru κ ν} (hnodup : cache.order.Nodup)
    (hkeys : (cache.store.map Prod.fst).Perm cache.order) :
    (cache.cut cache.capacity).Sound := by
  refine ⟨(rtake_suffix _ _).sublist.nodup hnodup, ?_, length_rtake_le _ _⟩
  have hfiltered := hkeys.filter (· ∈ cache.order.rtake cache.capacity)
  rw [List.filter_map, filter_mem_rtake hnodup] at hfiltered
  exact hfiltered

/-- Entries dropped by their keys are the ones that are not found any more. -/
theorem lookup_filter (kept : κ → Bool) (key : κ) (store : List (κ × ν)) :
    (store.filter fun e => kept e.1).lookup key = if kept key then store.lookup key else none := by
  induction store with
  | nil => simp
  | cons e rest ih =>
      obtain ⟨first, value⟩ := e
      rw [List.filter_cons]
      by_cases hkey : key = first
      · subst hkey
        cases hkept : kept key <;> simp [hkept, ih]
      · have hne : (key == first) = false := beq_eq_false_iff_ne.mpr hkey
        cases hkept : kept first <;> simp [List.lookup_cons, hne, ih]

/-- The keys that are left have the entries that they had. -/
theorem peek?_cut (cache : Lru κ ν) (n : Nat) (key : κ) :
    (cache.cut n).peek? key = if key ∈ cache.order.rtake n then cache.peek? key else none := by
  have hlookup := lookup_filter (fun k => decide (k ∈ cache.order.rtake n)) key cache.store
  simpa [cut, peek?] using hlookup

/-! ## The operations -/

/-- A use of a key that is in the queue. -/
theorem touch_of_mem {cache : Lru κ ν} {key : κ} (h : key ∈ cache.order) :
    cache.touch key = { cache with order := renew cache.order key } := by
  unfold touch renew
  rw [if_pos h]

theorem Sound.touch {cache : Lru κ ν} (h : cache.Sound) (key : κ) : (cache.touch key).Sound := by
  by_cases hkey : key ∈ cache.order
  · have hperm := perm_renew hkey
    rw [touch_of_mem hkey]
    exact ⟨nodup_renew h.nodup key, h.keys.trans hperm.symm, hperm.length_eq ▸ h.bounded⟩
  · unfold Lru.touch
    rwa [if_neg hkey]

/-- A cache with one more entry, before it is cut down to its bound. -/
def extend (cache : Lru κ ν) (key : κ) (value : ν) : Lru κ ν :=
  { cache with store := cache.store ++ [(key, value)], order := renew cache.order key }

/-- Adding an entry under a new key, and cutting the cache down to its bound. -/
theorem Sound.insertIfAbsent_eq {cache : Lru κ ν} (h : cache.Sound) {key : κ}
    (habsent : cache.peek? key = none) (value : ν) :
    cache.insertIfAbsent key value = (value, (cache.extend key value).cut cache.capacity) ∧
      ((cache.extend key value).cut cache.capacity).Sound := by
  have hkey := h.peek?_eq_none_iff.mp habsent
  have hnodup : (cache.extend key value).order.Nodup := nodup_renew h.nodup key
  have hkeys :
      ((cache.extend key value).store.map Prod.fst).Perm (cache.extend key value).order := by
    show ((cache.store ++ [(key, value)]).map Prod.fst).Perm (renew cache.order key)
    rw [renew_of_notMem hkey, List.map_append]
    exact h.keys.append_right [key]
  constructor
  · unfold insertIfAbsent
    simp only [habsent]
    rw [← renew_of_notMem hkey]
    exact congrArg (Prod.mk value) (evict_eq hnodup hkeys)
  · exact sound_cut hnodup hkeys

/-- Changing the bound, and cutting the cache down to it. -/
theorem Sound.setCapacity_eq {cache : Lru κ ν} (h : cache.Sound) (capacity : Nat) :
    cache.setCapacity capacity = { cache with capacity }.cut capacity ∧
      (cache.setCapacity capacity).Sound := by
  have hcut : cache.setCapacity capacity = { cache with capacity }.cut capacity :=
    evict_eq h.nodup h.keys
  have hsound : ({ cache with capacity }.cut capacity).Sound := sound_cut h.nodup h.keys
  rw [hcut]
  exact ⟨rfl, hsound⟩

/-! ## Recent uses -/

/-- The key was used, and fewer than `n` distinct keys have been used since its last use. -/
def Recent (n : Nat) (uses : List κ) (key : κ) : Prop :=
  ∃ before after, uses = before ++ key :: after ∧ key ∉ after ∧ after.dedup.length < n

/-- One more use renews the queue of all keys used. -/
theorem dedup_concat (uses : List κ) (key : κ) :
    (uses ++ [key]).dedup = renew uses.dedup key := by
  induction uses with
  | nil => rfl
  | cons first uses ih =>
      rw [List.cons_append]
      by_cases hagain : first ∈ uses
      · rw [List.dedup_cons_of_mem (List.mem_append_left _ hagain), ih,
          List.dedup_cons_of_mem hagain]
      · by_cases hkey : first = key
        · subst hkey
          have hnot : first ∉ uses.dedup := fun h => hagain (List.mem_dedup.mp h)
          rw [List.dedup_cons_of_mem (List.mem_append_right _ List.mem_cons_self), ih,
            List.dedup_cons_of_notMem hagain, renew, renew, List.erase_cons_head,
            List.erase_of_not_mem hnot]
        · have hnot : first ∉ uses ++ [key] := by
            rw [List.mem_append, List.mem_singleton]
            exact fun h => h.elim hagain hkey
          have hne : ¬ (first == key) = true := by simpa using hkey
          rw [List.dedup_cons_of_notMem hnot, List.dedup_cons_of_notMem hagain, ih, renew, renew,
            List.erase_cons_tail hne, List.cons_append]

omit [DecidableEq κ] in
/-- A key that was used has a last use. -/
theorem exists_last_use {uses : List κ} {key : κ} (h : key ∈ uses) :
    ∃ before after, uses = before ++ key :: after ∧ key ∉ after := by
  obtain ⟨after, before, hsplit, hafter⟩ :=
    List.eq_append_cons_of_mem (List.mem_reverse.mpr h)
  refine ⟨before.reverse, after.reverse, ?_, mt List.mem_reverse.mp hafter⟩
  rw [← List.reverse_reverse uses, hsplit, List.reverse_append, List.reverse_cons,
    List.append_assoc, List.singleton_append]

/-- A key is among the last `n` distinct ones if its last use is followed by fewer than `n`. -/
theorem mem_rtake_dedup_of_last {before after : List κ} {key : κ} (hafter : key ∉ after) (n : Nat) :
    key ∈ (before ++ key :: after).dedup.rtake n ↔ after.dedup.length < n := by
  -- behind its last use a key is followed by the distinct keys used since
  obtain ⟨front, hfront⟩ := List.suffix_union_right before (key :: after).dedup
  rw [List.dedup_append, ← hfront, List.dedup_cons_of_notMem hafter]
  by_cases hfew : after.dedup.length < n
  · have hcount : (front ++ key :: after.dedup).length - n ≤ front.length := by
      rw [List.length_append, List.length_cons]
      omega
    have hmem : key ∈ (front ++ key :: after.dedup).rtake n := by
      rw [List.rtake, List.drop_append_of_le_length hcount]
      exact List.mem_append_right _ List.mem_cons_self
    exact iff_of_true hmem hfew
  · have hend : (front ++ key :: after.dedup).rtake n = after.dedup.rtake n := by
      rw [List.append_cons, rtake_append_of_le (by omega)]
    rw [hend]
    exact iff_of_false (fun h => hafter (List.mem_dedup.mp ((rtake_suffix _ _).mem h))) hfew

/-- The last `n` distinct keys are the recent ones. -/
theorem mem_rtake_dedup_iff {n : Nat} {uses : List κ} {key : κ} :
    key ∈ uses.dedup.rtake n ↔ Recent n uses key := by
  constructor
  · intro hmem
    have hused : key ∈ uses := List.mem_dedup.mp ((rtake_suffix _ _).mem hmem)
    obtain ⟨before, after, rfl, hafter⟩ := exists_last_use hused
    exact ⟨before, after, rfl, hafter, (mem_rtake_dedup_of_last hafter n).mp hmem⟩
  · rintro ⟨before, after, rfl, hafter, hfew⟩
    exact (mem_rtake_dedup_of_last hafter n).mpr hfew

instance (n : Nat) (uses : List κ) (key : κ) : Decidable (Recent n uses key) :=
  decidable_of_iff _ mem_rtake_dedup_iff

end Lru

end QueryLoom

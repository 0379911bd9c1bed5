import QueryLoom.Proofs.Queue

/-!
# Caches as lists of uses

A cache answers as a plain list of entries would that is kept in the order of the last use.  A hit
moves an entry to the end of the list, a new entry is put there, and what is too much is dropped
from the front.  Whatever operations are performed on a new cache, in whatever order, its queue and
its store stay in step with each other and with that list.

## Main definitions

* `Lru.Operation`, `Lru.Answer`: what is asked of a cache, and what it answers.
* `Lru.runAll`: operations one after the other.
* `UseList`: bounded lists of entries, from the least to the most recently used.
* `Lru.Lists`: the entries of a cache, in the order of its queue.

## Main results

* `Lru.Agrees.perform`: one operation on a cache and on its list.
* `Lru.Agrees.runAll`: any number of operations.
* `cache_answers_as_its_use_list`: the summary.
-/

namespace QueryLoom

/-! ## Operations -/

namespace Lru

variable {κ ν : Type}

/-- What is asked of a cache. -/
inductive Operation (κ ν : Type) where
  | get (key : κ)
  | insertIfAbsent (key : κ) (value : ν)
  | setCapacity (capacity : Nat)
  deriving DecidableEq, Repr

/-- What it answers. -/
inductive Answer (ν : Type) where
  | found (value : Option ν)
  | stored (value : ν)
  | done
  deriving DecidableEq, Repr

/-- The answers to operations that follow each other, and what they leave. -/
def runAll {σ : Type} (perform : σ → Operation κ ν → Answer ν × σ) :
    σ → List (Operation κ ν) → List (Answer ν) × σ
  | s, [] => ([], s)
  | s, operation :: rest =>
    let (answer, s) := perform s operation
    let (answers, s) := runAll perform s rest
    (answer :: answers, s)

/-- An operation on a cache. -/
def perform [DecidableEq κ] (cache : Lru κ ν) : Operation κ ν → Answer ν × Lru κ ν
  | .get key => (cache.get key).map .found id
  | .insertIfAbsent key value => (cache.insertIfAbsent key value).map .stored id
  | .setCapacity capacity => (.done, cache.setCapacity capacity)

end Lru

/-! ## Lists of uses -/

/-- A bounded list of entries, from the least to the most recently used. -/
structure UseList (κ ν : Type) where
  capacity : Nat
  entries : List (κ × ν)
  deriving DecidableEq, Repr

namespace UseList

variable {κ ν : Type}

/-- A list without entries. -/
def empty (capacity : Nat) : UseList κ ν := ⟨capacity, []⟩

/-- Entries are dropped from the front until there are no more than the bound allows. -/
def dropOldest (list : UseList κ ν) : UseList κ ν :=
  { list with entries := list.entries.rtake list.capacity }

variable [DecidableEq κ]

/-- A use of an entry, which moves it to the end. -/
def use (list : UseList κ ν) (key : κ) (value : ν) : UseList κ ν :=
  { list with entries := list.entries.filter (·.1 ≠ key) ++ [(key, value)] }

/-- Look a key up, which is a use if it has an entry. -/
def get (list : UseList κ ν) (key : κ) : Option ν × UseList κ ν :=
  match list.entries.lookup key with
  | some value => (some value, list.use key value)
  | none => (none, list)

/-- Use the entry of a key, or put a new one at the end. -/
def insertIfAbsent (list : UseList κ ν) (key : κ) (value : ν) : ν × UseList κ ν :=
  match list.entries.lookup key with
  | some present => (present, list.use key present)
  | none => (value, dropOldest { list with entries := list.entries ++ [(key, value)] })

/-- Change the bound. -/
def setCapacity (list : UseList κ ν) (capacity : Nat) : UseList κ ν :=
  dropOldest { list with capacity }

/-- An operation on a list of uses. -/
def perform (list : UseList κ ν) : Lru.Operation κ ν → Lru.Answer ν × UseList κ ν
  | .get key => (list.get key).map .found id
  | .insertIfAbsent key value => (list.insertIfAbsent key value).map .stored id
  | .setCapacity capacity => (.done, list.setCapacity capacity)

end UseList

/-! ## Entries in the order of a queue -/

namespace Lru

variable {κ ν : Type} [DecidableEq κ]

/-- The entries are those of the cache, in the order of its queue. -/
structure Lists (cache : Lru κ ν) (entries : List (κ × ν)) : Prop where
  order : cache.order = entries.map Prod.fst
  found : ∀ key, cache.peek? key = entries.lookup key

omit [DecidableEq κ] in
theorem map_rtake (f : κ → ν) (order : List κ) (n : Nat) :
    (order.rtake n).map f = (order.map f).rtake n := by
  rw [List.rtake, List.rtake, List.map_drop, List.length_map]

/-- Under different keys, the last entries are those with the last keys. -/
theorem filter_rtake {entries : List (κ × ν)} (h : (entries.map Prod.fst).Nodup) (n : Nat) :
    entries.filter (·.1 ∈ (entries.map Prod.fst).rtake n) = entries.rtake n := by
  -- the entries in front are dropped because their keys do not come again
  obtain ⟨front, hsplit⟩ := rtake_suffix entries n
  have hkeys : (front.map Prod.fst ++ (entries.rtake n).map Prod.fst).Nodup := by
    rwa [← List.map_append, hsplit]
  have hfirst : front.filter (·.1 ∈ (entries.rtake n).map Prod.fst) = [] := by
    refine List.filter_eq_nil_iff.mpr fun e he hlast => ?_
    exact (List.nodup_append.mp hkeys).2.2 e.1 (List.mem_map_of_mem he) e.1
      (of_decide_eq_true hlast) rfl
  have hlast : (entries.rtake n).filter (·.1 ∈ (entries.rtake n).map Prod.fst) =
      entries.rtake n :=
    List.filter_eq_self.mpr fun e he => decide_eq_true (List.mem_map_of_mem he)
  rw [← map_rtake]
  calc entries.filter (·.1 ∈ (entries.rtake n).map Prod.fst)
      = (front ++ entries.rtake n).filter (·.1 ∈ (entries.rtake n).map Prod.fst) := by rw [hsplit]
    _ = entries.rtake n := by rw [List.filter_append, hfirst, hlast, List.nil_append]

/-- The last entries of a list are found under their keys. -/
theorem lookup_rtake {entries : List (κ × ν)} (h : (entries.map Prod.fst).Nodup) (n : Nat)
    (key : κ) : (entries.rtake n).lookup key =
      if key ∈ (entries.map Prod.fst).rtake n then entries.lookup key else none := by
  rw [← filter_rtake h]
  have hlookup :=
    lookup_filter (fun k => decide (k ∈ (entries.map Prod.fst).rtake n)) key entries
  simpa using hlookup

namespace Lists

variable {cache : Lru κ ν} {entries : List (κ × ν)}

/-- A cache that is cut keeps the end of its list. -/
theorem cut (h : cache.Lists entries) (hnodup : cache.order.Nodup) (n : Nat) :
    (cache.cut n).Lists (entries.rtake n) := by
  rw [h.order] at hnodup
  constructor
  · rw [map_rtake, ← h.order]
    rfl
  · intro key
    rw [peek?_cut, lookup_rtake hnodup, h.order, h.found]

/-- A new entry is the last one. -/
theorem extend (h : cache.Lists entries) {key : κ} (hkey : key ∉ cache.order) (value : ν) :
    (cache.extend key value).Lists (entries ++ [(key, value)]) := by
  constructor
  · rw [List.map_append, ← h.order]
    exact renew_of_notMem hkey
  · intro other
    have hfound : cache.store.lookup other = entries.lookup other := h.found other
    show (cache.store ++ [(key, value)]).lookup other = _
    rw [List.lookup_append, List.lookup_append, hfound]

/-- A use moves an entry to the end. -/
theorem touch (h : cache.Lists entries) (hnodup : cache.order.Nodup) {key : κ} {value : ν}
    (hkey : key ∈ cache.order) (hvalue : cache.peek? key = some value) :
    (cache.touch key).Lists (entries.filter (·.1 ≠ key) ++ [(key, value)]) := by
  constructor
  · have hothers : cache.order.erase key = (entries.filter (·.1 ≠ key)).map Prod.fst := by
      rw [hnodup.erase_eq_filter, h.order, List.filter_map]
      congr 1
      refine List.filter_congr fun e _ => ?_
      rw [Function.comp_apply, bne, decide_not, beq_eq_decide]
    rw [touch_of_mem hkey, List.map_append, ← hothers]
    rfl
  · intro other
    have hsame : (cache.touch key).peek? other = entries.lookup other := by
      rw [peek?, store_touch, ← peek?, h.found]
    rw [hsame, List.lookup_append, lookup_filter (fun k => decide (k ≠ key)) other entries]
    by_cases hother : other = key
    · subst hother
      simp [← h.found, hvalue]
    · have hne : (other == key) = false := beq_eq_false_iff_ne.mpr hother
      simp [hother, hne, List.lookup_cons]

end Lists

/-! ## Operations on a cache and on its list -/

/-- The cache is in order, and the list has its entries and its bound. -/
structure Agrees (cache : Lru κ ν) (list : UseList κ ν) : Prop where
  sound : cache.Sound
  capacity : cache.capacity = list.capacity
  lists : cache.Lists list.entries

namespace Agrees

variable {cache : Lru κ ν} {list : UseList κ ν}

theorem empty (capacity : Nat) : (empty capacity : Lru κ ν).Agrees (.empty capacity) :=
  ⟨sound_empty capacity, rfl, rfl, fun _ => rfl⟩

/-- A hit. -/
theorem use (h : cache.Agrees list) {key : κ} {value : ν} (hvalue : cache.peek? key = some value) :
    (cache.touch key).Agrees (list.use key value) := by
  have hkey := h.sound.mem_order hvalue
  refine ⟨h.sound.touch key, ?_, h.lists.touch h.sound.nodup hkey hvalue⟩
  rw [touch_of_mem hkey]
  exact h.capacity

/-- A look-up. -/
theorem get (h : cache.Agrees list) (key : κ) :
    (cache.get key).1 = (list.get key).1 ∧ (cache.get key).2.Agrees (list.get key).2 := by
  have hfound := h.lists.found key
  unfold Lru.get UseList.get
  rw [← hfound]
  cases hvalue : cache.peek? key with
  | some value => exact ⟨rfl, h.use hvalue⟩
  | none => exact ⟨rfl, h⟩

/-- An insertion. -/
theorem insertIfAbsent (h : cache.Agrees list) (key : κ) (value : ν) :
    (cache.insertIfAbsent key value).1 = (list.insertIfAbsent key value).1 ∧
      (cache.insertIfAbsent key value).2.Agrees (list.insertIfAbsent key value).2 := by
  have hfound := h.lists.found key
  cases hvalue : cache.peek? key with
  | some present =>
      unfold Lru.insertIfAbsent UseList.insertIfAbsent
      rw [← hfound, hvalue]
      exact ⟨rfl, h.use hvalue⟩
  | none =>
      obtain ⟨hcut, hsound⟩ := h.sound.insertIfAbsent_eq hvalue value
      have hkey := h.sound.peek?_eq_none_iff.mp hvalue
      have hlists := (h.lists.extend hkey value).cut (nodup_renew h.sound.nodup key) cache.capacity
      unfold UseList.insertIfAbsent
      rw [hcut, ← hfound, hvalue]
      refine ⟨rfl, hsound, h.capacity, ?_⟩
      show Lists _ ((list.entries ++ [(key, value)]).rtake list.capacity)
      rwa [← h.capacity]

/-- A change of the bound. -/
theorem setCapacity (h : cache.Agrees list) (capacity : Nat) :
    (cache.setCapacity capacity).Agrees (list.setCapacity capacity) := by
  obtain ⟨hcut, hsound⟩ := h.sound.setCapacity_eq capacity
  refine ⟨hsound, ?_, ?_⟩
  · rw [hcut]
    rfl
  · rw [hcut]
    have hlists : ({ cache with capacity } : Lru κ ν).Lists list.entries :=
      ⟨h.lists.order, h.lists.found⟩
    exact hlists.cut h.sound.nodup capacity

/-- An operation has the same answer, and leaves a cache and a list that agree. -/
theorem perform (h : cache.Agrees list) (operation : Operation κ ν) :
    (cache.perform operation).1 = (list.perform operation).1 ∧
      (cache.perform operation).2.Agrees (list.perform operation).2 := by
  cases operation with
  | get key =>
      obtain ⟨hanswer, hleft⟩ := h.get key
      exact ⟨congrArg Answer.found hanswer, hleft⟩
  | insertIfAbsent key value =>
      obtain ⟨hanswer, hleft⟩ := h.insertIfAbsent key value
      exact ⟨congrArg Answer.stored hanswer, hleft⟩
  | setCapacity capacity => exact ⟨rfl, h.setCapacity capacity⟩

/-- So do any number of operations. -/
theorem runAll (h : cache.Agrees list) (operations : List (Operation κ ν)) :
    (runAll Lru.perform cache operations).1 = (runAll UseList.perform list operations).1 ∧
      (runAll Lru.perform cache operations).2.Agrees
        (runAll UseList.perform list operations).2 := by
  induction operations generalizing cache list with
  | nil => exact ⟨rfl, h⟩
  | cons operation rest ih =>
      obtain ⟨hanswer, hleft⟩ := h.perform operation
      obtain ⟨hanswers, hend⟩ := ih hleft
      exact ⟨congrArg₂ List.cons hanswer hanswers, hend⟩

end Agrees

/-- What was just inserted is kept if the bound allows a single entry. -/
theorem Sound.peek?_insertIfAbsent {cache : Lru κ ν} (h : cache.Sound) (hroom : 1 ≤ cache.capacity)
    (key : κ) (value : ν) :
    (cache.insertIfAbsent key value).2.peek? key = some (cache.insertIfAbsent key value).1 := by
  cases hvalue : cache.peek? key with
  | some present =>
      have hsame : (cache.touch key).peek? key = some present := by
        rw [peek?, store_touch, ← peek?, hvalue]
      unfold insertIfAbsent
      rw [hvalue]
      exact hsame
  | none =>
      obtain ⟨n, hcapacity⟩ := Nat.exists_eq_add_of_le' hroom
      have hlast : key ∈ (cache.extend key value).order.rtake cache.capacity := by
        show key ∈ (cache.order.erase key ++ [key]).rtake cache.capacity
        rw [hcapacity, List.rtake_concat_succ]
        exact List.mem_append_right _ List.mem_cons_self
      have hnew : (cache.extend key value).peek? key = some value := by
        have hnone : cache.store.lookup key = none := hvalue
        show (cache.store ++ [(key, value)]).lookup key = some value
        simp [List.lookup_append, hnone]
      rw [(h.insertIfAbsent_eq hvalue value).1, peek?_cut, if_pos hlast, hnew]

omit [DecidableEq κ] in
/-- A cache that is in order is within its bound. -/
theorem Sound.size_le {cache : Lru κ ν} (h : cache.Sound) : cache.size ≤ cache.capacity := by
  have hsize : cache.size = cache.order.length := by
    rw [size, ← h.keys.length_eq, List.length_map]
  rw [hsize]
  exact h.bounded

end Lru

/-! ## Summary -/

/-- Let operations be performed on a new cache of any capacity.  They are answered as a list of uses
answers them, and what they leave agrees with that list: the bound, the order and the entries.  The
queue lists the key of every entry once and nothing else, and there are no more entries than the
bound allows.  If that allows one, an insertion keeps the entry of its key. -/
theorem cache_answers_as_its_use_list {κ ν : Type} [DecidableEq κ] (capacity : Nat)
    (operations : List (Lru.Operation κ ν)) :
    let ran := Lru.runAll Lru.perform (Lru.empty capacity) operations
    let told := Lru.runAll UseList.perform (UseList.empty capacity) operations
    ran.1 = told.1 ∧
    ran.2.capacity = told.2.capacity ∧
    ran.2.order = told.2.entries.map Prod.fst ∧
    (∀ key, ran.2.peek? key = told.2.entries.lookup key) ∧
    ran.2.order.Nodup ∧
    (ran.2.store.map Prod.fst).Perm ran.2.order ∧
    ran.2.size ≤ ran.2.capacity ∧
    (1 ≤ ran.2.capacity → ∀ key value,
      (ran.2.insertIfAbsent key value).2.peek? key =
        some (ran.2.insertIfAbsent key value).1) := by
  intro ran told
  obtain ⟨hanswers, hleft⟩ := (Lru.Agrees.empty (κ := κ) (ν := ν) capacity).runAll operations
  exact ⟨hanswers, hleft.capacity, hleft.lists.order, hleft.lists.found, hleft.sound.nodup,
    hleft.sound.keys, hleft.sound.size_le, hleft.sound.peek?_insertIfAbsent⟩

/-- Operations that shrink a cache to nothing and let it grow again. -/
def Lru.regrown : List (Lru.Operation Nat Char) :=
  [.insertIfAbsent 1 'a', .insertIfAbsent 2 'b', .setCapacity 0, .insertIfAbsent 3 'c', .get 3,
   .setCapacity 2, .insertIfAbsent 1 'd', .insertIfAbsent 2 'e', .insertIfAbsent 1 'f',
   .insertIfAbsent 3 'g', .get 2]

/-- Behind them there is room for one entry more, which is kept. -/
theorem regrown_keeps_what_is_inserted :
    let ran := Lru.runAll Lru.perform (Lru.empty 1) Lru.regrown
    ran.1 = [.stored 'a', .stored 'b', .done, .stored 'c', .found none, .done, .stored 'd',
      .stored 'e', .stored 'd', .stored 'g', .found none] ∧
    1 ≤ ran.2.capacity ∧ (ran.2.insertIfAbsent 2 'h').2.peek? 2 = some 'h' := by
  intro ran
  obtain ⟨hanswers, -, -, -, -, -, -, hkept⟩ := cache_answers_as_its_use_list 1 Lru.regrown
  have hroom : 1 ≤ ran.2.capacity := by decide
  exact ⟨hanswers.trans (by decide), hroom, hkept hroom 2 'h'⟩

end QueryLoom

/-!
# Bounded cache

A cache holds a bounded number of entries and drops the least recently used one first.  The entries
are kept in a store, and a queue lists their keys from the least to the most recently used.

## Main definitions

* `Lru`: caches.
* `Lru.get`: look a key up, which counts as a use.
* `Lru.insertIfAbsent`: add an entry unless the key is present.
* `Lru.setCapacity`: change the bound, dropping entries at once.
-/

namespace QueryLoom

/-- A bounded cache. -/
structure Lru (κ ν : Type) where
  capacity : Nat
  store : List (κ × ν)
  order : List κ

namespace Lru

variable {κ ν : Type} [DecidableEq κ]

/-- A cache without entries. -/
def empty (capacity : Nat) : Lru κ ν := ⟨capacity, [], []⟩

/-- The entry of a key, without using it. -/
def peek? (cache : Lru κ ν) (key : κ) : Option ν :=
  cache.store.lookup key

/-- The number of entries. -/
def size (cache : Lru κ ν) : Nat := cache.store.length

/-- Move a key to the most recent end of the queue. -/
def touch (cache : Lru κ ν) (key : κ) : Lru κ ν :=
  if key ∈ cache.order then { cache with order := cache.order.erase key ++ [key] } else cache

/-- Drop the least recently used entries until the store is within the bound. -/
def trim (capacity : Nat) : List (κ × ν) → List κ → List (κ × ν) × List κ
  | store, [] => (store, [])
  | store, oldest :: rest =>
    if capacity < store.length then trim capacity (store.filter fun e => e.1 ≠ oldest) rest
    else (store, oldest :: rest)

/-- A cache within its bound; a bound of zero leaves nothing. -/
def evict (cache : Lru κ ν) : Lru κ ν :=
  if cache.capacity = 0 then empty 0
  else
    let (store, order) := trim cache.capacity cache.store cache.order
    { cache with store, order }

/-- Look a key up.  A hit becomes the most recently used entry. -/
def get (cache : Lru κ ν) (key : κ) : Option ν × Lru κ ν :=
  match cache.peek? key with
  | some value => (some value, cache.touch key)
  | none => (none, cache)

/-- Add an entry unless the key is present: the entry that counts from now on, which is returned
even if the bound is too small to keep it. -/
def insertIfAbsent (cache : Lru κ ν) (key : κ) (value : ν) : ν × Lru κ ν :=
  match cache.peek? key with
  | some present => (present, cache.touch key)
  | none =>
    (value, evict { cache with
      store := cache.store ++ [(key, value)]
      order := cache.order ++ [key] })

/-- Change the bound; entries beyond it are dropped at once, the oldest first. -/
def setCapacity (cache : Lru κ ν) (capacity : Nat) : Lru κ ν :=
  evict { cache with capacity }

end Lru

end QueryLoom

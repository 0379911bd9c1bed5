import QueryLoom.Proofs.Rendering

/-!
# Names that are looked up

The catalog keeps names under type paths, and every lookup checks that the names it finds belong
to the entity that asks.  Whatever was looked up before, and however the cache was cut, the names
that a lookup yields are therefore the ones that the entity determines by itself.

## Main definitions

* `Catalog.Reached`: the catalogs that come about by use.
* `Catalog.Faithful`: only names that were computed from an entity are kept.

## Main results

* `Catalog.Reached.faithful`: every such catalog is faithful.
* `Catalog.lookup_eq_ok`: a lookup that succeeds yields the names of its entity.
* `Catalog.tableName_eq_ok`, `Catalog.columnName_eq_ok`: the table and the columns likewise.
-/

namespace QueryLoom

/-! ## What is kept in a cache -/

namespace Lru

variable {κ ν : Type}

/-- Every entry has a property. -/
def Holds (P : ν → Prop) (cache : Lru κ ν) : Prop :=
  ∀ e ∈ cache.store, P e.2

theorem holds_empty (P : ν → Prop) (capacity : Nat) : (empty capacity : Lru κ ν).Holds P := by
  intro e he
  cases he

variable [DecidableEq κ]

/-- The entry of a key is one of the entries. -/
theorem mem_of_peek {cache : Lru κ ν} {key : κ} {value : ν} (h : cache.peek? key = some value) :
    (key, value) ∈ cache.store := by
  obtain ⟨front, back, hstore, -⟩ := List.lookup_eq_some_iff.mp h
  rw [hstore]
  exact List.mem_append_right _ List.mem_cons_self

/-- Using a key changes the queue only. -/
theorem store_touch (cache : Lru κ ν) (key : κ) : (cache.touch key).store = cache.store := by
  unfold touch
  by_cases hkey : key ∈ cache.order
  · rw [if_pos hkey]
  · rw [if_neg hkey]

/-- Trimming only drops entries. -/
theorem mem_of_mem_trim (capacity : Nat) (store : List (κ × ν)) (order : List κ) {e : κ × ν}
    (h : e ∈ (trim capacity store order).1) : e ∈ store := by
  induction order generalizing store with
  | nil => exact h
  | cons oldest rest ih =>
      unfold trim at h
      by_cases hfull : capacity < store.length
      · rw [if_pos hfull] at h
        have hfiltered := ih _ h
        exact (List.mem_filter.mp hfiltered).1
      · rw [if_neg hfull] at h
        exact h

/-- So does eviction. -/
theorem mem_of_mem_evict {cache : Lru κ ν} {e : κ × ν} (h : e ∈ cache.evict.store) :
    e ∈ cache.store := by
  unfold evict at h
  by_cases hzero : cache.capacity = 0
  · rw [if_pos hzero] at h
    cases h
  · rw [if_neg hzero] at h
    exact mem_of_mem_trim cache.capacity cache.store cache.order h

/-- Looking a key up changes the queue only. -/
theorem store_get (cache : Lru κ ν) (key : κ) : (cache.get key).2.store = cache.store := by
  unfold get
  cases cache.peek? key with
  | some value => exact cache.store_touch key
  | none => rfl

/-- What is found for a key is one of the entries. -/
theorem mem_of_get {cache : Lru κ ν} {key : κ} {value : ν}
    (h : (cache.get key).1 = some value) : (key, value) ∈ cache.store := by
  unfold get at h
  cases hpeek : cache.peek? key with
  | some found =>
      simp only [hpeek] at h
      cases h
      exact mem_of_peek hpeek
  | none => simp only [hpeek, reduceCtorEq] at h

/-- Adding an entry brings in that one at most. -/
theorem mem_of_mem_insertIfAbsent {cache : Lru κ ν} {key : κ} {value : ν} {e : κ × ν}
    (h : e ∈ (cache.insertIfAbsent key value).2.store) :
    e ∈ cache.store ∨ e = (key, value) := by
  unfold insertIfAbsent at h
  cases hpeek : cache.peek? key with
  | some present =>
      simp only [hpeek, store_touch] at h
      exact .inl h
  | none =>
      simp only [hpeek] at h
      rcases List.mem_append.mp (mem_of_mem_evict h) with hold | hnew
      · exact .inl hold
      · exact .inr (List.mem_singleton.mp hnew)

/-- What counts from then on is the new entry, or one that was there. -/
theorem insertIfAbsent_fst (cache : Lru κ ν) (key : κ) (value : ν) :
    (cache.insertIfAbsent key value).1 = value ∨
      (key, (cache.insertIfAbsent key value).1) ∈ cache.store := by
  unfold insertIfAbsent
  cases hpeek : cache.peek? key with
  | some present => exact .inr (mem_of_peek hpeek)
  | none => exact .inl rfl

theorem Holds.get {P : ν → Prop} {cache : Lru κ ν} (h : cache.Holds P) (key : κ) :
    (cache.get key).2.Holds P := by
  intro e he
  rw [store_get] at he
  exact h e he

theorem Holds.of_get {P : ν → Prop} {cache : Lru κ ν} (h : cache.Holds P) {key : κ} {value : ν}
    (hget : (cache.get key).1 = some value) : P value := h _ (mem_of_get hget)

/-- Adding an entry keeps the property if the new one has it; so does what counts from then on. -/
theorem Holds.insertIfAbsent {P : ν → Prop} {cache : Lru κ ν} (h : cache.Holds P) (key : κ)
    {value : ν} (hvalue : P value) :
    P (cache.insertIfAbsent key value).1 ∧ (cache.insertIfAbsent key value).2.Holds P := by
  constructor
  · rcases cache.insertIfAbsent_fst key value with hnew | hold
    · rwa [hnew]
    · exact h _ hold
  · intro e he
    rcases mem_of_mem_insertIfAbsent he with hold | rfl
    · exact h e hold
    · exact hvalue

theorem Holds.setCapacity {P : ν → Prop} {cache : Lru κ ν} (h : cache.Holds P) (capacity : Nat) :
    (cache.setCapacity capacity).Holds P := by
  intro e he
  have hkept : e ∈ ({ cache with capacity } : Lru κ ν).store := mem_of_mem_evict he
  exact h e hkept

end Lru

/-! ## Catalogs in use -/

namespace Catalog

/-- The catalogs that come about from an empty one by looking names up, by changing the capacity
and by reporting events. -/
inductive Reached : Catalog → Prop where
  | empty (capacity : Nat) : Reached (.empty capacity)
  | fetch {catalog : Catalog} (entity : Entity) :
      Reached catalog → Reached (catalog.fetch entity).2
  | resize {catalog : Catalog} (capacity : Nat) :
      Reached catalog → Reached { catalog with cache := catalog.cache.setCapacity capacity }
  | report {catalog : Catalog} (event : Event) : Reached catalog → Reached (catalog.report event)

/-- Only names that were computed from their entity are kept. -/
def Faithful (catalog : Catalog) : Prop :=
  catalog.cache.Holds fun names => names = Names.ofEntity names.entity

/-- What a lookup finds or computes was computed from an entity, and so is all that is kept. -/
theorem Faithful.fetch {catalog : Catalog} (h : catalog.Faithful) (entity : Entity) :
    (catalog.fetch entity).1 = Names.ofEntity (catalog.fetch entity).1.entity ∧
      (catalog.fetch entity).2.Faithful := by
  have hcache := Lru.Holds.get h entity.typePath
  have hfound := @Lru.Holds.of_get _ _ _ _ _ h entity.typePath
  unfold Catalog.fetch
  cases hget : catalog.cache.get entity.typePath with
  | mk found cache =>
      rw [hget] at hcache hfound
      cases found with
      | some names => exact ⟨hfound rfl, hcache⟩
      | none =>
          have hbuilt : Names.ofEntity entity = Names.ofEntity (Names.ofEntity entity).entity := rfl
          exact Lru.Holds.insertIfAbsent hcache entity.typePath hbuilt

/-- Every catalog that comes about by use is faithful. -/
theorem Reached.faithful {catalog : Catalog} (h : catalog.Reached) : catalog.Faithful := by
  induction h with
  | empty capacity => exact Lru.holds_empty _ capacity
  | fetch entity _ ih => exact (ih.fetch entity).2
  | resize capacity _ ih => exact Lru.Holds.setCapacity ih capacity
  | report event _ ih => exact ih

/-! ## Lookups that succeed -/

/-- A lookup that succeeds yields the names of the entity that asks. -/
theorem lookup_eq_ok {catalog catalog' : Catalog} {entity : Entity} {names : Names}
    (h : lookup entity catalog = .ok names catalog') (hfaithful : catalog.Faithful) :
    names = Names.ofEntity entity ∧ catalog'.Faithful := by
  obtain ⟨hcomputed, hkept⟩ := hfaithful.fetch entity
  unfold lookup at h
  by_cases hentity : (catalog.fetch entity).1.entity = entity
  · simp only [hentity, ↓reduceIte, EStateM.Result.ok.injEq] at h
    obtain ⟨rfl, rfl⟩ := h
    rw [hentity] at hcomputed
    exact ⟨hcomputed, hkept⟩
  · simp only [hentity, ↓reduceIte, reduceCtorEq] at h

/-- The table of an entity follows from the entity alone. -/
theorem tableName_eq_ok {catalog catalog' : Catalog} {entity : Entity} {table : String}
    (h : tableName entity catalog = .ok table catalog') (hfaithful : catalog.Faithful) :
    table = Names.tableOf entity ∧ catalog'.Faithful := by
  unfold tableName at h
  obtain ⟨names, t, hlookup, h⟩ := Step.bind_eq_ok h
  obtain ⟨rfl, hkept⟩ := lookup_eq_ok hlookup hfaithful
  obtain ⟨rfl, rfl⟩ := Step.pure_eq_ok h
  exact ⟨rfl, hkept⟩

/-- The column of a field follows from its entity, which declares the property. -/
theorem columnName_eq_ok {catalog catalog' : Catalog} {field : Field} {column : String}
    (h : columnName field catalog = .ok column catalog') (hfaithful : catalog.Faithful) :
    (Names.ofEntity field.entity).column? field.property = some column ∧ catalog'.Faithful := by
  unfold columnName at h
  obtain ⟨names, t, hlookup, h⟩ := Step.bind_eq_ok h
  obtain ⟨rfl, hkept⟩ := lookup_eq_ok hlookup hfaithful
  unfold Names.column at h
  cases hcolumn : (Names.ofEntity field.entity).column? field.property with
  | some found =>
      simp only [hcolumn] at h
      obtain ⟨rfl, rfl⟩ := Step.pure_eq_ok h
      exact ⟨rfl, hkept⟩
  | none =>
      simp only [hcolumn] at h
      exact absurd h Step.throw_ne_ok

end Catalog

end QueryLoom

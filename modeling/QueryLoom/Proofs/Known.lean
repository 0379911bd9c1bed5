import QueryLoom.Proofs.Names

/-!
# Catalogs of known entities

Suppose that only certain entities are ever looked up.  Then only their names are kept, each under
its own type path.  A lookup of a known entity yields the names that the entity determines by
itself, whatever was looked up before and however the cache was cut; only if two different known
entities share a type path can there be a conflict.

## Main definitions

* `Unambiguous`: known entities with the same type path are the same.
* `Catalog.Visited`: the catalogs that come about by looking known entities up.
* `Matches`: an outcome is the one that is told, but for conflicts among ambiguous entities.
* `Tells`: a step has the outcome that is told, in every state of some kind.

## Main results

* `Tells.bind`: sequences of steps.
* `Catalog.Visited.rightful`: only the names of known entities are kept, each under its type path.
* `Catalog.tells_lookup`, `Catalog.tells_tableName`, `Catalog.tells_columnName`: what is looked up
  is what the entity determines.
-/

namespace QueryLoom

open Step

variable {known : Entity → Prop}

/-! ## Outcomes that match -/

/-- Known entities with the same type path are the same. -/
def Unambiguous (known : Entity → Prop) : Prop :=
  ∀ a b, known a → known b → a.typePath = b.typePath → a = b

/-- Whether an error is a conflict. -/
def Error.isConflict : Error → Bool
  | .conflict .. => true
  | _ => false

/-- The outcome is the one that is told, or else a conflict among ambiguous entities. -/
inductive Matches (known : Entity → Prop) {α : Type} : Except Error α → Except Error α → Prop where
  | told (r : Except Error α) : Matches known r r
  | refused {e : Error} (h : e.isConflict = true) (hknown : ¬ Unambiguous known)
      (told : Except Error α) : Matches known (.error e) told

namespace Matches

variable {α β : Type}

/-- Without ambiguity there is no difference. -/
theorem eq {r told : Except Error α} (h : Matches known r told) (hknown : Unambiguous known) :
    r = told := by
  cases h with
  | told => rfl
  | refused h hambiguous => exact absurd hknown hambiguous

/-- An outcome of success is the one that is told. -/
theorem of_ok {a : α} {told : Except Error α} (h : Matches known (.ok a) told) :
    told = .ok a := by
  cases h
  rfl

/-- After an error nothing more is told. -/
theorem of_error {e : Error} {told : Except Error α} (h : Matches known (.error e) told)
    (tells : α → Except Error β) : Matches known (.error e) (told >>= tells) := by
  cases h with
  | told => exact .told _
  | refused h hambiguous => exact .refused h hambiguous _

end Matches

/-- From every state of some kind the step has the outcome that is told, and leaves a state of that
kind. -/
def Tells (known : Entity → Prop) {σ α : Type} (kind : σ → Prop) (m : EStateM Error σ α)
    (told : Except Error α) : Prop :=
  ∀ s, kind s → Matches known (outcome (m s)) told ∧ kind (left (m s))

namespace Tells

variable {σ α β : Type} {kind : σ → Prop}

theorem pure (a : α) : Tells known kind (pure a : EStateM Error σ α) (.ok a) :=
  fun _ hs => ⟨.told _, hs⟩

theorem throw (e : Error) : Tells known kind (throw e : EStateM Error σ α) (.error e) :=
  fun _ hs => ⟨.told _, hs⟩

/-- A sequence of steps tells what its parts tell. -/
theorem bind {m : EStateM Error σ α} {f : α → EStateM Error σ β} {told : Except Error α}
    {tells : α → Except Error β} (hm : Tells known kind m told)
    (hf : ∀ a, Tells known kind (f a) (tells a)) :
    Tells known kind (m >>= f) (told >>= tells) := by
  intro s hs
  obtain ⟨houtcome, hkind⟩ := hm s hs
  cases hms : m s with
  | ok a t =>
      rw [hms] at houtcome hkind
      rw [bind_of_ok hms, houtcome.of_ok]
      exact hf a t hkind
  | error e t =>
      rw [hms] at houtcome hkind
      rw [bind_of_error hms]
      exact ⟨houtcome.of_error tells, hkind⟩

/-- A step that looks at the state tells what it tells in each state of the kind. -/
theorem look {f : σ → EStateM Error σ β} {told : Except Error β}
    (hf : ∀ s, kind s → Tells known kind (f s) told) : Tells known kind (get >>= f) told :=
  fun s hs => hf s hs s hs

theorem ite {c : Prop} [Decidable c] {m n : EStateM Error σ α} {told tells : Except Error α}
    (hm : Tells known kind m told) (hn : Tells known kind n tells) :
    Tells known kind (if c then m else n) (if c then told else tells) := by
  by_cases hc : c
  · rwa [if_pos hc, if_pos hc]
  · rwa [if_neg hc, if_neg hc]

end Tells

/-! ## Catalogs -/

namespace Catalog

/-- The catalogs that come about from an empty one by looking known entities up, by changing the
capacity and by reporting events. -/
inductive Visited (known : Entity → Prop) : Catalog → Prop where
  | empty (capacity : Nat) : Visited known (.empty capacity)
  | fetch {catalog : Catalog} {entity : Entity} (hentity : known entity) :
      Visited known catalog → Visited known (catalog.fetch entity).2
  | resize {catalog : Catalog} (capacity : Nat) :
      Visited known catalog →
        Visited known { catalog with cache := catalog.cache.setCapacity capacity }
  | report {catalog : Catalog} (event : Event) :
      Visited known catalog → Visited known (catalog.report event)

/-- Every catalog in use comes about by looking up entities of some kind. -/
theorem Reached.visited {catalog : Catalog} (h : catalog.Reached) :
    catalog.Visited fun _ => True := by
  induction h with
  | empty capacity => exact .empty capacity
  | fetch entity _ ih => exact .fetch trivial ih
  | resize capacity _ ih => exact .resize capacity ih
  | report event _ ih => exact .report event ih

/-- An entry that belongs to a known entity: its names, under its type path. -/
structure Rightful (known : Entity → Prop) (e : String × Names) : Prop where
  entity : known e.2.entity
  key : e.1 = e.2.entity.typePath
  names : e.2 = Names.ofEntity e.2.entity

/-- What is fetched was kept, or is computed from the entity. -/
theorem fetch_fst (catalog : Catalog) (entity : Entity) :
    (catalog.fetch entity).1 = Names.ofEntity entity ∨
      (entity.typePath, (catalog.fetch entity).1) ∈ catalog.cache.store := by
  have hstore := catalog.cache.store_get entity.typePath
  unfold fetch
  cases hget : catalog.cache.get entity.typePath with
  | mk found cache =>
      rw [hget] at hstore
      cases found with
      | some names =>
          have hfound : (catalog.cache.get entity.typePath).1 = some names := by rw [hget]
          exact .inr (Lru.mem_of_get hfound)
      | none =>
          simp only at hstore ⊢
          rw [← hstore]
          exact cache.insertIfAbsent_fst entity.typePath (Names.ofEntity entity)

/-- Fetching brings in the names of the entity at most. -/
theorem mem_of_mem_fetch {catalog : Catalog} {entity : Entity} {e : String × Names}
    (h : e ∈ (catalog.fetch entity).2.cache.store) :
    e ∈ catalog.cache.store ∨ e = (entity.typePath, Names.ofEntity entity) := by
  have hstore := catalog.cache.store_get entity.typePath
  unfold fetch at h
  cases hget : catalog.cache.get entity.typePath with
  | mk found cache =>
      rw [hget] at h hstore
      cases found with
      | some names =>
          rw [← hstore]
          exact .inl h
      | none =>
          rw [← hstore]
          exact Lru.mem_of_mem_insertIfAbsent h

namespace Visited

/-- Only entries that belong to known entities are kept. -/
theorem rightful {catalog : Catalog} (h : catalog.Visited known) :
    ∀ e ∈ catalog.cache.store, Rightful known e := by
  induction h with
  | empty capacity =>
      intro e he
      cases he
  | @fetch catalog entity hentity _ ih =>
      intro e he
      rcases mem_of_mem_fetch he with hold | rfl
      · exact ih e hold
      · exact ⟨hentity, rfl, rfl⟩
  | @resize catalog capacity _ ih =>
      intro e he
      have hkept : e ∈ ({ catalog.cache with capacity } : Lru String Names).store :=
        Lru.mem_of_mem_evict he
      exact ih e hkept
  | report event _ ih => exact ih

end Visited

/-- A lookup yields the names that the entity determines. -/
theorem tells_lookup {entity : Entity} (hentity : known entity) :
    Tells known (Visited known) (lookup entity) (.ok (Names.ofEntity entity)) := by
  intro catalog h
  have hkept : (catalog.fetch entity).2.Visited known := .fetch hentity h
  unfold lookup
  by_cases hsame : (catalog.fetch entity).1.entity = entity
  · simp only [hsame, ↓reduceIte]
    have hnames : (catalog.fetch entity).1 = Names.ofEntity entity := by
      rcases catalog.fetch_fst entity with hbuilt | hstored
      · exact hbuilt
      · have hrightful := (h.rightful _ hstored).names
        rwa [hsame] at hrightful
    rw [hnames]
    exact ⟨.told _, hkept⟩
  · simp only [hsame, ↓reduceIte]
    refine ⟨.refused rfl ?_ _, hkept⟩
    -- a conflict takes two known entities with the same type path
    intro hunambiguous
    rcases catalog.fetch_fst entity with hbuilt | hstored
    · rw [hbuilt] at hsame
      exact hsame rfl
    · have hrightful := h.rightful _ hstored
      exact hsame (hunambiguous _ _ hrightful.entity hentity hrightful.key.symm)

/-- So does a lookup of its table. -/
theorem tells_tableName {entity : Entity} (hentity : known entity) :
    Tells known (Visited known) (tableName entity) (.ok (Names.tableOf entity)) :=
  Tells.bind (tells_lookup hentity) fun names => Tells.pure names.table

/-- And a lookup of a column, which may be missing. -/
theorem tells_columnName {field : Field} (hentity : known field.entity) :
    Tells known (Visited known) (columnName field)
      ((Names.ofEntity field.entity).column field.property) := by
  show Tells known (Visited known) (columnName field)
    (Except.ok (Names.ofEntity field.entity) >>= fun names => names.column field.property)
  refine Tells.bind (tells_lookup hentity) fun names => ?_
  cases names.column field.property with
  | ok column => exact Tells.pure column
  | error e => exact Tells.throw e

end Catalog

end QueryLoom

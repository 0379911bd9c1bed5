import QueryLoom.Proofs.Queue
import QueryLoom.Proofs.Transparency

/-!
# Which names are kept

A catalog is used by looking names up and by changing its capacity.  As long as the capacity stays,
the names that it keeps are those of the type paths that were looked up last, whether or not the
lookups succeeded: a lookup finds names exactly if its type path is among them.

## Main definitions

* `Catalog.Change`, `Catalog.after`: uses of a catalog, one after the other.
* `Catalog.Hits`, `Catalog.Misses`: a lookup finds names, or has to compute them.

## Main results

* `Catalog.fetch_of_hit`, `Catalog.fetch_of_miss`: what a lookup does in either case.
* `Catalog.sound_after`: caches in use are in order.
* `Catalog.order_of_lookups`: the type paths that were looked up last.
* `hits_are_the_recent_lookups`: the summary.
-/

namespace QueryLoom

open Step

namespace Catalog

/-! ## Lookups -/

/-- A lookup leaves what fetching leaves, whether or not it succeeds. -/
theorem left_lookup (catalog : Catalog) (entity : Entity) :
    left (lookup entity catalog) = (catalog.fetch entity).2 := by
  unfold lookup
  by_cases hsame : (catalog.fetch entity).1.entity = entity
  · simp only [hsame, ↓reduceIte, left]
  · simp only [hsame, ↓reduceIte, left]

/-- What comes of a lookup that comes upon names: they have to be those of the entity. -/
def compared (names : Names) (entity : Entity) : Except Error Names :=
  if names.entity = entity then .ok names
  else .error (.conflict entity.typePath names.entity.displayed entity.displayed)

theorem outcome_lookup (catalog : Catalog) (entity : Entity) :
    outcome (lookup entity catalog) = compared (catalog.fetch entity).1 entity := by
  unfold lookup compared
  by_cases hsame : (catalog.fetch entity).1.entity = entity
  · simp only [hsame, ↓reduceIte, outcome]
  · simp only [hsame, ↓reduceIte, outcome]

theorem compared_ofEntity (entity : Entity) :
    compared (Names.ofEntity entity) entity = .ok (Names.ofEntity entity) := if_pos rfl

/-- Names that are kept are found, which counts as a use of their type path. -/
theorem fetch_of_hit {catalog : Catalog} {entity : Entity} {names : Names}
    (h : catalog.cache.peek? entity.typePath = some names) :
    catalog.fetch entity =
      (names, { catalog with cache := catalog.cache.touch entity.typePath }) := by
  unfold fetch Lru.get
  simp only [h]

/-- Names that are not kept are computed, which is reported, and are kept as the most recent ones
if the capacity allows it. -/
theorem fetch_of_miss {catalog : Catalog} (hsound : catalog.cache.Sound) {entity : Entity}
    (h : catalog.cache.peek? entity.typePath = none) :
    catalog.fetch entity = (Names.ofEntity entity,
      ⟨(catalog.cache.extend entity.typePath (Names.ofEntity entity)).cut catalog.cache.capacity,
        catalog.trace ++ [.namesComputed entity.typePath (Names.tableOf entity)]⟩) := by
  have hinsert := (hsound.insertIfAbsent_eq h (Names.ofEntity entity)).1
  unfold fetch Lru.get
  simp only [h, hinsert]
  rfl

/-- Either way the cache stays in order, and the type path becomes the most recent one. -/
theorem sound_fetch {catalog : Catalog} (hsound : catalog.cache.Sound) (entity : Entity) :
    (catalog.fetch entity).2.cache.Sound ∧
      (catalog.fetch entity).2.cache.capacity = catalog.cache.capacity ∧
      (catalog.fetch entity).2.cache.order =
        (Lru.renew catalog.cache.order entity.typePath).rtake catalog.cache.capacity := by
  cases hpeek : catalog.cache.peek? entity.typePath with
  | some names =>
      have hkey := hsound.mem_order hpeek
      have hlength : (Lru.renew catalog.cache.order entity.typePath).length ≤
          catalog.cache.capacity := by
        rw [(Lru.perm_renew hkey).length_eq]
        exact hsound.bounded
      rw [fetch_of_hit hpeek]
      refine ⟨hsound.touch entity.typePath, ?_, ?_⟩
      · rw [Lru.touch_of_mem hkey]
      · rw [Lru.touch_of_mem hkey, Lru.rtake_of_length_le hlength]
  | none =>
      rw [fetch_of_miss hsound hpeek]
      exact ⟨(hsound.insertIfAbsent_eq hpeek (Names.ofEntity entity)).2, rfl, rfl⟩

/-! ## Uses one after the other -/

/-- A use of a catalog: a lookup, which may end in a conflict, or a change of its capacity. -/
inductive Change where
  | lookup (entity : Entity)
  | resize (capacity : Nat)
  deriving DecidableEq, Repr

/-- What a use leaves. -/
def apply (catalog : Catalog) : Change → Catalog
  | .lookup entity => left (lookup entity catalog)
  | .resize capacity => { catalog with cache := catalog.cache.setCapacity capacity }

/-- What uses leave that follow each other. -/
def after (catalog : Catalog) (changes : List Change) : Catalog :=
  changes.foldl apply catalog

theorem after_concat (catalog : Catalog) (changes : List Change) (change : Change) :
    catalog.after (changes ++ [change]) = (catalog.after changes).apply change := by
  rw [after, List.foldl_concat, after]

theorem sound_apply {catalog : Catalog} (hsound : catalog.cache.Sound) (change : Change) :
    (catalog.apply change).cache.Sound := by
  cases change with
  | lookup entity =>
      rw [apply, left_lookup]
      exact (sound_fetch hsound entity).1
  | resize capacity => exact (hsound.setCapacity_eq capacity).2

/-- Caches in use are in order. -/
theorem sound_after {catalog : Catalog} (hsound : catalog.cache.Sound) (changes : List Change) :
    (catalog.after changes).cache.Sound := by
  induction changes using List.reverseRecOn with
  | nil => exact hsound
  | append_singleton changes change ih =>
      rw [after_concat]
      exact sound_apply ih change

theorem sound_after_empty (capacity : Nat) (changes : List Change) :
    ((empty capacity).after changes).cache.Sound := by
  have hempty : (empty capacity).cache.Sound := Lru.sound_empty capacity
  exact sound_after hempty changes

/-- If there are only lookups, the names that are kept are those of the last type paths. -/
theorem order_of_lookups (capacity : Nat) (history : List Entity) :
    ((Catalog.empty capacity).after (history.map .lookup)).cache.capacity = capacity ∧
      ((Catalog.empty capacity).after (history.map .lookup)).cache.order =
        (history.map Entity.typePath).dedup.rtake capacity := by
  induction history using List.reverseRecOn with
  | nil => exact ⟨rfl, (List.rtake_nil capacity).symm⟩
  | append_singleton history entity ih =>
      obtain ⟨hcapacity, horder⟩ := ih
      have hsound := sound_after_empty capacity (history.map .lookup)
      obtain ⟨-, hkept, hrenewed⟩ := sound_fetch hsound entity
      rw [List.map_append, List.map_singleton, after_concat, apply, left_lookup, hkept, hrenewed,
        hcapacity, horder, Lru.rtake_renew (List.nodup_dedup _), List.map_append,
        List.map_singleton, Lru.dedup_concat]
      exact ⟨rfl, rfl⟩

/-! ## Hits and misses -/

/-- A lookup finds names under the type path and compares the entity with theirs; nothing is
computed. -/
def Hits (catalog : Catalog) (entity : Entity) : Prop :=
  ∃ names, catalog.cache.peek? entity.typePath = some names ∧
    outcome (lookup entity catalog) = compared names entity ∧
    (left (lookup entity catalog)).trace = catalog.trace

/-- A lookup computes the names of the entity, which is reported, and yields them. -/
def Misses (catalog : Catalog) (entity : Entity) : Prop :=
  outcome (lookup entity catalog) = .ok (Names.ofEntity entity) ∧
    (left (lookup entity catalog)).trace =
      catalog.trace ++ [.namesComputed entity.typePath (Names.tableOf entity)]

theorem hits_of_mem {catalog : Catalog} (hsound : catalog.cache.Sound) {entity : Entity}
    (h : entity.typePath ∈ catalog.cache.order) : catalog.Hits entity := by
  cases hpeek : catalog.cache.peek? entity.typePath with
  | some names =>
      refine ⟨names, hpeek, ?_, ?_⟩
      · rw [outcome_lookup, fetch_of_hit hpeek]
      · rw [left_lookup, fetch_of_hit hpeek]
  | none => exact absurd h (hsound.peek?_eq_none_iff.mp hpeek)

theorem misses_of_notMem {catalog : Catalog} (hsound : catalog.cache.Sound) {entity : Entity}
    (h : entity.typePath ∉ catalog.cache.order) : catalog.Misses entity := by
  have hfetch := fetch_of_miss hsound (hsound.peek?_eq_none_iff.mpr h)
  constructor
  · rw [outcome_lookup, hfetch, compared_ofEntity]
  · rw [left_lookup, hfetch]

/-- A lookup that reports nothing does not report that names were computed. -/
theorem Hits.not_misses {catalog : Catalog} {entity : Entity} (hhits : catalog.Hits entity) :
    ¬ catalog.Misses entity := by
  obtain ⟨-, -, -, hsilent⟩ := hhits
  intro hmisses
  have hlength := congrArg List.length (hsilent.symm.trans hmisses.2)
  rw [List.length_append, List.length_singleton] at hlength
  omega

end Catalog

/-! ## Summary -/

/-- Let a catalog of some capacity be empty at first, and let names of any entities be looked up.
Then the next lookup finds names if and only if its type path was looked up before, and since then
fewer other type paths than the capacity; otherwise the names are computed anew. -/
theorem hits_are_the_recent_lookups (capacity : Nat) (history : List Entity) (entity : Entity) :
    let catalog := (Catalog.empty capacity).after (history.map .lookup)
    let recent := Lru.Recent capacity (history.map Entity.typePath) entity.typePath
    (catalog.Hits entity ↔ recent) ∧ (catalog.Misses entity ↔ ¬ recent) := by
  intro catalog recent
  have hsound : catalog.cache.Sound := Catalog.sound_after_empty capacity _
  have hkept : entity.typePath ∈ catalog.cache.order ↔ recent := by
    rw [(Catalog.order_of_lookups capacity history).2, Lru.mem_rtake_dedup_iff]
  by_cases hrecent : recent
  · have hhits := Catalog.hits_of_mem hsound (hkept.mpr hrecent)
    exact ⟨iff_of_true hhits hrecent, iff_of_false hhits.not_misses (not_not_intro hrecent)⟩
  · have hmisses := Catalog.misses_of_notMem hsound (mt hkept.mp hrecent)
    exact ⟨iff_of_false (fun hhits => hhits.not_misses hmisses) hrecent,
      iff_of_true hmisses hrecent⟩

/-- A type that claims the path of users. -/
def Entity.claimant : Entity := ⟨"app::User", "User", some "people", [⟨"id", none⟩]⟩

/-- Tags, without properties. -/
def Entity.tag : Entity := ⟨"app::Tag", "Tag", none, []⟩

/-- With room for two, users are found after one other type, however often their path was claimed
in between, and are computed anew after two others. -/
theorem hits_and_misses_of_users :
    ((Catalog.empty 2).after ([.user, .order, .claimant, .order].map .lookup)).Hits .user ∧
      ((Catalog.empty 2).after ([.user, .order, .tag, .order].map .lookup)).Misses .user := by
  obtain ⟨hfound, -⟩ := hits_are_the_recent_lookups 2 [.user, .order, .claimant, .order] .user
  obtain ⟨-, hcomputed⟩ := hits_are_the_recent_lookups 2 [.user, .order, .tag, .order] .user
  exact ⟨hfound.mpr (by decide +kernel), hcomputed.mpr (by decide +kernel)⟩

end QueryLoom

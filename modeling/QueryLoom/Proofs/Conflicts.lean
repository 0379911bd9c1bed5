import QueryLoom.Proofs.Recency

/-!
# Conflicts

Two entities may claim the same type path.  Whichever is looked up first has its names kept, and
as long as they are kept, every lookup for the other one is refused.  A refusal leaves the names
that are kept as they are, so the first entity is the one that counts until its names are dropped.

## Main definitions

* `Catalog.Refuses`: names of another entity are kept under the type path.
* `Catalog.Upholds`: names stay the ones of a type path for as long as there are any.

## Main results

* `Catalog.reached_after`: catalogs after any uses come about by use.
* `Catalog.lookup_of_refuses`, `Catalog.outcome_of_not_refuses`: what a lookup does in either case.
* `Catalog.peek?_apply`: a use leaves the names of a type path, or drops them.
* `conflicts_are_exact`: the summary.
-/

namespace QueryLoom

open Step

namespace Catalog

/-- Catalogs after any uses come about by use. -/
theorem reached_after {catalog : Catalog} (h : catalog.Reached) (changes : List Change) :
    (catalog.after changes).Reached := by
  induction changes using List.reverseRecOn with
  | nil => exact h
  | append_singleton changes change ih =>
      rw [after_concat]
      cases change with
      | lookup entity =>
          rw [apply, left_lookup]
          exact .fetch entity ih
      | resize capacity => exact .resize capacity ih

/-! ## Refusals -/

/-- Names of another entity are kept under the type path. -/
def Refuses (catalog : Catalog) (entity : Entity) : Prop :=
  ∃ names, catalog.cache.peek? entity.typePath = some names ∧ names.entity ≠ entity

/-- An entity is refused with both descriptions; its type path counts as used. -/
theorem lookup_of_refuses {catalog : Catalog} (hsound : catalog.cache.Sound) {entity : Entity}
    {names : Names} (hnames : catalog.cache.peek? entity.typePath = some names)
    (hother : names.entity ≠ entity) :
    lookup entity catalog =
      .error (.conflict entity.typePath names.entity.displayed entity.displayed)
        { catalog with cache := { catalog.cache with
          order := Lru.renew catalog.cache.order entity.typePath } } := by
  unfold lookup
  simp only [fetch_of_hit hnames, hother, ↓reduceIte, Lru.touch_of_mem (hsound.mem_order hnames)]

/-- Otherwise the names of the entity are found or computed. -/
theorem outcome_of_not_refuses {catalog : Catalog} (h : catalog.Reached)
    (hsound : catalog.cache.Sound) {entity : Entity} (haccepted : ¬ catalog.Refuses entity) :
    outcome (lookup entity catalog) = .ok (Names.ofEntity entity) := by
  rw [outcome_lookup]
  cases hpeek : catalog.cache.peek? entity.typePath with
  | some names =>
      have hentity : names.entity = entity := by
        by_contra hother
        exact haccepted ⟨names, hpeek, hother⟩
      have hcomputed : names = Names.ofEntity names.entity :=
        (h.visited.rightful _ (Lru.mem_of_peek hpeek)).names
      rw [hentity] at hcomputed
      rw [fetch_of_hit hpeek, hcomputed, compared_ofEntity]
  | none => rw [fetch_of_miss hsound hpeek, compared_ofEntity]

/-- A cache that keeps nothing has nothing to refuse an entity for. -/
theorem not_refuses_of_capacity {catalog : Catalog} (hsound : catalog.cache.Sound)
    (hcapacity : catalog.cache.capacity = 0) (entity : Entity) : ¬ catalog.Refuses entity := by
  rintro ⟨names, hnames, -⟩
  have hmem := hsound.mem_order hnames
  have hlength := hsound.bounded
  rw [hcapacity, Nat.le_zero, List.length_eq_zero_iff] at hlength
  rw [hlength] at hmem
  cases hmem

/-! ## Names that stay -/

/-- A use leaves the names of a type path, or drops them. -/
theorem peek?_apply {catalog : Catalog} (hsound : catalog.cache.Sound) {key : String}
    {names : Names} (h : catalog.cache.peek? key = some names) (change : Change) :
    (catalog.apply change).cache.peek? key = some names ∨
      (catalog.apply change).cache.peek? key = none := by
  cases change with
  | lookup entity =>
      rw [apply, left_lookup]
      cases hpeek : catalog.cache.peek? entity.typePath with
      | some found =>
          rw [fetch_of_hit hpeek]
          left
          show (catalog.cache.touch entity.typePath).store.lookup key = some names
          rw [Lru.store_touch]
          exact h
      | none =>
          have hextended :
              (catalog.cache.extend entity.typePath (Names.ofEntity entity)).peek? key =
                some names := by
            show (catalog.cache.store ++ [(entity.typePath, Names.ofEntity entity)]).lookup key = _
            have hlookup : catalog.cache.store.lookup key = some names := h
            rw [List.lookup_append, hlookup, Option.some_or]
          rw [fetch_of_miss hsound hpeek]
          simp only [Lru.peek?_cut, hextended, ite_eq_left_iff, ite_eq_right_iff]
          tauto
  | resize capacity =>
      rw [apply, (hsound.setCapacity_eq capacity).1]
      simp only [Lru.peek?_cut]
      by_cases hkept : key ∈ catalog.cache.order.rtake capacity
      · rw [if_pos hkept]
        exact .inl h
      · rw [if_neg hkept]
        exact .inr rfl

/-- The names stay the ones of the type path through every sequence of uses after which there are
always some. -/
def Upholds (catalog : Catalog) (key : String) (names : Names) : Prop :=
  ∀ later : List Change,
    (∀ early, early <+: later → (catalog.after early).cache.peek? key ≠ none) →
      (catalog.after later).cache.peek? key = some names

/-- Names that are kept stay so until they are dropped. -/
theorem upholds_of_peek? {catalog : Catalog} (hsound : catalog.cache.Sound) {key : String}
    {names : Names} (h : catalog.cache.peek? key = some names) : catalog.Upholds key names := by
  intro later hpresent
  induction later using List.reverseRecOn with
  | nil => exact h
  | append_singleton later change ih =>
      have hbefore := ih fun early hearly => hpresent early (hearly.trans (List.prefix_append _ _))
      have hnow := hpresent _ (List.prefix_refl _)
      rw [after_concat] at hnow ⊢
      exact (peek?_apply (sound_after hsound later) hbefore change).resolve_right hnow

/-- The names of an entity are kept from its first lookup on, if there is room for any. -/
theorem peek?_of_first {catalog : Catalog} (hsound : catalog.cache.Sound) {entity : Entity}
    (hfirst : catalog.cache.peek? entity.typePath = none) (hroom : catalog.cache.capacity ≠ 0) :
    (catalog.apply (.lookup entity)).cache.peek? entity.typePath =
      some (Names.ofEntity entity) := by
  have hlast : entity.typePath ∈
      (Lru.renew catalog.cache.order entity.typePath).rtake catalog.cache.capacity := by
    obtain ⟨n, hn⟩ := Nat.exists_eq_succ_of_ne_zero hroom
    rw [hn, Lru.renew, List.rtake_concat_succ]
    exact List.mem_append_right _ List.mem_cons_self
  have hextended : (catalog.cache.extend entity.typePath (Names.ofEntity entity)).peek?
      entity.typePath = some (Names.ofEntity entity) := by
    show (catalog.cache.store ++ [(entity.typePath, Names.ofEntity entity)]).lookup _ = _
    have hlookup : catalog.cache.store.lookup entity.typePath = none := hfirst
    rw [List.lookup_append, hlookup, Option.none_or, List.lookup_cons_self]
  rw [apply, left_lookup, fetch_of_miss hsound hfirst]
  show (Lru.cut _ _).peek? _ = _
  rw [Lru.peek?_cut, hextended]
  exact if_pos hlast

end Catalog

/-! ## Summary -/

/-- Let an empty catalog be used in any way.  Then every entry is made of the names of its own
entity, under the type path of that entity.

A lookup ends in a conflict if and only if the names of another entity are kept under the type path,
and otherwise yields the names of the entity.  A conflict names both descriptions, and all that it
changes is the order of use; so the names that a first lookup brought in stay the ones of their
type path until they are dropped.  Without capacity there are no conflicts. -/
theorem conflicts_are_exact (capacity : Nat) (changes : List Catalog.Change) :
    let catalog := (Catalog.empty capacity).after changes
    (∀ e ∈ catalog.cache.store,
      catalog.cache.peek? e.1 = some e.2 ∧ e.1 = e.2.entity.typePath ∧
        e.2 = Names.ofEntity e.2.entity) ∧
    (∀ entity : Entity,
      ((∃ key cached requested,
          outcome (Catalog.lookup entity catalog) = .error (.conflict key cached requested)) ↔
        catalog.Refuses entity) ∧
      (¬ catalog.Refuses entity →
        outcome (Catalog.lookup entity catalog) = .ok (Names.ofEntity entity)) ∧
      (∀ names, catalog.cache.peek? entity.typePath = some names → names.entity ≠ entity →
        Catalog.lookup entity catalog =
          .error (.conflict entity.typePath names.entity.displayed entity.displayed)
            { catalog with cache := { catalog.cache with
              order := Lru.renew catalog.cache.order entity.typePath } }) ∧
      (catalog.cache.peek? entity.typePath = none → catalog.cache.capacity ≠ 0 →
        (catalog.apply (.lookup entity)).cache.peek? entity.typePath =
          some (Names.ofEntity entity))) ∧
    (∀ key names, catalog.cache.peek? key = some names → catalog.Upholds key names) ∧
    (catalog.cache.capacity = 0 → ∀ entity, ¬ catalog.Refuses entity) := by
  intro catalog
  have hreached : catalog.Reached := Catalog.reached_after (.empty capacity) changes
  have hsound : catalog.cache.Sound := Catalog.sound_after_empty capacity changes
  refine ⟨fun e he => ?_, fun entity => ⟨⟨?_, ?_⟩, ?_, ?_, ?_⟩, ?_, ?_⟩
  · have hrightful := hreached.visited.rightful e he
    exact ⟨hsound.peek?_of_mem he, hrightful.key, hrightful.names⟩
  · rintro ⟨key, cached, requested, hconflict⟩
    by_contra haccepted
    rw [Catalog.outcome_of_not_refuses hreached hsound haccepted] at hconflict
    cases hconflict
  · rintro ⟨names, hnames, hother⟩
    rw [Catalog.lookup_of_refuses hsound hnames hother]
    exact ⟨_, _, _, rfl⟩
  · exact Catalog.outcome_of_not_refuses hreached hsound
  · exact fun names hnames hother => Catalog.lookup_of_refuses hsound hnames hother
  · exact Catalog.peek?_of_first hsound
  · exact fun key names hnames => Catalog.upholds_of_peek? hsound hnames
  · exact Catalog.not_refuses_of_capacity hsound

/-- A type that claims the path of users is refused as long as users are kept, and once another type
has displaced them it is accepted. -/
theorem claimant_until_eviction :
    let catalog := (Catalog.empty 1).after [.lookup .user, .lookup .claimant]
    (∃ key cached requested,
      outcome (Catalog.lookup .claimant catalog) = .error (.conflict key cached requested)) ∧
    outcome (Catalog.lookup .claimant (catalog.apply (.lookup .order))) =
      .ok (Names.ofEntity .claimant) := by
  intro catalog
  obtain ⟨-, hlookup, -⟩ := conflicts_are_exact 1 [.lookup .user, .lookup .claimant]
  obtain ⟨-, hlater, -⟩ := conflicts_are_exact 1 [.lookup .user, .lookup .claimant, .lookup .order]
  constructor
  · exact (hlookup .claimant).1.mpr ⟨Names.ofEntity .user, by decide +kernel, by decide⟩
  · refine (hlater .claimant).2.1 ?_
    rintro ⟨names, hnames, -⟩
    have hnone : ((Catalog.empty 1).after
        [.lookup .user, .lookup .claimant, .lookup .order]).cache.peek?
          Entity.claimant.typePath = none := by decide +kernel
    rw [hnone] at hnames
    cases hnames

end QueryLoom

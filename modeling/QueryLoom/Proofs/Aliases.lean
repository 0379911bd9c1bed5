import QueryLoom.Alias
import QueryLoom.Proofs.Settled

/-!
# Bare aliases

The alias of a table stands bare in front of its columns.  Generated aliases are bare anyway, so
all of them are as long as the explicit ones are.

## Main definitions

* `Aliases.Clean`: every table has a bare alias.

## Main results

* `Aliases.Clean.get`, `Aliases.Clean.addTable`: registering tables keeps the aliases clean.
* `Aliases.Clean.resolveQualifier`, `Aliases.Clean.onlyAlias`: what is written in front of a column.
* `Aliases.columns_addTable`: the aliases of columns are left alone.
-/

namespace QueryLoom

namespace Aliases

/-! ## Aliases of tables -/

/-- Every table has a bare alias. -/
def Clean (aliases : Aliases) : Prop :=
  ∀ e ∈ aliases.entries, Bare e.aliasName

theorem clean_empty : empty.Clean := by
  intro e he
  cases he

/-- A generated alias consists of a letter and digits. -/
theorem bare_generated (n : Nat) : Bare (generated n) := by
  have hletter : Bare "t" := by decide
  exact hletter.append (bare_toString n)

/-- The alias that a table has is bare. -/
theorem Clean.aliasOf {aliases : Aliases} (h : aliases.Clean) {key : TableKey}
    {aliasName : String} (hof : aliases.aliasOf? key = some aliasName) : Bare aliasName := by
  unfold aliasOf? entry? at hof
  obtain ⟨e, hfound, rfl⟩ := Option.map_eq_some_iff.mp hof
  exact h e (List.mem_of_find?_eq_some hfound)

theorem Clean.concat {aliases : Aliases} (h : aliases.Clean) (e : AliasEntry)
    (he : Bare e.aliasName) : ∀ d ∈ aliases.entries ++ [e], Bare d.aliasName := by
  intro d hd
  rcases List.mem_append.mp hd with hold | hnew
  · exact h d hold
  · rw [List.mem_singleton.mp hnew]
    exact he

/-- The alias of a table is bare, whether it has one or gets one. -/
theorem Clean.get {aliases : Aliases} (h : aliases.Clean) (key : TableKey) :
    Bare (aliases.get key).1 ∧ (aliases.get key).2.Clean := by
  unfold Aliases.get
  cases hof : aliases.aliasOf? key with
  | some aliasName => exact ⟨h.aliasOf hof, h⟩
  | none => exact ⟨bare_generated _, h.concat _ (bare_generated _)⟩

theorem Clean.modifyEntry {aliases : Aliases} (h : aliases.Clean) (key : TableKey)
    {f : AliasEntry → AliasEntry} (hf : ∀ e, Bare e.aliasName → Bare (f e).aliasName) :
    (aliases.modifyEntry key f).Clean := by
  intro d hd
  obtain ⟨e, he, rfl⟩ := List.mem_map.mp hd
  by_cases hkey : e.key = key
  · rw [if_pos hkey]
    exact hf e (h e he)
  · rw [if_neg hkey]
    exact h e he

theorem Clean.assign {aliases : Aliases} (h : aliases.Clean) (key : TableKey)
    {aliasName : String} (hbare : Bare aliasName) : (aliases.assign key aliasName).Clean := by
  unfold Aliases.assign
  by_cases hhas : aliases.has key
  · rw [if_pos hhas]
    exact h.modifyEntry key fun _ _ => hbare
  · rw [if_neg hhas]
    exact h.concat _ hbare

/-- A table may be registered under any bare alias. -/
theorem Clean.addTable {aliases : Aliases} (h : aliases.Clean) (key : TableKey) (table : String)
    {aliasName : Option String} (hbare : ∀ a, explicit? aliasName = some a → Bare a) :
    (aliases.addTable key table aliasName).2.Clean := by
  have hadd : (aliases.add key aliasName).2.Clean := by
    unfold Aliases.add
    cases hexplicit : explicit? aliasName with
    | some a => exact h.assign key (hbare a hexplicit)
    | none => exact (h.get key).2
  exact hadd.modifyEntry key fun _ he => he

/-- What a name in front of a dot stands for is bare. -/
theorem Clean.resolved {aliases : Aliases} (h : aliases.Clean) {name aliasName : String}
    (hresolved : aliases.resolveQualifier? name = some aliasName) : Bare aliasName := by
  unfold resolveQualifier? at hresolved
  cases hfound : aliases.entries.find? fun e => e.aliasName == name with
  | some e =>
      rw [hfound] at hresolved
      cases hresolved
      exact h e (List.mem_of_find?_eq_some hfound)
  | none =>
      rw [hfound] at hresolved
      obtain ⟨e, htable, rfl⟩ := Option.map_eq_some_iff.mp hresolved
      exact h e (List.mem_of_find?_eq_some htable)

/-- What stands in front of the dot of a column is bare, if it was written so. -/
theorem Clean.resolveQualifier {aliases : Aliases} (h : aliases.Clean) {name : String}
    (hname : Bare name) : Bare ((aliases.resolveQualifier? name).getD name) := by
  cases hresolved : aliases.resolveQualifier? name with
  | some aliasName => exact h.resolved hresolved
  | none => exact hname

theorem Clean.onlyAlias {aliases : Aliases} (h : aliases.Clean) {aliasName : String}
    (honly : aliases.onlyAlias? = some aliasName) : Bare aliasName := by
  unfold onlyAlias? at honly
  split at honly
  · next only hentries =>
      cases honly
      exact h only (by rw [hentries]; exact List.mem_cons_self)
  · cases honly

/-! ## Aliases of columns -/

theorem columns_get (aliases : Aliases) (key : TableKey) :
    (aliases.get key).2.columns = aliases.columns := by
  unfold Aliases.get
  cases aliases.aliasOf? key with
  | some aliasName => rfl
  | none => rfl

theorem columns_assign (aliases : Aliases) (key : TableKey) (aliasName : String) :
    (aliases.assign key aliasName).columns = aliases.columns := by
  unfold assign
  by_cases hhas : aliases.has key
  · rw [if_pos hhas]
    rfl
  · rw [if_neg hhas]

/-- Registering a table changes no alias of a column. -/
theorem columns_addTable (aliases : Aliases) (key : TableKey) (table : String)
    (aliasName : Option String) :
    (aliases.addTable key table aliasName).2.columns = aliases.columns := by
  have hadd : (aliases.add key aliasName).2.columns = aliases.columns := by
    unfold add
    cases explicit? aliasName with
    | some a => exact aliases.columns_assign key a
    | none => exact aliases.columns_get key
  exact hadd

end Aliases

end QueryLoom

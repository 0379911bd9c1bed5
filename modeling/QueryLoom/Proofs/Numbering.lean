import Mathlib.Data.Nat.Nth
import QueryLoom.Proofs.Direct

/-!
# Numbered aliases

A statement declares its tables in two passes.  The first pass registers the tables that have an
explicit alias, the second one generates an alias for each of the others.  By the second pass all
explicit aliases are known, so the `k`-th table without one gets the `k`-th name of `t1`, `t2`, …
that is not an explicit alias, wherever in the statement the explicit ones stand.

## Main definitions

* `Aliases.Free`: numbers whose name is not an explicit alias.
* `Aliases.numbered`: the free names in order.
* `Statement.tables`, `Statement.explicitAliases`, `Statement.unnamed`: what a statement declares.

## Main results

* `Aliases.nextNumber_spec`: the next generated alias is the first free name after the last one.
* `Aliases.addTable_explicit`, `Aliases.addTable_generated`: what declaring a table appends.
* `Statement.aliasOf_of_explicit`, `Statement.aliasOf_of_unnamed`: the alias of each table.
* `Statement.pairwise_aliasOf_ne`: a generated alias is the alias of no other table.
-/

namespace QueryLoom

namespace Aliases

/-! ## Free numbers -/

/-- Different numbers have different names. -/
theorem generated_injective : Function.Injective generated := by
  intro m n h
  have hdigits : toString m = toString n := (String.append_right_inj "t").mp h
  have hread : ∀ k : Nat, Nat.ofDigitChars 10 (toString k).toList 0 = k := by
    intro k
    rw [Nat.toString_eq_repr, Nat.toList_repr, Nat.ofDigitChars_ten_toDigits]
  rw [← hread m, hdigits, hread n]

/-- The numbers, counted from one, whose name is not an explicit alias. -/
def Free (explicit : List String) (n : Nat) : Prop :=
  0 < n ∧ generated n ∉ explicit

instance (explicit : List String) : DecidablePred (Free explicit) := fun _ =>
  inferInstanceAs (Decidable (_ ∧ _))

/-- The free names in order, the first one at zero. -/
noncomputable def numbered (explicit : List String) (k : Nat) : String :=
  generated (Nat.nth (Free explicit) k)

/-- Among numbers in a row, one more than there are names, there is one whose name is another. -/
theorem exists_generated_notMem (names : List String) (n : Nat) :
    ∃ m, n < m ∧ m ≤ n + names.length + 1 ∧ generated m ∉ names := by
  by_contra hnone
  push Not at hnone
  have hnodup : ((List.range' (n + 1) (names.length + 1)).map generated).Nodup :=
    (List.nodup_range' 1).map generated_injective
  have hsubset : (List.range' (n + 1) (names.length + 1)).map generated ⊆ names := by
    intro name hname
    obtain ⟨m, hm, rfl⟩ := List.mem_map.mp hname
    rw [List.mem_range'_1] at hm
    exact hnone m (by omega) (by omega)
  have hlength := (hnodup.subperm hsubset).length_le
  rw [List.length_map, List.length_range'] at hlength
  omega

/-- The free names never run out. -/
theorem infinite_free (explicit : List String) : (Set.ofPred (Free explicit)).Infinite := by
  apply Set.infinite_of_forall_exists_gt
  intro n
  obtain ⟨m, hlt, -, hfree⟩ := exists_generated_notMem explicit n
  exact ⟨m, ⟨by omega, hfree⟩, hlt⟩

theorem free_nth (explicit : List String) (k : Nat) : Free explicit (Nat.nth (Free explicit) k) :=
  Nat.nth_mem_of_infinite (infinite_free explicit) k

/-- A free name is no explicit alias. -/
theorem numbered_notMem (explicit : List String) (k : Nat) : numbered explicit k ∉ explicit :=
  (free_nth explicit k).2

/-- No two free names are the same. -/
theorem numbered_injective (explicit : List String) : Function.Injective (numbered explicit) :=
  generated_injective.comp (Nat.nth_injective (infinite_free explicit))

/-! ## The next number -/

theorem taken_iff (aliases : Aliases) (aliasName : String) :
    aliases.taken aliasName = true ↔ aliasName ∈ aliases.entries.map (·.aliasName) := by
  unfold taken
  rw [List.any_eq_true, List.mem_map]
  simp only [beq_iff_eq]

/-- The search stops at the first number after `n` whose name is free, if one is within reach. -/
theorem nextFree_spec (aliases : Aliases) (tries n : Nat)
    (h : ∃ m, n < m ∧ m ≤ n + tries + 1 ∧ aliases.taken (generated m) = false) :
    n < aliases.nextFree tries n ∧
      aliases.taken (generated (aliases.nextFree tries n)) = false ∧
      ∀ m, n < m → m < aliases.nextFree tries n → aliases.taken (generated m) = true := by
  induction tries generalizing n with
  | zero =>
      obtain ⟨m, hlt, hle, hfree⟩ := h
      obtain rfl : m = n + 1 := by omega
      exact ⟨Nat.lt_succ_self n, hfree, fun k hnk hk => by unfold nextFree at hk; omega⟩
  | succ tries ih =>
      unfold nextFree
      by_cases hnext : aliases.taken (generated (n + 1))
      · rw [if_pos hnext]
        have hlater : ∃ m, n + 1 < m ∧ m ≤ n + 1 + tries + 1 ∧
            aliases.taken (generated m) = false := by
          obtain ⟨m, hlt, hle, hfree⟩ := h
          have hne : m ≠ n + 1 := by
            rintro rfl
            rw [hnext] at hfree
            cases hfree
          exact ⟨m, by omega, by omega, hfree⟩
        obtain ⟨hlt, hfree, hbetween⟩ := ih (n + 1) hlater
        refine ⟨by omega, hfree, fun m hnm hm => ?_⟩
        rcases Nat.eq_or_lt_of_le hnm with rfl | hnm
        · exact hnext
        · exact hbetween m hnm hm
      · rw [if_neg hnext]
        exact ⟨Nat.lt_succ_self n, Bool.eq_false_iff.mpr hnext, fun m hnm hm => by omega⟩

/-- The next generated alias is the first free name after the last generated one. -/
theorem nextNumber_spec (aliases : Aliases) :
    aliases.sequence < aliases.nextNumber ∧
      generated aliases.nextNumber ∉ aliases.entries.map (·.aliasName) ∧
      ∀ m, aliases.sequence < m → m < aliases.nextNumber →
        generated m ∈ aliases.entries.map (·.aliasName) := by
  have hreach : ∃ m, aliases.sequence < m ∧
      m ≤ aliases.sequence + aliases.entries.length + 1 ∧
      aliases.taken (generated m) = false := by
    obtain ⟨m, hlt, hle, hfree⟩ :=
      exists_generated_notMem (aliases.entries.map (·.aliasName)) aliases.sequence
    rw [List.length_map] at hle
    exact ⟨m, hlt, hle, Bool.eq_false_iff.mpr fun h => hfree ((aliases.taken_iff _).mp h)⟩
  obtain ⟨hlt, hfree, hbetween⟩ := aliases.nextFree_spec _ _ hreach
  refine ⟨hlt, fun h => ?_, fun m hm hlt => (aliases.taken_iff _).mp (hbetween m hm hlt)⟩
  rw [← taken_iff] at h
  exact Bool.eq_false_iff.mp hfree h

/-! ## Registering a table -/

/-- The keys of the registered tables. -/
def keys (aliases : Aliases) : List TableKey := aliases.entries.map (·.key)

theorem has_iff (aliases : Aliases) (key : TableKey) :
    aliases.has key = true ↔ key ∈ aliases.keys := by
  unfold has entry? keys
  rw [List.find?_isSome, List.mem_map]
  simp only [beq_iff_eq]

theorem aliasOf_of_notMem {aliases : Aliases} {key : TableKey} (hnew : key ∉ aliases.keys) :
    aliases.aliasOf? key = none := by
  have hnone : ¬ (aliases.entry? key).isSome = true := fun h => hnew ((has_iff _ _).mp h)
  rw [aliasOf?, Option.not_isSome_iff_eq_none.mp hnone, Option.map_none]

/-- The alias of a registered table is the one it is registered with. -/
theorem aliasOf_of_mem {aliases : Aliases} (h : aliases.keys.Nodup) {e : AliasEntry}
    (he : e ∈ aliases.entries) : aliases.aliasOf? e.key = some e.aliasName := by
  unfold aliasOf? entry?
  cases hfound : aliases.entries.find? fun d => d.key == e.key with
  | none =>
      have hnone := List.find?_eq_none.mp hfound e he
      simp at hnone
  | some d =>
      have hkey : d.key = e.key := by simpa using List.find?_some hfound
      have hsame : d = e :=
        List.inj_on_of_nodup_map h (List.mem_of_find?_eq_some hfound) he hkey
      rw [hsame, Option.map_some]

/-- Only the last entry of a fresh key is changed by a change under the key. -/
private theorem modifyEntry_concat {aliases : Aliases} {e : AliasEntry}
    (hfresh : e.key ∉ aliases.keys) (sequence : Nat) (f : AliasEntry → AliasEntry) :
    ({ aliases with entries := aliases.entries ++ [e], sequence } : Aliases).modifyEntry e.key f =
      { aliases with entries := aliases.entries ++ [f e], sequence } := by
  have hothers : aliases.entries.map (fun d => if d.key = e.key then f d else d) =
      aliases.entries := by
    rw [List.map_congr_left (g := id), List.map_id]
    intro d hd
    have hne : d.key ≠ e.key := fun h => hfresh (h ▸ List.mem_map.mpr ⟨d, hd, rfl⟩)
    rw [if_neg hne]
    rfl
  unfold modifyEntry
  simp only [List.map_append, hothers, List.map_cons, List.map_nil, ↓reduceIte]

/-- A new table with an explicit alias is registered under it. -/
theorem addTable_explicit {aliases : Aliases} {key : TableKey} (hfresh : key ∉ aliases.keys)
    (table : String) {given : Option String} {aliasName : String}
    (hgiven : explicit? given = some aliasName) :
    (aliases.addTable key table given).2 =
      { aliases with entries := aliases.entries ++ [⟨key, some table, aliasName⟩] } := by
  have hnew : aliases.has key = false := Bool.eq_false_iff.mpr fun h => hfresh ((has_iff _ _).mp h)
  unfold addTable add
  simp only [hgiven, assign, hnew, Bool.false_eq_true, ↓reduceIte]
  exact modifyEntry_concat (e := ⟨key, none, aliasName⟩) hfresh aliases.sequence _

/-- A new table without an explicit alias is registered under the next generated one. -/
theorem addTable_generated {aliases : Aliases} {key : TableKey} (hfresh : key ∉ aliases.keys)
    (table : String) {given : Option String} (hgiven : explicit? given = none) :
    (aliases.addTable key table given).2 =
      { aliases with
        entries := aliases.entries ++ [⟨key, some table, generated aliases.nextNumber⟩]
        sequence := aliases.nextNumber } := by
  have hnew : aliases.aliasOf? key = none := aliasOf_of_notMem hfresh
  unfold addTable add
  simp only [hgiven, get, hnew, generate]
  exact modifyEntry_concat (e := ⟨key, none, generated aliases.nextNumber⟩) hfresh _ _

/-- A registered table with a fresh key keeps the keys apart. -/
theorem nodup_keys_concat {aliases aliases' : Aliases} {e : AliasEntry}
    (hentries : aliases'.entries = aliases.entries ++ [e]) (hfresh : e.key ∉ aliases.keys)
    (h : aliases.keys.Nodup) : aliases'.keys.Nodup := by
  unfold keys at hfresh h ⊢
  rw [hentries, List.map_append, List.map_singleton, ← List.concat_eq_append]
  exact h.concat hfresh

end Aliases

/-! ## Declared tables -/

/-- The entry of a declared table. -/
def TableRef.entry (table : TableRef) (aliasName : String) : AliasEntry :=
  ⟨table.key, some table.source.directName, aliasName⟩

/-- The entry of a table with an explicit alias. -/
def TableRef.explicitEntry? (table : TableRef) : Option AliasEntry :=
  table.explicitAlias?.map table.entry

/-- A table that is declared was not declared before. -/
theorem TableRef.directDeclare_eq_ok {table : TableRef} {aliases aliases' : Aliases}
    (h : table.directDeclare aliases = .ok aliases') :
    table.key ∉ aliases.keys ∧
      aliases' = (aliases.addTable table.key table.source.directName table.aliasName).2 := by
  unfold directDeclare at h
  by_cases hhas : aliases.has table.key
  · rw [if_pos hhas] at h
    cases h
  · rw [if_neg hhas] at h
    cases h
    exact ⟨fun hkey => hhas ((Aliases.has_iff _ _).mpr hkey), rfl⟩

/-- The table that is declared. -/
def Declaration.table? : Declaration → Option TableRef
  | .table t => some t
  | .column .. => none

/-- The first pass appends the tables with an explicit alias, under distinct keys. -/
theorem Declaration.foldlM_directExplicit {declarations : List Declaration}
    {aliases aliases' : Aliases} (hkeys : aliases.keys.Nodup)
    (h : declarations.foldlM directExplicit aliases = .ok aliases') :
    aliases'.entries = aliases.entries ++
        (declarations.filterMap table?).filterMap TableRef.explicitEntry? ∧
      aliases'.sequence = aliases.sequence ∧ aliases'.keys.Nodup := by
  induction declarations generalizing aliases with
  | nil =>
      cases h
      exact ⟨(List.append_nil _).symm, rfl, hkeys⟩
  | cons declaration rest ih =>
      rw [List.foldlM_cons] at h
      obtain ⟨next, hnext, h⟩ := exists_of_bind_eq_ok h
      cases declaration with
      | column f aliasName =>
          cases hnext
          exact @ih (aliases.addColumn f aliasName) hkeys h
      | table t =>
          unfold directExplicit at hnext
          cases hgiven : t.explicitAlias? with
          | none =>
              simp only [hgiven, Option.isSome_none, Bool.false_eq_true, ↓reduceIte] at hnext
              cases hnext
              have hskip : t.explicitEntry? = none := by
                rw [TableRef.explicitEntry?, hgiven, Option.map_none]
              simpa only [List.filterMap_cons, table?, hskip] using ih hkeys h
          | some aliasName =>
              simp only [hgiven, Option.isSome_some, ↓reduceIte] at hnext
              obtain ⟨hfresh, rfl⟩ := TableRef.directDeclare_eq_ok hnext
              have hadded := Aliases.addTable_explicit hfresh t.source.directName hgiven
              have hentries := congrArg Aliases.entries hadded
              have hsequence := congrArg Aliases.sequence hadded
              have hentry : t.explicitEntry? = some (t.entry aliasName) := by
                rw [TableRef.explicitEntry?, hgiven, Option.map_some]
              obtain ⟨hrest, hlast, hnodup⟩ :=
                ih (Aliases.nodup_keys_concat hentries hfresh hkeys) h
              refine ⟨?_, hlast.trans hsequence, hnodup⟩
              rw [hrest, hentries]
              simp only [List.filterMap_cons, table?, hentry, List.append_assoc]
              rfl

/-- After explicit entries, tables are registered under the free names in order. -/
structure Aliases.Numbered (explicit : List AliasEntry) (tables : List TableRef)
    (aliases : Aliases) : Prop where
  entries : aliases.entries = explicit ++ tables.mapIdx fun k t =>
    t.entry (numbered (explicit.map (·.aliasName)) k)
  count : Nat.count (Free (explicit.map (·.aliasName))) (aliases.sequence + 1) = tables.length
  keys : aliases.keys.Nodup

namespace Aliases.Numbered

variable {explicit : List AliasEntry} {tables : List TableRef} {aliases : Aliases}

theorem mem_names_iff (h : aliases.Numbered explicit tables) (name : String) :
    name ∈ aliases.entries.map (·.aliasName) ↔ name ∈ explicit.map (·.aliasName) ∨
      ∃ k < tables.length, name = numbered (explicit.map (·.aliasName)) k := by
  rw [h.entries, List.map_append, List.mem_append]
  refine or_congr_right ?_
  constructor
  · intro hname
    obtain ⟨e, he, rfl⟩ := List.mem_map.mp hname
    obtain ⟨k, hk, rfl⟩ := List.mem_mapIdx.mp he
    exact ⟨k, hk, rfl⟩
  · rintro ⟨k, hk, rfl⟩
    exact List.mem_map.mpr ⟨_, List.mem_mapIdx.mpr ⟨k, hk, rfl⟩, rfl⟩

/-- The next generated alias is the next free name. -/
theorem nextNumber_eq (h : aliases.Numbered explicit tables) :
    generated aliases.nextNumber = numbered (explicit.map (·.aliasName)) tables.length ∧
      Nat.count (Free (explicit.map (·.aliasName))) (aliases.nextNumber + 1) =
        tables.length + 1 := by
  obtain ⟨hlt, hnew, hbetween⟩ := aliases.nextNumber_spec
  have hfree : Free (explicit.map (·.aliasName)) aliases.nextNumber :=
    ⟨by omega, fun hmem => hnew ((h.mem_names_iff _).mpr (.inl hmem))⟩
  -- what is taken beyond the last generated alias is taken by an explicit one
  have hskipped : ∀ m, aliases.sequence < m → m < aliases.nextNumber →
      ¬ Free (explicit.map (·.aliasName)) m := by
    intro m hm hmn hfree
    rcases (h.mem_names_iff _).mp (hbetween m hm hmn) with hexplicit | ⟨k, hk, hgenerated⟩
    · exact hfree.2 hexplicit
    · rw [generated_injective hgenerated] at hm
      rw [← h.count] at hk
      have hold := Nat.nth_lt_of_lt_count hk
      omega
  have hcount : Nat.count (Free (explicit.map (·.aliasName))) aliases.nextNumber =
      tables.length := by
    obtain ⟨d, hd⟩ :=
      Nat.exists_eq_add_of_le (show aliases.sequence + 1 ≤ aliases.nextNumber from hlt)
    rw [hd, Nat.count_add, h.count, Nat.count_iff_forall_not.mpr, Nat.add_zero]
    intro m hm
    exact hskipped _ (by omega) (by omega)
  refine ⟨?_, ?_⟩
  · rw [numbered, ← hcount, Nat.nth_count hfree]
  · rw [Nat.count_succ, if_pos hfree, hcount]

/-- Declaring a table without an explicit alias uses up one free name. -/
theorem declare (h : aliases.Numbered explicit tables) {table : TableRef} {aliases' : Aliases}
    (hgiven : table.explicitAlias? = none) (hdeclare : table.directDeclare aliases = .ok aliases') :
    aliases'.Numbered explicit (tables ++ [table]) := by
  obtain ⟨hfresh, rfl⟩ := TableRef.directDeclare_eq_ok hdeclare
  have hadded := addTable_generated hfresh table.source.directName hgiven
  obtain ⟨hname, hcount⟩ := h.nextNumber_eq
  rw [hadded]
  refine ⟨?_, ?_, nodup_keys_concat rfl hfresh h.keys⟩
  · rw [List.mapIdx_concat, ← List.append_assoc, ← h.entries, ← hname]
    rfl
  · rw [List.length_append]
    exact hcount

/-- The second pass declares the tables without an explicit alias. -/
theorem foldlM_directImplicit (h : aliases.Numbered explicit tables)
    {declarations : List Declaration} {aliases' : Aliases}
    (hpass : declarations.foldlM Declaration.directImplicit aliases = .ok aliases') :
    aliases'.Numbered explicit (tables ++
      (declarations.filterMap Declaration.table?).filter (·.explicitAlias?.isNone)) := by
  induction declarations generalizing aliases tables with
  | nil =>
      cases hpass
      simpa using h
  | cons declaration rest ih =>
      rw [List.foldlM_cons] at hpass
      obtain ⟨next, hnext, hrest⟩ := exists_of_bind_eq_ok hpass
      cases declaration with
      | column f aliasName =>
          cases hnext
          exact ih h hrest
      | table t =>
          unfold Declaration.directImplicit at hnext
          cases hgiven : t.explicitAlias? with
          | some aliasName =>
              simp only [hgiven, Option.isSome_some, ↓reduceIte] at hnext
              cases hnext
              simpa [Declaration.table?, hgiven] using ih h hrest
          | none =>
              simp only [hgiven, Option.isSome_none, Bool.false_eq_true, ↓reduceIte] at hnext
              simpa [Declaration.table?, hgiven] using ih (h.declare hgiven hnext) hrest

end Aliases.Numbered

/-! ## The aliases of a statement -/

namespace Statement

/-- The tables that a statement declares, in order. -/
def tables (statement : Statement) : List TableRef :=
  statement.declarations.filterMap Declaration.table?

/-- The explicit aliases of a statement. -/
def explicitAliases (statement : Statement) : List String :=
  statement.tables.filterMap TableRef.explicitAlias?

/-- The tables without an explicit alias, in order. -/
def unnamed (statement : Statement) : List TableRef :=
  statement.tables.filter (·.explicitAlias?.isNone)

/-- Declaring a statement registers its tables with an explicit alias, and then the others under
the free names in order. -/
theorem numbered_of_directAliases {statement : Statement} {aliases : Aliases}
    (h : statement.directAliases = .ok aliases) :
    aliases.Numbered (statement.tables.filterMap TableRef.explicitEntry?) statement.unnamed := by
  unfold directAliases at h
  obtain ⟨named, hnamed, h⟩ := exists_of_bind_eq_ok h
  have hnone : Aliases.empty.keys.Nodup := List.nodup_nil
  obtain ⟨hentries, hsequence, hkeys⟩ := Declaration.foldlM_directExplicit hnone hnamed
  have hstart : named.Numbered (statement.tables.filterMap TableRef.explicitEntry?) [] := by
    refine ⟨hentries.trans (List.append_nil _).symm, ?_, hkeys⟩
    rw [hsequence]
    refine Nat.count_iff_forall_not.mpr fun m hm hfree => ?_
    obtain rfl : m = 0 := Nat.lt_one_iff.mp hm
    exact Nat.lt_irrefl 0 hfree.1
  exact hstart.foldlM_directImplicit h

theorem names_of_explicitEntries (statement : Statement) :
    (statement.tables.filterMap TableRef.explicitEntry?).map (·.aliasName) =
      statement.explicitAliases := by
  have hname : ∀ t : TableRef, t.explicitEntry?.map (·.aliasName) = t.explicitAlias? := by
    intro t
    unfold TableRef.explicitEntry?
    cases t.explicitAlias? <;> rfl
  rw [List.map_filterMap, explicitAliases]
  exact List.filterMap_congr fun t _ => hname t

section Declared

variable {statement : Statement} {aliases : Aliases}

theorem exists_unnamed {t : TableRef} (ht : t ∈ statement.tables)
    (hnone : t.explicitAlias? = none) : ∃ k : Nat, statement.unnamed[k]? = some t :=
  List.mem_iff_getElem?.mp (List.mem_filter.mpr ⟨ht, by rw [hnone]; rfl⟩)

/-- A table with an explicit alias has it. -/
theorem aliasOf_of_explicit (h : statement.directAliases = .ok aliases) {t : TableRef}
    (ht : t ∈ statement.tables) {aliasName : String} (hgiven : t.explicitAlias? = some aliasName) :
    aliases.aliasOf? t.key = some aliasName := by
  have hnumbered := numbered_of_directAliases h
  have hentry : t.explicitEntry? = some (t.entry aliasName) := by
    rw [TableRef.explicitEntry?, hgiven, Option.map_some]
  have hmem : t.entry aliasName ∈ aliases.entries := by
    rw [hnumbered.entries]
    exact List.mem_append_left _ (List.mem_filterMap.mpr ⟨t, ht, hentry⟩)
  exact Aliases.aliasOf_of_mem hnumbered.keys hmem

/-- The `k`-th table without an explicit alias has the `k`-th free name. -/
theorem aliasOf_of_unnamed (h : statement.directAliases = .ok aliases) {k : Nat} {t : TableRef}
    (ht : statement.unnamed[k]? = some t) :
    aliases.aliasOf? t.key = some (Aliases.numbered statement.explicitAliases k) := by
  have hnumbered := numbered_of_directAliases h
  obtain ⟨hk, rfl⟩ := List.getElem?_eq_some_iff.mp ht
  rw [← statement.names_of_explicitEntries]
  have hmem : statement.unnamed[k].entry (Aliases.numbered
      ((statement.tables.filterMap TableRef.explicitEntry?).map (·.aliasName)) k) ∈
        aliases.entries := by
    rw [hnumbered.entries]
    exact List.mem_append_right _ (List.mem_mapIdx.mpr ⟨k, hk, rfl⟩)
  exact Aliases.aliasOf_of_mem hnumbered.keys hmem

/-- Every declared table has an alias. -/
theorem exists_aliasOf (h : statement.directAliases = .ok aliases) {t : TableRef}
    (ht : t ∈ statement.tables) : ∃ aliasName, aliases.aliasOf? t.key = some aliasName := by
  cases hgiven : t.explicitAlias? with
  | some aliasName => exact ⟨aliasName, aliasOf_of_explicit h ht hgiven⟩
  | none =>
      obtain ⟨k, hk⟩ := exists_unnamed ht hgiven
      exact ⟨_, aliasOf_of_unnamed h hk⟩

/-- No two declared tables have the same key. -/
theorem nodup_keys (h : statement.directAliases = .ok aliases) :
    (statement.tables.map TableRef.key).Nodup := by
  have hnumbered := numbered_of_directAliases h
  have hexplicit : ∀ ts : List TableRef, (ts.filterMap TableRef.explicitEntry?).map (·.key) =
      (ts.filter fun t => !t.explicitAlias?.isNone).map TableRef.key := by
    intro ts
    induction ts with
    | nil => rfl
    | cons t ts ih =>
        cases hgiven : t.explicitAlias? with
        | none => simpa [TableRef.explicitEntry?, hgiven] using ih
        | some aliasName => simpa [TableRef.explicitEntry?, hgiven, TableRef.entry] using ih
  have hunnamed : ∀ (ts : List TableRef) (name : Nat → String),
      (ts.mapIdx fun k t => t.entry (name k)).map (·.key) = ts.map TableRef.key := by
    intro ts name
    refine List.ext_getElem (by simp) fun i h₁ h₂ => ?_
    simp [TableRef.entry]
  have hkeys := hnumbered.keys
  rw [Aliases.keys, hnumbered.entries, List.map_append, hexplicit, hunnamed,
    ← List.map_append] at hkeys
  have hperm : ((statement.tables.filter fun t => !t.explicitAlias?.isNone) ++
      statement.unnamed).Perm statement.tables :=
    List.perm_append_comm.trans (List.filter_append_perm _ _)
  exact (hperm.map TableRef.key).nodup_iff.mp hkeys

/-- A generated alias is the alias of no other table. -/
theorem aliasOf_ne_of_unnamed (h : statement.directAliases = .ok aliases) {t u : TableRef}
    (ht : t ∈ statement.tables) (hu : u ∈ statement.tables) (hkey : t.key ≠ u.key)
    (hnone : t.explicitAlias? = none) : aliases.aliasOf? t.key ≠ aliases.aliasOf? u.key := by
  obtain ⟨k, hk⟩ := exists_unnamed ht hnone
  rw [aliasOf_of_unnamed h hk]
  intro hsame
  cases hgiven : u.explicitAlias? with
  | some aliasName =>
      rw [aliasOf_of_explicit h hu hgiven] at hsame
      have hexplicit : aliasName ∈ statement.explicitAliases :=
        List.mem_filterMap.mpr ⟨u, hu, hgiven⟩
      exact Aliases.numbered_notMem _ k (Option.some.inj hsame ▸ hexplicit)
  | none =>
      obtain ⟨l, hl⟩ := exists_unnamed hu hgiven
      rw [aliasOf_of_unnamed h hl] at hsame
      obtain rfl : k = l := Aliases.numbered_injective _ (Option.some.inj hsame)
      exact hkey (congrArg TableRef.key (Option.some.inj (hk.symm.trans hl)))

/-- So among the tables of a statement, in order, no two share an alias unless both gave it. -/
theorem pairwise_aliasOf_ne (h : statement.directAliases = .ok aliases) :
    statement.tables.Pairwise fun t u => t.explicitAlias? = none ∨ u.explicitAlias? = none →
      aliases.aliasOf? t.key ≠ aliases.aliasOf? u.key := by
  have hkeys := List.pairwise_map.mp (nodup_keys h)
  refine List.Pairwise.imp_of_mem (fun {t u} ht hu hkey => ?_) hkeys
  rintro (hnone | hnone)
  · exact aliasOf_ne_of_unnamed h ht hu hkey hnone
  · exact (aliasOf_ne_of_unnamed h hu ht (Ne.symm hkey) hnone).symm

end Declared

end Statement

/-! ## The tables of a chain -/

/-- The table that a segment mentions with its alias. -/
def Segment.table? : Segment → Option TableRef
  | .table t => some t
  | _ => none

namespace Chain

/-- The tables of a chain, in the order of the calls. -/
def tables : {s : Stage} → Chain s → List TableRef
  | _, .select _ => []
  | _, .fromTable chain table => chain.tables ++ [table]
  | _, .join chain _ table => chain.tables ++ [table]
  | _, .on chain _ => chain.tables
  | _, .unconditioned chain => chain.tables
  | _, .matching chain _ => chain.tables
  | _, .groupBy _ chain _ => chain.tables
  | _, .having chain _ => chain.tables
  | _, .order _ chain _ => chain.tables
  | _, .limit _ chain _ => chain.tables
  | _, .offset _ chain _ => chain.tables
  | _, .update _ => []
  | _, .set chain _ _ => chain.tables
  | _, .setNull chain _ => chain.tables
  | _, .setColumn chain _ _ => chain.tables
  | _, .assign _ => []
  | _, .choosing chain _ => chain.tables

/-- A statement declares the tables that its segments mention, in the same order. -/
structure Lists (statement : Statement) (tables : List TableRef) : Prop where
  declared : statement.tables = tables
  mentioned : statement.segments.filterMap Segment.table? = tables

namespace Lists

variable {statement : Statement} {tables : List TableRef}

/-- Segments that mention no table change nothing. -/
theorem append (h : Lists statement tables) {segments : List Segment}
    (hnone : segments.filterMap Segment.table? = []) :
    Lists (statement.append segments) tables := by
  refine ⟨h.declared, ?_⟩
  rw [Statement.append, List.filterMap_append, h.mentioned, hnone, List.append_nil]

theorem clause (h : Lists statement tables) (keyword : String) (query : Query) :
    Lists (statement.clause keyword query) tables := by
  unfold Statement.clause
  by_cases hempty : query.isEmpty
  · rwa [if_pos hempty]
  · rw [if_neg hempty]
    exact h.append rfl

theorem paging (h : Lists statement tables) (n : Int) {segment : Nat → Segment}
    (hnone : ∀ n, (segment n).table? = none) (fault : Int → ValidationFault) :
    Lists (Chain.paging statement n segment fault) tables := by
  cases n with
  | ofNat n => exact h.append (by simp [hnone])
  | negSucc n => exact ⟨h.declared, h.mentioned⟩

/-- A table is declared and mentioned at once. -/
theorem table (h : Lists statement tables) {segments : List Segment} {t : TableRef}
    (hsegments : segments.filterMap Segment.table? = [t]) :
    Lists ((statement.append segments).declare [.table t]) (tables ++ [t]) := by
  refine ⟨?_, ?_⟩
  · rw [← h.declared]
    simp [Statement.tables, Statement.declare, Statement.append, Declaration.table?]
  · rw [← h.mentioned, ← hsegments]
    simp [Statement.declare, Statement.append]

end Lists

/-- The statement of a chain declares and mentions the tables of the chain. -/
theorem lists_statement {s : Stage} (chain : Chain s) : Lists chain.statement chain.tables := by
  have hnothing : Lists Statement.empty [] := ⟨rfl, rfl⟩
  induction chain with
  | select items =>
      refine ⟨?_, rfl⟩
      show (columnDeclarations items).filterMap Declaration.table? = []
      rw [columnDeclarations, List.filterMap_filterMap, List.filterMap_eq_nil_iff]
      intro item _
      cases item <;> rfl
  | fromTable chain table ih =>
      have hfrom : [.selection chain.selection, .keyword "FROM", .table table].filterMap
          Segment.table? = [table] := rfl
      have hnamed := ih.table hfrom
      exact ⟨hnamed.declared, hnamed.mentioned⟩
  | join chain kind table ih => exact ih.table rfl
  | on chain query ih => exact ih.clause "ON" query
  | unconditioned chain ih => exact ih
  | matching chain query ih => exact ih.clause "WHERE" query
  | groupBy groupable chain columns ih =>
      rw [statement]
      by_cases hnone : columns.isEmpty
      · rwa [if_pos hnone]
      · rw [if_neg hnone]
        exact ih.append rfl
  | having chain query ih => exact ih.clause "HAVING" query
  | order orderable chain orders ih =>
      rw [statement]
      by_cases hnone : orders.isEmpty
      · rwa [if_pos hnone]
      · rw [if_neg hnone]
        exact ih.append rfl
  | limit limitable chain n ih => exact ih.paging n (fun _ => rfl) _
  | offset limitable chain n ih => exact ih.paging n (fun _ => rfl) _
  | update table => exact hnothing
  | set chain target value ih => exact ih
  | setNull chain target ih => exact ih
  | setColumn chain target source ih => exact ih
  | assign chain ih =>
      rw [statement]
      unfold updateStatement
      by_cases hnone : chain.assignments.isEmpty
      · rw [if_pos hnone]
        exact ⟨rfl, rfl⟩
      · rw [if_neg hnone]
        exact ⟨rfl, rfl⟩
  | choosing chain query ih => exact ih.clause "WHERE" query

end Chain

end QueryLoom

import QueryLoom.Proofs.Numbering

/-!
# The search for a free alias

The next generated alias is searched for in a loop that counts the sequence up until the name of its
number is the alias of no table.  Nothing in the loop bounds it.  It is left all the same, and after
no more rounds than there are tables and one: every round but the last one comes upon the alias of a
table, and as different numbers have different names, no two rounds come upon the same alias.

## Main definitions

* `Aliases.round`, `Aliases.Search`: a round of the loop, and the loop until it is left.

## Main results

* `Aliases.Search.unique`: there is only one way through the loop.
* `Aliases.exists_search`: the loop is left when it comes upon a free name.
* `Aliases.isLeast_nextNumber`, `Aliases.nextNumber_le`: the number that is found.
* `search_ends_within_the_tables`: the summary.
-/

namespace QueryLoom

namespace Aliases

/-! ## The loop -/

/-- A round of the loop: the sequence goes on, and the loop is left with the name of its number if
that is the alias of no table. -/
def round (aliases : Aliases) : Aliases × Option String :=
  let next := { aliases with sequence := aliases.sequence + 1 }
  let candidate := generated next.sequence
  (next, if next.taken candidate then none else some candidate)

/-- A number of rounds until the loop is left with a name. -/
inductive Search : Nat → Aliases → String → Aliases → Prop where
  | found {aliases last : Aliases} {name : String} :
      aliases.round = (last, some name) → Search 1 aliases name last
  | next {rounds : Nat} {aliases mid last : Aliases} {name : String} :
      aliases.round = (mid, none) → Search rounds mid name last →
        Search (rounds + 1) aliases name last

variable {aliases : Aliases}

/-- A round leads to one place only, so there is only one way through the loop. -/
theorem Search.unique {rounds others : Nat} {name other : String} {last end' : Aliases}
    (h : Search rounds aliases name last) (hother : Search others aliases other end') :
    others = rounds ∧ other = name ∧ end' = last := by
  induction h generalizing others with
  | found hround =>
      cases hother with
      | found hround' =>
          cases hround.symm.trans hround'
          exact ⟨rfl, rfl, rfl⟩
      | next hround' => cases hround.symm.trans hround'
  | next hround _ ih =>
      cases hother with
      | found hround' => cases hround.symm.trans hround'
      | next hround' hrest =>
          cases hround.symm.trans hround'
          obtain ⟨rfl, hname, hend⟩ := ih hrest
          exact ⟨rfl, hname, hend⟩

theorem round_of_taken (h : generated (aliases.sequence + 1) ∈ aliases.entries.map (·.aliasName)) :
    aliases.round = ({ aliases with sequence := aliases.sequence + 1 }, none) := by
  have htaken := (aliases.taken_iff _).mpr h
  exact congrArg (Prod.mk _) (if_pos htaken)

theorem round_of_free (h : generated (aliases.sequence + 1) ∉ aliases.entries.map (·.aliasName)) :
    aliases.round = ({ aliases with sequence := aliases.sequence + 1 },
      some (generated (aliases.sequence + 1))) := by
  have hfree : ¬ aliases.taken (generated (aliases.sequence + 1)) = true :=
    fun htaken => h ((aliases.taken_iff _).mp htaken)
  exact congrArg (Prod.mk _) (if_neg hfree)

/-- Behind names that are taken the loop is left with the first one that is free. -/
theorem exists_search (skipped : Nat)
    (htaken : ∀ m, aliases.sequence < m → m ≤ aliases.sequence + skipped →
      generated m ∈ aliases.entries.map (·.aliasName))
    (hfree : generated (aliases.sequence + skipped + 1) ∉ aliases.entries.map (·.aliasName)) :
    Search (skipped + 1) aliases (generated (aliases.sequence + skipped + 1))
      { aliases with sequence := aliases.sequence + skipped + 1 } := by
  -- a round changes the sequence only, so the names that are taken stay the same
  induction skipped generalizing aliases with
  | zero => exact .found (round_of_free hfree)
  | succ skipped ih =>
      have hround := round_of_taken (htaken _ (Nat.lt_succ_self _) (by omega))
      have hnext : aliases.sequence + (skipped + 1) + 1 = aliases.sequence + 1 + skipped + 1 := by
        omega
      have hlater : ∀ m, aliases.sequence + 1 < m → m ≤ aliases.sequence + 1 + skipped →
          generated m ∈ aliases.entries.map (·.aliasName) :=
        fun m hm hle => htaken m (Nat.lt_of_succ_lt hm) (by omega)
      rw [hnext] at hfree ⊢
      exact .next hround (@ih { aliases with sequence := aliases.sequence + 1 } hlater hfree)

/-! ## The number that is found -/

/-- The next number is the least one behind the sequence whose name is the alias of no table. -/
theorem isLeast_nextNumber (aliases : Aliases) :
    IsLeast {m | aliases.sequence < m ∧ ∀ e ∈ aliases.entries, e.aliasName ≠ generated m}
      aliases.nextNumber := by
  obtain ⟨hlt, hfree, hbetween⟩ := aliases.nextNumber_spec
  constructor
  · exact ⟨hlt, fun e he hname => hfree (List.mem_map.mpr ⟨e, he, hname⟩)⟩
  · rintro m ⟨hm, hnone⟩
    by_contra hless
    obtain ⟨e, he, hname⟩ := List.mem_map.mp (hbetween m hm (Nat.lt_of_not_le hless))
    exact hnone e he hname

/-- Among one more number than there are tables one has a free name. -/
theorem nextNumber_le (aliases : Aliases) :
    aliases.nextNumber ≤ aliases.sequence + aliases.tableCount + 1 := by
  obtain ⟨m, hlt, hle, hfree⟩ :=
    exists_generated_notMem (aliases.entries.map (·.aliasName)) aliases.sequence
  have hleast := aliases.isLeast_nextNumber.2
    ⟨hlt, fun e he hname => hfree (List.mem_map.mpr ⟨e, he, hname⟩)⟩
  rw [List.length_map] at hle
  exact hleast.trans hle

/-- So the loop is left with the next generated alias. -/
theorem search_nextNumber (aliases : Aliases) :
    Search (aliases.nextNumber - aliases.sequence) aliases (generated aliases.nextNumber)
      { aliases with sequence := aliases.nextNumber } := by
  obtain ⟨hlt, hfree, hbetween⟩ := aliases.nextNumber_spec
  obtain ⟨skipped, hskipped⟩ := Nat.exists_eq_add_of_lt hlt
  have hrounds : aliases.nextNumber - aliases.sequence = skipped + 1 := by omega
  rw [hrounds]
  rw [hskipped] at hfree hbetween ⊢
  exact exists_search skipped (fun m hm hle => hbetween m hm (Nat.lt_succ_of_le hle)) hfree

end Aliases

/-! ## Summary -/

open Aliases

/-- Let tables be registered in any way, and let an alias be asked for a table that is not among
them.  The loop is left, in one way only, and after no more rounds than there are tables and one.
The number of rounds is how far the sequence has gone on, and it stands at the least number behind
the old one whose name is the alias of no table.  The name of this number is the alias of the new
table, and nothing else has changed. -/
theorem search_ends_within_the_tables (aliases : Aliases) (key : TableKey)
    (hunknown : key ∉ aliases.keys) :
    ∃ rounds number last,
      Search rounds aliases (generated number) last ∧
      (∀ others name end', Search others aliases name end' →
        others = rounds ∧ name = generated number ∧ end' = last) ∧
      rounds ≤ aliases.tableCount + 1 ∧ number = aliases.sequence + rounds ∧
      IsLeast {m | aliases.sequence < m ∧ ∀ e ∈ aliases.entries, e.aliasName ≠ generated m} number ∧
      number ≤ aliases.sequence + aliases.tableCount + 1 ∧
      last = { aliases with sequence := number } ∧
      aliases.get key = (generated number,
        { last with entries := last.entries ++ [⟨key, none, generated number⟩] }) := by
  have hsearch := aliases.search_nextNumber
  have hleast := aliases.isLeast_nextNumber
  have hbound := aliases.nextNumber_le
  have hlt := hleast.1.1
  refine ⟨_, _, _, hsearch, fun others name end' => hsearch.unique, by omega, by omega, hleast,
    hbound, rfl, ?_⟩
  rw [Aliases.get, aliasOf_of_notMem hunknown]
  rfl

/-- Explicit aliases that look like the first two generated ones take up both rounds that two tables
can take up; the third round finds `t3`. -/
theorem third_round_finds_a_name :
    let aliases := ((Aliases.empty.add (.named "a") (some "t2")).2.add (.named "b") (some "t1")).2
    .named "c" ∉ aliases.keys ∧
    ∃ last, Search 3 aliases "t3" last ∧ 3 = aliases.tableCount + 1 ∧ last.sequence = 3 ∧
      (aliases.get (.named "c")).1 = "t3" := by
  intro aliases
  have hunknown : .named "c" ∉ aliases.keys := by decide
  obtain ⟨rounds, number, last, hsearch, hunique, -, -, -, -, hlast, hget⟩ :=
    search_ends_within_the_tables aliases (.named "c") hunknown
  have hfirst : aliases.round = ({ aliases with sequence := 1 }, none) := by decide
  have hsecond : ({ aliases with sequence := 1 } : Aliases).round =
      ({ aliases with sequence := 2 }, none) := by decide
  have hthird : Search 3 aliases "t3" { aliases with sequence := 3 } :=
    .next hfirst (.next hsecond (.found (by decide)))
  obtain ⟨rfl, hname, rfl⟩ := hunique _ _ _ hthird
  exact ⟨hunknown, _, hthird, rfl, rfl, by rw [hget, ← hname]⟩

end QueryLoom

import QueryLoom.Proofs.Numbering

/-!
# Aliases that are issued once

The aliases of a statement are used in any order: tables are registered with and without explicit
aliases, asked for and looked at, columns get aliases of their own, and everything may be dropped.
An explicit alias may look like a generated one, and may take the place of one, which frees a name
that was generated before.  Still no name is generated twice until everything is dropped, since
the numbers of the generated aliases only go up, and a table keeps its alias until it is given
another one.

## Main definitions

* `Aliases.Operation`: the operations, with what they leave and what they answer.
* `Aliases.Operation.given?`, `Aliases.Operation.generated?`: the alias that an operation gives to a
  table, and the one that it generates.
* `Aliases.Log`: aliases in use, with those that were generated since they were dropped last.

## Main results

* `Aliases.Operation.effect_apply`: what an operation can do to the tables.
* `Aliases.Log.issuing_after`: the invariant of the aliases in use.
* `Aliases.Log.aliasOf_stays`: a table keeps its alias.
* `aliases_are_issued_once`: the summary.
-/

namespace QueryLoom

namespace Aliases

/-! ## Registered tables -/

section Entries

variable (aliases : Aliases) (key : TableKey)

/-- A change of entries that keeps their keys changes the entry of its key only. -/
theorem entry?_modifyEntry {f : AliasEntry → AliasEntry} (hf : ∀ e, (f e).key = e.key)
    (k : TableKey) : entry? (aliases.modifyEntry key f) k =
      (aliases.entry? k).map fun e => if e.key = key then f e else e := by
  have hkeys : ∀ e : AliasEntry, (if e.key = key then f e else e).key = e.key := by
    intro e
    split
    · exact hf e
    · rfl
  unfold modifyEntry entry?
  rw [List.find?_map]
  simp only [Function.comp_def, hkeys]

theorem keys_modifyEntry {f : AliasEntry → AliasEntry} (hf : ∀ e, (f e).key = e.key) :
    (aliases.modifyEntry key f).keys = aliases.keys := by
  unfold modifyEntry keys
  rw [List.map_map]
  refine List.map_congr_left fun e _ => ?_
  simp only [Function.comp_apply]
  split
  · exact hf e
  · rfl

/-- A physical name is no matter of aliases. -/
theorem aliasOf_withTable (table : String) (k : TableKey) :
    (aliases.modifyEntry key fun e => { e with table := some table }).aliasOf? k =
      aliases.aliasOf? k := by
  have hentry := aliases.entry?_modifyEntry key (f := fun e => { e with table := some table })
    (fun _ => rfl) k
  rw [aliasOf?, aliasOf?, hentry, Option.map_map]
  congr 1
  funext e
  simp only [Function.comp_apply]
  split <;> rfl

variable {aliases key}

/-- A new table has the alias that it is registered with, and the others keep theirs. -/
theorem aliasOf_concat {e : AliasEntry} (hnew : e.key ∉ aliases.keys) (sequence : Nat)
    (k : TableKey) :
    ({ aliases with entries := aliases.entries ++ [e], sequence } : Aliases).aliasOf? k =
      if k = e.key then some e.aliasName else aliases.aliasOf? k := by
  unfold aliasOf? entry?
  rw [List.find?_append]
  by_cases hk : k = e.key
  · have hnone : aliases.entries.find? (fun d => d.key == e.key) = none := by
      simpa [aliasOf?, entry?] using aliasOf_of_notMem hnew
    rw [if_pos hk, hk, hnone]
    simp
  · have hother : [e].find? (fun d => d.key == k) = none := by simp [Ne.symm hk]
    rw [if_neg hk, hother, Option.or_none]

/-- A table that is given an alias has it from then on, and the others keep theirs. -/
theorem aliasOf_assign (aliases : Aliases) (key : TableKey) (aliasName : String) (k : TableKey) :
    (aliases.assign key aliasName).aliasOf? k =
      if k = key then some aliasName else aliases.aliasOf? k := by
  unfold assign
  by_cases hhas : aliases.has key
  · have hentry := aliases.entry?_modifyEntry key (f := fun e => { e with aliasName })
      (fun _ => rfl) k
    rw [if_pos hhas, aliasOf?, hentry, Option.map_map]
    by_cases hk : k = key
    · obtain ⟨e, he⟩ := Option.isSome_iff_exists.mp hhas
      have hkey : e.key = key := by simpa using List.find?_some he
      rw [if_pos hk, hk, he]
      simp [hkey]
    · rw [if_neg hk, aliasOf?]
      cases hfound : aliases.entry? k with
      | none => rfl
      | some e =>
          have hkey : e.key = k := by simpa using List.find?_some hfound
          simp [hkey, hk]
  · have hnew : key ∉ aliases.keys := fun hmem => hhas ((has_iff _ _).mpr hmem)
    rw [if_neg hhas]
    exact aliasOf_concat (e := ⟨key, none, aliasName⟩) hnew aliases.sequence k

/-- The table is registered then, if it was not. -/
theorem keys_assign (aliases : Aliases) (key : TableKey) (aliasName : String) :
    (aliases.assign key aliasName).keys =
      if key ∈ aliases.keys then aliases.keys else aliases.keys ++ [key] := by
  unfold assign
  by_cases hkey : key ∈ aliases.keys
  · rw [if_pos ((has_iff _ _).mpr hkey), if_pos hkey]
    exact keys_modifyEntry _ _ fun _ => rfl
  · rw [if_neg fun hhas => hkey ((has_iff _ _).mp hhas), if_neg hkey]
    exact List.map_append

end Entries

theorem sequence_assign (aliases : Aliases) (key : TableKey) (aliasName : String) :
    (aliases.assign key aliasName).sequence = aliases.sequence := by
  unfold assign
  split <;> rfl

/-- A registered table has an alias. -/
theorem exists_aliasOf_of_mem {aliases : Aliases} {key : TableKey} (h : key ∈ aliases.keys) :
    ∃ aliasName, aliases.aliasOf? key = some aliasName := by
  obtain ⟨e, he⟩ := Option.isSome_iff_exists.mp ((has_iff aliases key).mpr h)
  exact ⟨e.aliasName, by rw [aliasOf?, show aliases.entry? key = some e from he, Option.map_some]⟩

/-! ## Operations -/

/-- An operation on the aliases of a statement. -/
inductive Operation where
  | add (key : TableKey) (given : Option String)
  | addTable (key : TableKey) (table : String) (given : Option String)
  | get (key : TableKey)
  | aliasOf (key : TableKey)
  | has (key : TableKey)
  | addColumn (field : Field) (aliasName : String)
  | flush
  deriving DecidableEq, Repr

namespace Operation

/-- What the operation leaves. -/
def apply (aliases : Aliases) : Operation → Aliases
  | .add key given => (aliases.add key given).2
  | .addTable key table given => (aliases.addTable key table given).2
  | .get key => (aliases.get key).2
  | .aliasOf _ | .has _ => aliases
  | .addColumn field aliasName => aliases.addColumn field aliasName
  | .flush => aliases.flush

/-- The alias that the operation answers with, if it does. -/
def answer? (aliases : Aliases) : Operation → Option String
  | .add key given => some (aliases.add key given).1
  | .addTable key table given => some (aliases.addTable key table given).1
  | .get key => some (aliases.get key).1
  | .aliasOf key => aliases.aliasOf? key
  | .has _ | .addColumn .. | .flush => none

/-- The table to which the operation gives an explicit alias, and the alias. -/
def given? : Operation → Option (TableKey × String)
  | .add key given | .addTable key _ given => (explicit? given).map fun a => (key, a)
  | _ => none

/-- The table for which the operation needs an alias without giving one. -/
def needed? : Operation → Option TableKey
  | .add key given | .addTable key _ given => if (explicit? given).isSome then none else some key
  | .get key => some key
  | _ => none

/-- The alias that the operation generates: its answer, if it needs an alias for a table that has
none. -/
def generated? (aliases : Aliases) (op : Operation) : Option String :=
  match op.needed? with
  | some key => if aliases.has key then none else op.answer? aliases
  | none => none

/-- What an operation can do: it leaves the tables alone, generates an alias for a new one, gives an
explicit alias to a table, or drops everything. -/
inductive Effect (before : Aliases) (op : Operation) (after : Aliases) : Prop where
  | keeps (hflush : op ≠ .flush) (hgiven : op.given? = none) (hquiet : op.generated? before = none)
      (hkeys : after.keys = before.keys) (hsequence : after.sequence = before.sequence)
      (haliases : ∀ k, after.aliasOf? k = before.aliasOf? k)
  | generates (key : TableKey) (hnew : key ∉ before.keys) (hgiven : op.given? = none)
      (hgenerated : op.generated? before = some (generated before.nextNumber))
      (hkeys : after.keys = before.keys ++ [key]) (hsequence : after.sequence = before.nextNumber)
      (haliases : ∀ k, after.aliasOf? k =
        if k = key then some (generated before.nextNumber) else before.aliasOf? k)
  | gives (key : TableKey) (aliasName : String) (hgiven : op.given? = some (key, aliasName))
      (hquiet : op.generated? before = none)
      (hkeys : after.keys = if key ∈ before.keys then before.keys else before.keys ++ [key])
      (hsequence : after.sequence = before.sequence)
      (haliases : ∀ k, after.aliasOf? k =
        if k = key then some aliasName else before.aliasOf? k)
  | drops (hflush : op = .flush) (hafter : after = .empty)

variable {aliases after : Aliases} {op : Operation} {key : TableKey}

/-- The physical name of a table may be noted besides. -/
theorem Effect.withTable (h : Effect aliases op after) (hflush : op ≠ .flush) (key : TableKey)
    (table : String) :
    Effect aliases op (after.modifyEntry key fun e => { e with table := some table }) := by
  have hnames := after.aliasOf_withTable key table
  have hsame : (after.modifyEntry key fun e => { e with table := some table }).keys = after.keys :=
    keys_modifyEntry _ _ fun _ => rfl
  cases h with
  | keeps _ hgiven hquiet hkeys hsequence haliases =>
      exact .keeps hflush hgiven hquiet (hsame.trans hkeys) hsequence
        fun k => (hnames k).trans (haliases k)
  | generates key hnew hgiven hgenerated hkeys hsequence haliases =>
      exact .generates key hnew hgiven hgenerated (hsame.trans hkeys) hsequence
        fun k => (hnames k).trans (haliases k)
  | gives key aliasName hgiven hquiet hkeys hsequence haliases =>
      exact .gives key aliasName hgiven hquiet (hsame.trans hkeys) hsequence
        fun k => (hnames k).trans (haliases k)
  | drops hop _ => exact absurd hop hflush

/-- Where an alias is needed, the table keeps the one it has, or the next one is generated. -/
theorem effect_needed (hgiven : op.given? = none) (hneeded : op.needed? = some key)
    (hanswer : op.answer? aliases = some (aliases.get key).1) :
    Effect aliases op (aliases.get key).2 := by
  unfold Aliases.get at hanswer ⊢
  by_cases hkey : key ∈ aliases.keys
  · obtain ⟨aliasName, halias⟩ := exists_aliasOf_of_mem hkey
    have hquiet : op.generated? aliases = none := by
      unfold generated?
      rw [hneeded]
      exact if_pos ((has_iff _ _).mpr hkey)
    have hflush : op ≠ .flush := by
      rintro rfl
      cases hneeded
    rw [halias]
    exact .keeps hflush hgiven hquiet rfl rfl fun _ => rfl
  · have halias := aliasOf_of_notMem hkey
    rw [halias] at hanswer ⊢
    have hgenerated : op.generated? aliases = some (generated aliases.nextNumber) := by
      unfold generated?
      rw [hneeded]
      exact (if_neg fun hhas => hkey ((has_iff _ _).mp hhas)).trans hanswer
    exact .generates key hkey hgiven hgenerated List.map_append rfl
      (aliasOf_concat (e := ⟨key, none, generated aliases.nextNumber⟩) hkey _)

/-- Where an alias is given, the table has it. -/
theorem effect_given {aliasName : String} (hgiven : op.given? = some (key, aliasName))
    (hneeded : op.needed? = none) : Effect aliases op (aliases.assign key aliasName) := by
  have hquiet : op.generated? aliases = none := by
    unfold generated?
    rw [hneeded]
  exact .gives key aliasName hgiven hquiet (keys_assign _ _ _) (sequence_assign _ _ _)
    (aliasOf_assign _ _ _)

/-- Registering a table gives it an explicit alias, or needs one. -/
theorem effect_add {given : Option String}
    (hgiven : op.given? = (explicit? given).map fun a => (key, a))
    (hneeded : op.needed? = if (explicit? given).isSome then none else some key)
    (hanswer : op.answer? aliases = some (aliases.add key given).1) :
    Effect aliases op (aliases.add key given).2 := by
  unfold Aliases.add at hanswer ⊢
  cases hexplicit : explicit? given with
  | some aliasName =>
      rw [hexplicit] at hgiven hneeded
      exact effect_given hgiven hneeded
  | none =>
      rw [hexplicit] at hgiven hneeded hanswer
      exact effect_needed hgiven hneeded hanswer

/-- Every operation has one of these effects. -/
theorem effect_apply (aliases : Aliases) (op : Operation) :
    Effect aliases op (op.apply aliases) := by
  cases op with
  | add key given => exact effect_add rfl rfl rfl
  | addTable key table given =>
      -- but for the physical name this is what `add` does
      have hadded : Effect aliases (.addTable key table given) (aliases.add key given).2 :=
        effect_add rfl rfl rfl
      exact hadded.withTable nofun key table
  | get key => exact effect_needed rfl rfl rfl
  | aliasOf _ | has _ | addColumn _ _ => exact .keeps nofun rfl rfl rfl rfl fun _ => rfl
  | flush => exact .drops rfl rfl

end Operation

/-! ## Aliases in use -/

/-- Aliases in use, with those that were generated since they were dropped last, in order. -/
structure Log where
  aliases : Aliases
  issued : List String

namespace Log

/-- The next operation. -/
def note (log : Log) (op : Operation) : Log where
  aliases := op.apply log.aliases
  issued := if op = .flush then [] else log.issued ++ (op.generated? log.aliases).toList

/-- The aliases of a new session after operations that follow each other. -/
def after (history : List Operation) : Log := history.foldl note ⟨.empty, []⟩

theorem after_concat (history : List Operation) (op : Operation) :
    after (history ++ [op]) = (after history).note op := by
  rw [after, List.foldl_concat, after]

/-- No two tables have the same key, and what was generated has increasing numbers, which the
sequence has reached. -/
structure Issuing (log : Log) (numbers : List Nat) : Prop where
  keys : log.aliases.keys.Nodup
  issued : log.issued = numbers.map generated
  increasing : numbers.Pairwise (· < ·)
  reached : ∀ n ∈ numbers, n ≤ log.aliases.sequence

variable {log : Log} {numbers : List Nat}

/-- The next operation goes on with the numbers, or starts them again. -/
theorem Issuing.note (h : log.Issuing numbers) (op : Operation) :
    ∃ next, (log.note op).Issuing next := by
  have hissued : op ≠ .flush →
      (log.note op).issued = log.issued ++ (op.generated? log.aliases).toList :=
    fun hflush => if_neg hflush
  cases op.effect_apply log.aliases with
  | keeps hflush hgiven hquiet hkeys hsequence haliases =>
      refine ⟨numbers, hkeys ▸ h.keys, ?_, h.increasing, hsequence ▸ h.reached⟩
      rw [hissued hflush, hquiet, Option.toList_none, List.append_nil, h.issued]
  | generates key hnew hgiven hgenerated hkeys hsequence haliases =>
      have hflush : op ≠ .flush := by
        rintro rfl
        cases hgenerated
      -- the next number is beyond the sequence, and so beyond all that were generated
      have hnext := log.aliases.nextNumber_spec.1
      have hbeyond : ∀ n ∈ numbers, n < log.aliases.nextNumber :=
        fun n hn => Nat.lt_of_le_of_lt (h.reached n hn) hnext
      refine ⟨numbers ++ [log.aliases.nextNumber], ?_, ?_, ?_, ?_⟩
      · show (op.apply log.aliases).keys.Nodup
        rw [hkeys, ← List.concat_eq_append]
        exact h.keys.concat hnew
      · rw [hissued hflush, hgenerated, h.issued, List.map_append]
        rfl
      · exact List.pairwise_append.mpr ⟨h.increasing, List.pairwise_singleton _ _,
          fun n hn m hm => List.mem_singleton.mp hm ▸ hbeyond n hn⟩
      · show ∀ n ∈ numbers ++ [_], n ≤ (op.apply log.aliases).sequence
        rw [hsequence]
        exact List.forall_mem_append.mpr ⟨fun n hn => (hbeyond n hn).le,
          List.forall_mem_singleton.mpr (Nat.le_refl _)⟩
  | gives key aliasName hgiven hquiet hkeys hsequence haliases =>
      have hflush : op ≠ .flush := by
        rintro rfl
        cases hgiven
      refine ⟨numbers, ?_, ?_, h.increasing, hsequence ▸ h.reached⟩
      · show (op.apply log.aliases).keys.Nodup
        rw [hkeys]
        split
        · exact h.keys
        · next hnew =>
            rw [← List.concat_eq_append]
            exact h.keys.concat hnew
      · rw [hissued hflush, hquiet, Option.toList_none, List.append_nil, h.issued]
  | drops hflush hafter =>
      refine ⟨[], ?_, if_pos hflush, .nil, List.forall_mem_nil _⟩
      show (op.apply log.aliases).keys.Nodup
      rw [hafter]
      exact List.nodup_nil

/-- The numbers of what is generated go up, however the aliases are used. -/
theorem issuing_after (history : List Operation) : ∃ numbers, (after history).Issuing numbers := by
  induction history using List.reverseRecOn with
  | nil => exact ⟨[], List.nodup_nil, rfl, .nil, List.forall_mem_nil _⟩
  | append_singleton history op ih =>
      obtain ⟨numbers, h⟩ := ih
      rw [after_concat]
      exact h.note op

/-- What is generated next has a greater number than what was generated before, and is the alias of
no table. -/
theorem Issuing.generated? (h : log.Issuing numbers) {op : Operation} {aliasName : String}
    (hgenerated : op.generated? log.aliases = some aliasName) :
    ∃ n, aliasName = generated n ∧ (∀ m ∈ numbers, m < n) ∧
      aliasName ∉ log.aliases.entries.map (·.aliasName) := by
  obtain ⟨hnext, hfree, -⟩ := log.aliases.nextNumber_spec
  cases op.effect_apply log.aliases with
  | generates key hnew hgiven hnumber hkeys hsequence haliases =>
      cases hnumber.symm.trans hgenerated
      exact ⟨_, rfl, fun m hm => Nat.lt_of_le_of_lt (h.reached m hm) hnext, hfree⟩
  | keeps _ _ hquiet | gives _ _ _ hquiet => cases hquiet.symm.trans hgenerated
  | drops hflush =>
      subst hflush
      cases hgenerated

/-- One operation leaves the alias of a table, unless it gives it another one or drops it. -/
theorem aliasOf_apply {aliases : Aliases} {key : TableKey} {aliasName : String}
    (h : aliases.aliasOf? key = some aliasName) {op : Operation} (hflush : op ≠ .flush)
    (hgiven : ∀ other, op.given? ≠ some (key, other)) :
    (op.apply aliases).aliasOf? key = some aliasName := by
  cases op.effect_apply aliases with
  | keeps _ _ _ _ _ haliases => exact (haliases key).trans h
  | generates k hnew _ _ _ _ haliases =>
      have hother : key ≠ k := by
        rintro rfl
        rw [aliasOf_of_notMem hnew] at h
        cases h
      rw [haliases, if_neg hother, h]
  | gives k other hk _ _ _ haliases =>
      have hother : key ≠ k := by
        rintro rfl
        exact hgiven other hk
      rw [haliases, if_neg hother, h]
  | drops hop => exact absurd hop hflush

/-- So a table keeps its alias until it is given another one, or everything is dropped. -/
theorem aliasOf_stays {history later : List Operation} {key : TableKey} {aliasName : String}
    (h : (after history).aliases.aliasOf? key = some aliasName)
    (hlater : ∀ op ∈ later, op ≠ .flush ∧ ∀ other, op.given? ≠ some (key, other)) :
    (after (history ++ later)).aliases.aliasOf? key = some aliasName := by
  induction later using List.reverseRecOn with
  | nil => rwa [List.append_nil]
  | append_singleton later op ih =>
      obtain ⟨hbefore, hlast⟩ := List.forall_mem_append.mp hlater
      obtain ⟨hflush, hgiven⟩ := hlast op List.mem_cons_self
      rw [← List.append_assoc, after_concat]
      exact aliasOf_apply (ih hbefore) hflush hgiven

end Log

end Aliases

/-! ## Summary -/

open Aliases

/-- Let the aliases of a new session be used in any way.  No two tables have the same key.  The
numbers of the aliases that were generated since the last flush increase, so no two of them are the
same; and what the next operation generates, if it does, has a greater number than all of them, is
the alias of no table that is registered by then, and becomes the alias of a table that had none.

A table that has an alias keeps it through all operations but a flush and those that give it an
explicit alias.  Looking at a table and giving an alias to a column change no entry at all.  A table
to which an explicit alias is given has it from then on: it is found under it, and asking for its
alias yields it and changes nothing. -/
theorem aliases_are_issued_once (history : List Operation) :
    let log := Log.after history
    log.aliases.keys.Nodup ∧
    (∃ numbers : List Nat, log.issued = numbers.map generated ∧ numbers.Pairwise (· < ·) ∧
      log.issued.Nodup ∧
      ∀ (op : Operation) (aliasName : String), op.generated? log.aliases = some aliasName →
        aliasName ∉ log.aliases.entries.map (·.aliasName) ∧ aliasName ∉ log.issued ∧
        (∃ n, aliasName = generated n ∧ ∀ m ∈ numbers, m < n) ∧
        (Log.after (history ++ [op])).issued = log.issued ++ [aliasName] ∧
        ∃ key, log.aliases.aliasOf? key = none ∧
          (op.apply log.aliases).aliasOf? key = some aliasName) ∧
    (∀ (key : TableKey) (aliasName : String),
      log.aliases.aliasOf? key = some aliasName → ∀ later : List Operation,
      (∀ op ∈ later, op ≠ .flush ∧ ∀ other, op.given? ≠ some (key, other)) →
        (Log.after (history ++ later)).aliases.aliasOf? key = some aliasName) ∧
    (∀ (key : TableKey) (field : Field) (aliasName : String),
      ∀ op ∈ [Operation.has key, .aliasOf key, .addColumn field aliasName],
        (op.apply log.aliases).entries = log.aliases.entries ∧
          (op.apply log.aliases).sequence = log.aliases.sequence) ∧
    ∀ (op : Operation) (key : TableKey) (aliasName : String), op.given? = some (key, aliasName) →
      let given := op.apply log.aliases
      given.aliasOf? key = some aliasName ∧ given.get key = (aliasName, given) := by
  intro log
  obtain ⟨numbers, hissuing⟩ := Log.issuing_after history
  refine ⟨hissuing.keys, ⟨numbers, hissuing.issued, hissuing.increasing, ?_, ?_⟩, ?_, ?_, ?_⟩
  · rw [hissuing.issued]
    exact (hissuing.increasing.imp fun {m n} hless => Nat.ne_of_lt hless).map _
      fun m n hne heq => hne (generated_injective heq)
  · intro op aliasName hgenerated
    obtain ⟨n, rfl, hgreater, hfree⟩ := hissuing.generated? hgenerated
    refine ⟨hfree, ?_, ⟨n, rfl, hgreater⟩, ?_, ?_⟩
    · rw [hissuing.issued]
      rintro hmem
      obtain ⟨m, hm, heq⟩ := List.mem_map.mp hmem
      have hless := hgreater m hm
      rw [generated_injective heq] at hless
      exact Nat.lt_irrefl n hless
    · have hflush : op ≠ .flush := by
        rintro rfl
        cases hgenerated
      rw [Log.after_concat, Log.note, if_neg hflush, hgenerated]
      rfl
    · cases op.effect_apply log.aliases with
      | generates key hnew _ hnumber _ _ haliases =>
          exact ⟨key, aliasOf_of_notMem hnew,
            by rw [haliases, if_pos rfl, ← hnumber, hgenerated]⟩
      | keeps _ _ hquiet | gives _ _ _ hquiet => cases hquiet.symm.trans hgenerated
      | drops hflush =>
          subst hflush
          cases hgenerated
  · exact fun key aliasName halias later => Log.aliasOf_stays halias
  · intro key field aliasName op hop
    simp only [List.mem_cons, List.not_mem_nil, or_false] at hop
    rcases hop with rfl | rfl | rfl
    · exact ⟨rfl, rfl⟩
    · exact ⟨rfl, rfl⟩
    · exact ⟨rfl, rfl⟩
  · intro op key aliasName hgiven given
    have halias : given.aliasOf? key = some aliasName := by
      cases op.effect_apply log.aliases with
      | gives k other hother _ _ _ haliases =>
          cases hother.symm.trans hgiven
          rw [haliases, if_pos rfl]
      | keeps _ hnone | generates _ _ hnone => cases hnone.symm.trans hgiven
      | drops hflush =>
          subst hflush
          cases hgiven
    exact ⟨halias, by rw [Aliases.get, halias]⟩

/-- A table gives up `t1` for an alias of its own, and another one takes `t2`: what is generated
next is `t3`, and the second table keeps `t2` when a third one is looked at and named. -/
theorem third_alias_is_generated :
    let history : List Operation :=
      [.get (.named "a"), .add (.named "a") (some "x"), .add (.named "b") (some "t2")]
    let later : List Operation :=
      [.get (.named "c"), .add (.named "b") none, .add (.named "c") (some "t1")]
    let log := Log.after history
    log.aliases.keys.Nodup ∧
    ((Operation.get (.named "c")).generated? log.aliases = some "t3" ∧
      "t3" ∉ log.aliases.entries.map (·.aliasName) ∧ "t3" ∉ log.issued) ∧
    (log.aliases.aliasOf? (.named "b") = some "t2" ∧
      (Log.after (history ++ later)).aliases.aliasOf? (.named "b") = some "t2") ∧
    ((Operation.has (.named "d")).apply log.aliases).entries = log.aliases.entries ∧
    (Operation.add (.named "c") (some "t1")).given? = some (.named "c", "t1") ∧
    ((Operation.add (.named "c") (some "t1")).apply log.aliases).aliasOf? (.named "c") =
      some "t1" := by
  intro history later log
  have hnext : (Operation.get (.named "c")).generated? log.aliases = some "t3" := by
    decide +kernel
  have hb : log.aliases.aliasOf? (.named "b") = some "t2" := by decide +kernel
  have hlater : ∀ op ∈ later, op ≠ .flush ∧ ∀ other, op.given? ≠ some (.named "b", other) := by
    simp only [later, List.forall_mem_cons, List.not_mem_nil, false_imp_iff, implies_true, and_true]
    refine ⟨⟨nofun, nofun⟩, ⟨nofun, nofun⟩, nofun, fun other hgiven => ?_⟩
    exact absurd (Option.some.inj hgiven) (by simp)
  have hgiven : (Operation.add (.named "c") (some "t1")).given? = some (.named "c", "t1") := by
    decide +kernel
  obtain ⟨hkeys, ⟨numbers, -, -, -, hissued⟩, hstays, hquiet, hexplicit⟩ :=
    aliases_are_issued_once history
  obtain ⟨hfree, hnew, -⟩ := hissued _ _ hnext
  exact ⟨hkeys, ⟨hnext, hfree, hnew⟩, ⟨hb, hstays _ _ hb later hlater⟩,
    (hquiet (.named "d") ⟨⟨"app::User", "User", none, []⟩, "id"⟩ "x" _ List.mem_cons_self).1,
    hgiven, (hexplicit _ _ _ hgiven).1⟩

end QueryLoom

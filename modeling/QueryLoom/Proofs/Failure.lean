import Mathlib.Data.List.Perm.Subperm
import Mathlib.Data.List.Permutation
import QueryLoom.Proofs.Citing

/-!
# When a statement cannot be built

A statement with fitting conditions is not built for three kinds of reasons only.  A call is at
fault: a limit or an offset is negative, or nothing is assigned.  A table is mentioned twice.  Or a
field that is written has no column.  They are checked in this order, so the first reason that
applies is the one that is reported.

## Main definitions

* `Chain.faults`: the faults of the calls of a chain, in order.
* `TableRef.Same`, `Twice`: tables that cannot be told apart within a statement.
* `Registers`: what comes of declaring tables one after the other.

## Main results

* `Chain.fault_statement`: a statement keeps the first fault of its chain.
* `Statement.registers_directAliases`: tables are declared unless one of them is there already.
* `failure_has_three_reasons`: the summary.
-/

namespace QueryLoom

open Step

/-! ## Faults of calls -/

/-- The fault of a negative count of rows. -/
def ValidationFault.ofCount (fault : Int → ValidationFault) (n : Int) : List ValidationFault :=
  if n < 0 then [fault n] else []

namespace Chain

/-- The faults of a chain, in the order of the calls. -/
def faults : {s : Stage} → Chain s → List ValidationFault
  | _, .select _ => []
  | _, .fromTable chain _ => chain.faults
  | _, .join chain _ _ => chain.faults
  | _, .on chain _ => chain.faults
  | _, .unconditioned chain => chain.faults
  | _, .matching chain _ => chain.faults
  | _, .groupBy _ chain _ => chain.faults
  | _, .having chain _ => chain.faults
  | _, .order _ chain _ => chain.faults
  | _, .limit _ chain n => chain.faults ++ ValidationFault.ofCount .negativeLimit n
  | _, .offset _ chain n => chain.faults ++ ValidationFault.ofCount .negativeOffset n
  | _, .update _ => []
  | _, .set chain _ _ => chain.faults
  | _, .setNull chain _ => chain.faults
  | _, .setColumn chain _ _ => chain.faults
  | _, .assign chain => if chain.assignments.isEmpty then [.nothingAssigned] else []
  | _, .choosing chain _ => chain.faults

private theorem fault_paging {statement : Statement} {faults : List ValidationFault}
    (h : statement.fault = faults.head?) (n : Int) (segment : Nat → Segment)
    (fault : Int → ValidationFault) :
    (paging statement n segment fault).fault =
      (faults ++ ValidationFault.ofCount fault n).head? := by
  cases n with
  | ofNat n =>
      have hcount : ¬ Int.ofNat n < 0 := by simp
      rw [ValidationFault.ofCount, if_neg hcount, List.append_nil]
      exact h
  | negSucc n =>
      rw [ValidationFault.ofCount, if_pos (Int.negSucc_lt_zero n), List.head?_append, ← h]
      rfl

private theorem fault_clause (statement : Statement) (keyword : String) (query : Query) :
    (statement.clause keyword query).fault = statement.fault := by
  unfold Statement.clause
  by_cases hempty : query.isEmpty
  · rw [if_pos hempty]
  · rw [if_neg hempty]
    rfl

/-- The statement of a chain has the first of its faults. -/
theorem fault_statement {s : Stage} (chain : Chain s) :
    chain.statement.fault = chain.faults.head? := by
  induction chain with
  | select items => rfl
  | fromTable chain table ih => exact ih
  | join chain kind table ih => exact ih
  | on chain query ih => rw [statement, fault_clause, ih, faults]
  | unconditioned chain ih => exact ih
  | matching chain query ih => rw [statement, fault_clause, ih, faults]
  | groupBy groupable chain columns ih =>
      rw [statement, faults, ← ih]
      by_cases hnone : columns.isEmpty
      · rw [if_pos hnone]
      · rw [if_neg hnone]
        rfl
  | having chain query ih => rw [statement, fault_clause, ih, faults]
  | order orderable chain orders ih =>
      rw [statement, faults, ← ih]
      by_cases hnone : orders.isEmpty
      · rw [if_pos hnone]
      · rw [if_neg hnone]
        rfl
  | limit limitable chain n ih => exact fault_paging ih n _ _
  | offset limitable chain n ih => exact fault_paging ih n _ _
  | update table => rfl
  | set chain target value ih => exact ih
  | setNull chain target ih => exact ih
  | setColumn chain target source ih => exact ih
  | assign chain ih =>
      rw [statement, faults, updateStatement]
      by_cases hnone : chain.assignments.isEmpty
      · rw [if_pos hnone, if_pos hnone]
        rfl
      · rw [if_neg hnone, if_neg hnone]
        rfl
  | choosing chain query ih => rw [statement, fault_clause, ih, faults]

/-- A statement without a fault comes from a chain without faults. -/
theorem faults_eq_nil {s : Stage} {chain : Chain s} (h : chain.statement.fault = none) :
    chain.faults = [] := by
  rwa [fault_statement, List.head?_eq_none_iff] at h

end Chain

/-! ## Tables that are the same -/

/-- Two mentioned tables are the same: that of one entity, whatever the aliases, or the same name,
without an alias or with the same alias. -/
def TableRef.Same (t u : TableRef) : Prop :=
  match t.source, u.source with
  | .entity a, .entity b => a.typePath = b.typePath
  | .named a, .named b => a = b ∧ t.explicitAlias? = u.explicitAlias?
  | _, _ => False

/-- Such tables have the same key, and others do not. -/
theorem TableRef.same_iff (t u : TableRef) : t.Same u ↔ t.key = u.key := by
  obtain ⟨source, aliasName⟩ := t
  obtain ⟨source', aliasName'⟩ := u
  cases source with
  | entity a =>
      cases source' with
      | entity b => simp [Same, key, TableKey.ofEntity]
      | named b =>
          cases h : (TableRef.mk (.named b) aliasName').explicitAlias? <;>
            simp [Same, key, TableKey.ofEntity, h]
  | named a =>
      cases h : (TableRef.mk (.named a) aliasName).explicitAlias? with
      | none =>
          cases source' with
          | entity b => simp [Same, key, TableKey.ofEntity, h]
          | named b =>
              cases h' : (TableRef.mk (.named b) aliasName').explicitAlias? <;>
                simp [Same, key, h, h']
      | some given =>
          cases source' with
          | entity b => simp [Same, key, TableKey.ofEntity, h]
          | named b =>
              cases h' : (TableRef.mk (.named b) aliasName').explicitAlias? <;>
                simp [Same, key, h, h']

/-- A table is followed by one that is the same. -/
def Twice (tables : List TableRef) (t : TableRef) : Prop :=
  ∃ u, [t, u].Sublist tables ∧ t.Same u

/-- No table is there twice when the keys are distinct. -/
theorem not_twice {tables : List TableRef} (h : (tables.map TableRef.key).Nodup) (t : TableRef) :
    ¬ Twice tables t := by
  rintro ⟨u, hpair, hsame⟩
  have hkeys := (hpair.map TableRef.key).nodup h
  simp [(t.same_iff u).mp hsame] at hkeys

/-! ## Declaring tables -/

/-- What comes of declaring tables one after the other beside the keys that are there: new keys are
added to them, or the first table whose key is there already is refused. -/
inductive Registers (keys : List TableKey) (tables : List TableRef) :
    Except Error Aliases → Prop where
  | registered {aliases : Aliases} (hkeys : aliases.keys = keys ++ tables.map TableRef.key)
      (hnodup : aliases.keys.Nodup) : Registers keys tables (.ok aliases)
  | refused (front back : List TableRef) (t : TableRef) (htables : tables = front ++ t :: back)
      (hthere : t.key ∈ keys ++ front.map TableRef.key) :
      Registers keys tables (.error (.validation (.declaredTwice t.source.directName)))

namespace Registers

variable {keys : List TableKey} {tables more : List TableRef} {r : Except Error Aliases}

/-- Tables are declared in two rows as in one. -/
theorem bind {next : Aliases → Except Error Aliases} (hr : Registers keys tables r)
    (hnext : ∀ aliases : Aliases, aliases.keys.Nodup → Registers aliases.keys more (next aliases)) :
    Registers keys (tables ++ more) (r >>= next) := by
  cases hr with
  | @registered aliases hkeys hnodup =>
      have hmore := hnext aliases hnodup
      show Registers keys (tables ++ more) (next aliases)
      generalize next aliases = r at hmore
      rw [hkeys] at hmore
      cases hmore with
      | registered hkeys hnodup =>
          exact .registered (by rw [hkeys, List.map_append, List.append_assoc]) hnodup
      | refused front back t htables hthere =>
          refine .refused (tables ++ front) back t ?_ ?_
          · rw [htables, List.append_assoc]
          · rwa [List.map_append, ← List.append_assoc]
  | refused front back t htables hthere =>
      refine .refused front (back ++ more) t ?_ hthere
      rw [htables, List.append_assoc, List.cons_append]

/-- One table is declared unless its key is there. -/
theorem declare (t : TableRef) {aliases : Aliases} (h : aliases.keys.Nodup) :
    Registers aliases.keys [t] (t.directDeclare aliases) := by
  by_cases hthere : t.key ∈ aliases.keys
  · rw [TableRef.directDeclare, if_pos ((Aliases.has_iff _ _).mpr hthere)]
    exact .refused [] [] t rfl (by simpa using hthere)
  · rw [TableRef.directDeclare, if_neg fun hhas => hthere ((Aliases.has_iff _ _).mp hhas)]
    have hkeys : (aliases.addTable t.key t.source.directName t.aliasName).2.keys =
        aliases.keys ++ [t.key] := by
      cases hgiven : Aliases.explicit? t.aliasName with
      | some aliasName =>
          rw [Aliases.addTable_explicit hthere t.source.directName hgiven]
          exact List.map_append
      | none =>
          rw [Aliases.addTable_generated hthere t.source.directName hgiven]
          exact List.map_append
    refine .registered hkeys ?_
    rw [hkeys, ← List.concat_eq_append]
    exact h.concat hthere

/-- A pass over declarations declares the tables that it chooses. -/
theorem pass {step : Aliases → Declaration → Except Error Aliases} {chosen : TableRef → Bool}
    (htable : ∀ aliases t, step aliases (.table t) =
      if chosen t then t.directDeclare aliases else .ok aliases)
    (hcolumn : ∀ aliases f aliasName, ∃ next : Aliases,
      step aliases (.column f aliasName) = .ok next ∧ next.keys = aliases.keys)
    {declarations : List Declaration} {aliases : Aliases} (h : aliases.keys.Nodup) :
    Registers aliases.keys ((declarations.filterMap Declaration.table?).filter chosen)
      (declarations.foldlM step aliases) := by
  induction declarations generalizing aliases with
  | nil => exact .registered (List.append_nil _).symm h
  | cons declaration rest ih =>
      rw [List.foldlM_cons]
      cases declaration with
      | column f aliasName =>
          obtain ⟨next, hnext, hkeys⟩ := hcolumn aliases f aliasName
          have hrest := @ih next (hkeys ▸ h)
          rw [hkeys] at hrest
          rw [hnext]
          exact hrest
      | table t =>
          rw [htable]
          cases hchosen : chosen t with
          | true =>
              have hboth := (declare t h).bind fun next hnodup => @ih next hnodup
              simpa [Declaration.table?, hchosen] using hboth
          | false =>
              show Registers aliases.keys _ (rest.foldlM step aliases)
              simpa [Declaration.table?, hchosen] using ih h

end Registers

namespace Statement

variable {statement : Statement}

/-- The tables with an explicit alias are declared first, and then the others. -/
theorem registers_directAliases (statement : Statement) :
    Registers [] (statement.tables.filter (·.explicitAlias?.isSome) ++
      statement.tables.filter fun t => !t.explicitAlias?.isSome) statement.directAliases := by
  have hnone : Aliases.empty.keys.Nodup := List.nodup_nil
  have hexplicit := @Registers.pass Declaration.directExplicit (·.explicitAlias?.isSome)
    (fun _ _ => rfl) (fun aliases f aliasName => ⟨aliases.addColumn f aliasName, rfl, rfl⟩)
    statement.declarations .empty hnone
  refine hexplicit.bind fun aliases hnodup => .pass (fun aliases t => ?_)
    (fun aliases _ _ => ⟨aliases, rfl, rfl⟩) hnodup
  rw [Declaration.directImplicit]
  cases t.explicitAlias?.isSome <;> rfl

/-- So they are declared, or two of them are the same, which is the error. -/
theorem directAliases_cases (statement : Statement) :
    (∃ aliases, statement.directAliases = .ok aliases ∧ ∀ t, ¬ Twice statement.tables t) ∨
      ∃ t u, [t, u].Subperm statement.tables ∧ t.Same u ∧
        statement.directAliases = .error (.validation (.declaredTwice u.source.directName)) := by
  have hregisters := statement.registers_directAliases
  have hperm := List.filter_append_perm (fun t : TableRef => t.explicitAlias?.isSome)
    statement.tables
  generalize statement.directAliases = r at hregisters
  generalize statement.tables.filter _ ++ statement.tables.filter _ = tables at hregisters hperm
  cases hregisters with
  | registered hkeys hnodup =>
      rw [hkeys, List.nil_append] at hnodup
      exact .inl ⟨_, rfl, not_twice ((hperm.map TableRef.key).nodup_iff.mp hnodup)⟩
  | refused front back u htables hthere =>
      obtain ⟨t, ht, hkey⟩ := List.mem_map.mp hthere
      have hpair : [t, u].Sublist tables := by
        rw [htables]
        exact (List.singleton_sublist.mpr ht).append
          (List.singleton_sublist.mpr List.mem_cons_self)
      exact .inr ⟨t, u, hpair.subperm.trans hperm.subperm, (t.same_iff u).mpr hkey, rfl⟩

end Statement

/-- Of two tables that are the same, one is followed by the other. -/
theorem twice_of_subperm {tables : List TableRef} {t u : TableRef} (h : [t, u].Subperm tables)
    (hsame : t.Same u) : Twice tables t ∨ Twice tables u := by
  obtain ⟨pair, hperm, hsublist⟩ := h
  rcases List.perm_pair.mp hperm with rfl | rfl
  · exact .inl ⟨u, hsublist, hsame⟩
  · refine .inr ⟨t, hsublist, ?_⟩
    rw [TableRef.same_iff] at hsame ⊢
    exact hsame.symm

/-- Among unambiguous entities tables that are the same have the same name. -/
theorem TableRef.Same.directName {known : Entity → Prop} (hunambiguous : Unambiguous known)
    {t u : TableRef} (h : t.Same u) (ht : ∀ e ∈ t.source.entities, known e)
    (hu : ∀ e ∈ u.source.entities, known e) : t.source.directName = u.source.directName := by
  obtain ⟨source, aliasName⟩ := t
  obtain ⟨source', aliasName'⟩ := u
  cases source with
  | entity a =>
      cases source' with
      | entity b =>
          have hsame : a = b := hunambiguous a b (ht a List.mem_cons_self)
            (hu b List.mem_cons_self) h
          rw [hsame]
      | named b => exact h.elim
  | named a =>
      cases source' with
      | entity b => exact h.elim
      | named b => exact h.1

/-! ## What is told of a chain -/

namespace Chain

variable {s : Stage} {chain : Chain s} {form : Form}

/-- The first fault of a chain is its error. -/
theorem direct_of_fault {fault : ValidationFault} (h : chain.faults.head? = some fault) :
    chain.statement.direct form = .error (.validation fault) := by
  unfold Statement.direct
  rw [chain.fault_statement, h]

/-- Without faults a table that is there twice is the error. -/
theorem direct_of_twice {known : Entity → Prop} (hunambiguous : Unambiguous known)
    (hknown : ∀ e ∈ chain.statement.entities, known e) (hfaults : chain.faults = [])
    (htwice : ∃ t, Twice chain.tables t) : ∃ t, Twice chain.tables t ∧
      chain.statement.direct form = .error (.validation (.declaredTwice t.source.directName)) := by
  have htables : ∀ t ∈ chain.statement.tables, ∀ e ∈ t.source.entities, known e :=
    fun t ht e he => hknown e (List.mem_append_left _ (List.mem_flatMap.mpr ⟨t, ht, he⟩))
  rw [← chain.lists_statement.declared] at htwice ⊢
  unfold Statement.direct
  rw [chain.fault_statement, hfaults]
  rcases chain.statement.directAliases_cases with ⟨aliases, -, hnone⟩ | ⟨t, u, hpair, hsame, herror⟩
  · obtain ⟨t, ht⟩ := htwice
    exact absurd ht (hnone t)
  · have hname := hsame.directName hunambiguous (htables t (hpair.subset List.mem_cons_self))
      (htables u (hpair.subset (List.mem_cons_of_mem _ List.mem_cons_self)))
    rw [herror]
    rcases twice_of_subperm hpair hsame with ht | hu
    · exact ⟨t, ht, by rw [hname]; rfl⟩
    · exact ⟨u, hu, rfl⟩

/-- Otherwise the first field that has no column is the error, and if there is none, the statement
is told. -/
theorem direct_of_fields (hfitting : ∀ c ∈ chain.statement.conditions, c.Fitting)
    (hfaults : chain.faults = []) (htwice : ∀ t, ¬ Twice chain.tables t) :
    (∃ bound, chain.statement.direct form = .ok bound ∧
        (chain.fields (chain.statement.modeOf form)).find? Field.undeclared = none) ∨
      ∃ f, chain.statement.direct form = .error f.unresolved ∧
        (chain.fields (chain.statement.modeOf form)).find? Field.undeclared = some f := by
  rw [← chain.lists_statement.declared] at htwice
  unfold Statement.direct
  rw [chain.fault_statement, hfaults]
  rcases chain.statement.directAliases_cases with ⟨aliases, haliases, -⟩ | ⟨t, u, hpair, hsame, -⟩
  · rw [haliases]
    have hcites := @Statement.cites_directText False chain.statement aliases form
      fun c hc => .inr (hfitting c hc)
    rw [chain.fields_segments] at hcites
    have hfields := Field.mapM_direct (chain.fields (chain.statement.modeOf form)) aliases
    show (∃ bound, (chain.statement.directText aliases form >>= _) = _ ∧ _) ∨ ∃ f,
      (chain.statement.directText aliases form >>= _) = _ ∧ _
    generalize chain.statement.directText aliases form = text at hcites
    cases hcites with
    | written htexts hstands =>
        rcases hfields with ⟨texts, -, hnone⟩ | ⟨f, herror, -⟩
        · exact .inl ⟨_, rfl, hnone⟩
        · rw [htexts] at herror
          cases herror
    | unresolved herror =>
        rcases hfields with ⟨texts, htexts, -⟩ | ⟨f, hf, hsome⟩
        · rw [herror] at htexts
          cases htexts
        · rw [herror] at hf
          cases hf
          exact .inr ⟨f, rfl, hsome⟩
    | refused h fault => exact h.elim
  · rcases twice_of_subperm hpair hsame with ht | hu
    · exact absurd ht (htwice t)
    · exact absurd hu (htwice u)

end Chain

/-! ## Summary -/

/-- Let the conditions of a chain be such as the comparisons make them, and let no two known
entities share a type path.  From every catalog of known entities a statement of the chain fails to
be built exactly when a call is at fault, or a table is there twice, or a field that is written has
no column.  Of the faults the first one is reported; without faults a table that is there twice, by
its name; and without these the first field that has no column. -/
theorem failure_has_three_reasons {known : Entity → Prop} (hunambiguous : Unambiguous known)
    {stage : Stage} (chain : Chain stage) (hknown : ∀ e ∈ chain.statement.entities, known e)
    (hfitting : ∀ c ∈ chain.statement.conditions, c.Fitting) {catalog : Catalog}
    (hcatalog : catalog.Visited known) (form : Form) :
    ((∃ e catalog', chain.statement.buildAs form catalog = .error e catalog') ↔
      chain.faults ≠ [] ∨ (∃ t, Twice chain.tables t) ∨
        ∃ f ∈ chain.fields (chain.statement.modeOf form), f.undeclared = true) ∧
    (∀ fault, chain.faults.head? = some fault →
      outcome (chain.statement.buildAs form catalog) = .error (.validation fault)) ∧
    (chain.faults = [] → (∃ t, Twice chain.tables t) → ∃ t, Twice chain.tables t ∧
      outcome (chain.statement.buildAs form catalog) =
        .error (.validation (.declaredTwice t.source.directName))) ∧
    (chain.faults = [] → (∀ t, ¬ Twice chain.tables t) →
      ∀ f, (chain.fields (chain.statement.modeOf form)).find? Field.undeclared = some f →
        outcome (chain.statement.buildAs form catalog) =
          .error (.resolution (.unknownProperty f.property f.entity.name))) := by
  have htold : outcome (chain.statement.buildAs form catalog) = chain.statement.direct form :=
    (Statement.tells_buildAs hknown chain.closed_statement form catalog hcatalog).1.eq hunambiguous
  have hfails : (∃ e catalog', chain.statement.buildAs form catalog = .error e catalog') ↔
      ∃ e, chain.statement.direct form = .error e := by
    rw [← htold]
    constructor
    · rintro ⟨e, catalog', hbuild⟩
      exact ⟨e, by rw [hbuild]; rfl⟩
    · rintro ⟨e, he⟩
      exact ⟨e, _, Step.eq_error_of_outcome he⟩
  have hfields := @Chain.direct_of_fields stage chain form hfitting
  rw [hfails, htold]
  refine ⟨?_, fun fault => Chain.direct_of_fault, Chain.direct_of_twice hunambiguous hknown, ?_⟩
  · rcases hfaults : chain.faults with _ | ⟨fault, faults⟩
    · by_cases htwice : ∃ t, Twice chain.tables t
      · obtain ⟨t, -, herror⟩ := Chain.direct_of_twice hunambiguous hknown hfaults htwice
        exact iff_of_true ⟨_, herror⟩ (.inr (.inl htwice))
      · rcases hfields hfaults (not_exists.mp htwice) with ⟨bound, hok, hnone⟩ | ⟨f, herror, hsome⟩
        · rw [List.find?_eq_none] at hnone
          refine iff_of_false ?_ ?_
          · rintro ⟨e, he⟩
            rw [hok] at he
            cases he
          · rintro (hfault | htwice' | ⟨f, hf, hundeclared⟩)
            · exact hfault rfl
            · exact htwice htwice'
            · exact hnone f hf hundeclared
        · exact iff_of_true ⟨_, herror⟩ (.inr (.inr ⟨f, List.mem_of_find?_eq_some hsome,
            List.find?_some hsome⟩))
    · have hfirst : chain.faults.head? = some fault := by rw [hfaults]; rfl
      exact iff_of_true ⟨_, Chain.direct_of_fault hfirst⟩ (.inl (List.cons_ne_nil _ _))
  · intro hfaults htwice f hf
    rcases hfields hfaults htwice with ⟨bound, -, hnone⟩ | ⟨g, herror, hsome⟩
    · rw [hf] at hnone
      cases hnone
    · rw [hf] at hsome
      cases hsome
      exact herror

/-- A condition on a property that users do not have. -/
def Condition.ofEmail : Condition := (Comparison.eq (.int 1)).on (.field ⟨.user, "email"⟩)

/-- Users by that condition. -/
def Chain.byEmail : Chain .filtered :=
  .matching (.fromTable (.select [.all .user]) ⟨.entity .user, none⟩)
    (Query.empty.addCondition .and .ofEmail)

/-- Users joined with users, by the same condition. -/
def Chain.selfJoined : Chain .filtered :=
  .matching (.unconditioned (.join (.fromTable (.select [.all .user]) ⟨.entity .user, some "a"⟩)
      .inner ⟨.entity .user, some "b"⟩))
    (Query.empty.addCondition .and .ofEmail)

/-- And a page of them with negative counts. -/
def Chain.overdrawn : Chain .limited := .offset rfl (.limit rfl .selfJoined (-1)) (-2)

/-- Each of them has one reason more to fail, which is reported in place of the others. -/
theorem failures_of_users :
    outcome (Chain.byEmail.statement.buildAs .rows (.empty 1)) =
      .error (.resolution (.unknownProperty "email" "User")) ∧
    outcome (Chain.selfJoined.statement.buildAs .rows (.empty 1)) =
      .error (.validation (.declaredTwice "user")) ∧
    outcome (Chain.overdrawn.statement.buildAs .rows (.empty 1)) =
      .error (.validation (.negativeLimit (-1))) := by
  have hfitting : ∀ c ∈ [Condition.ofEmail], c.Fitting :=
    List.forall_mem_singleton.mpr ⟨.eq (.int 1), rfl⟩
  obtain ⟨-, -, -, hunknown⟩ := failure_has_three_reasons unambiguous_user_order Chain.byEmail
    (by decide) hfitting (.empty 1) .rows
  obtain ⟨-, -, hrepeated, -⟩ := failure_has_three_reasons unambiguous_user_order Chain.selfJoined
    (by decide) hfitting (.empty 1) .rows
  obtain ⟨-, hfault, -⟩ := failure_has_three_reasons unambiguous_user_order Chain.overdrawn
    (by decide) hfitting (.empty 1) .rows
  have hsingle : (Chain.byEmail.tables.map TableRef.key).Nodup := by decide
  obtain ⟨t, ⟨u, hpair, -⟩, herror⟩ := hrepeated rfl
    ⟨⟨.entity .user, some "a"⟩, ⟨.entity .user, some "b"⟩, List.Sublist.refl _, rfl⟩
  have hnames : ∀ t ∈ Chain.selfJoined.tables, t.source.directName = "user" := by decide
  rw [hnames t (hpair.subset List.mem_cons_self)] at herror
  exact ⟨hunknown rfl (not_twice hsingle) ⟨.user, "email"⟩ (by decide), herror,
    hfault (.negativeLimit (-1)) rfl⟩

end QueryLoom

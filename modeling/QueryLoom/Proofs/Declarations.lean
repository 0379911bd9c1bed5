import Mathlib.Data.List.Nodup
import QueryLoom.Proofs.Names

/-!
# Two ways to a column

The column of a property can be had in two ways.  The entity finds the declaration of the property,
from the front, and the declaration says its column.  The names of the entity hold the columns of
all declarations under their properties, where a later declaration takes the place of an earlier
one.  So both know the same properties, but they tell the column of a different declaration when a
property is declared twice.

## Main definitions

* `Entity.lastDeclared?`: the last declaration of a property.
* `Entity.declaredColumn`: the column that the first declaration says.
* `Entity.Consistent`: all declarations of a property say the same column.

## Main results

* `Names.column_eq`: the names of an entity hold the columns of the last declarations.
* `columns_are_those_declared_last`: the summary.
-/

namespace QueryLoom

/-! ## Declarations of a property -/

namespace Entity

/-- The last declaration of a property. -/
def lastDeclared? (entity : Entity) (property : String) : Option Property :=
  entity.properties.reverse.find? fun p => p.name == property

/-- The column of a property as its first declaration says it; a property has to be declared. -/
def declaredColumn (entity : Entity) (property : String) : Except Error String :=
  match entity.declared? property with
  | some declaration => .ok (Names.columnOf declaration)
  | none => .error (.resolution (.unknownProperty property entity.name))

/-- All declarations of a property say the same column. -/
def Consistent (entity : Entity) : Prop :=
  ∀ p ∈ entity.properties, ∀ q ∈ entity.properties, p.name = q.name →
    Names.columnOf p = Names.columnOf q

variable {entity : Entity} {property : String} {p : Property}

/-- What is found for a property declares it. -/
theorem of_declared (h : entity.declared? property = some p) :
    p ∈ entity.properties ∧ p.name = property := by
  have hname := List.find?_some h
  exact ⟨List.mem_of_find?_eq_some h, beq_iff_eq.mp hname⟩

theorem of_lastDeclared (h : entity.lastDeclared? property = some p) :
    p ∈ entity.properties ∧ p.name = property := by
  have hname := List.find?_some h
  exact ⟨List.mem_reverse.mp (List.mem_of_find?_eq_some h), beq_iff_eq.mp hname⟩

/-- A property that has a last declaration has a first one. -/
theorem lastDeclared_eq_none_iff :
    entity.lastDeclared? property = none ↔ entity.declared? property = none := by
  simp only [lastDeclared?, declared?, List.find?_eq_none, List.mem_reverse]

/-- Each declaration of an entity has a last one under its property. -/
theorem exists_lastDeclared (h : p ∈ entity.properties) :
    ∃ last, entity.lastDeclared? p.name = some last := by
  apply Option.isSome_iff_exists.mp
  apply List.find?_isSome.mpr
  exact ⟨p, List.mem_reverse.mpr h, beq_self_eq_true p.name⟩

/-- An entity that declares every property once is consistent. -/
theorem Consistent.of_nodup (h : (entity.properties.map Property.name).Nodup) :
    entity.Consistent := by
  intro p hp q hq hname
  rw [List.inj_on_of_nodup_map h hp hq hname]

end Entity

/-! ## The names of an entity -/

namespace Names

variable {entity : Entity}

/-- Columns are looked up as declarations are found. -/
theorem lookup_columns (declarations : List Property) (property : String) :
    (declarations.map fun p => (p.name, columnOf p)).lookup property =
      (declarations.find? fun p => p.name == property).map columnOf := by
  induction declarations with
  | nil => rfl
  | cons first rest ih =>
      rw [List.map_cons, List.lookup_cons, List.find?_cons, Bool.beq_comm]
      cases first.name == property with
      | true => rfl
      | false => exact ih

/-- The names of an entity hold the columns of the last declarations. -/
theorem column?_ofEntity (entity : Entity) (property : String) :
    (ofEntity entity).column? property = (entity.lastDeclared? property).map columnOf := by
  rw [column?, ofEntity, ← List.map_reverse, lookup_columns]
  rfl

/-- A property has the column of its last declaration, and without one it has none. -/
theorem column_eq (entity : Entity) (property : String) :
    (ofEntity entity).column property = match entity.lastDeclared? property with
      | some last => .ok (columnOf last)
      | none => .error (.resolution (.unknownProperty property entity.name)) := by
  rw [column, column?_ofEntity]
  cases entity.lastDeclared? property <;> rfl

theorem column_eq_ok_iff {property column : String} :
    (ofEntity entity).column property = .ok column ↔
      ∃ last, entity.lastDeclared? property = some last ∧ columnOf last = column := by
  rw [column_eq]
  cases entity.lastDeclared? property with
  | none => simp
  | some last => simp

theorem column_eq_error_iff {property : String} {error : Error} :
    (ofEntity entity).column property = .error error ↔
      entity.declared? property = none ∧
        error = .resolution (.unknownProperty property entity.name) := by
  rw [column_eq, ← Entity.lastDeclared_eq_none_iff]
  cases entity.lastDeclared? property with
  | none => simp [eq_comm]
  | some last => simp

/-- A property has a column if it is declared. -/
theorem exists_column_iff {property : String} :
    (∃ column, (ofEntity entity).column property = .ok column) ↔
      (entity.declared? property).isSome = true := by
  rw [Option.isSome_iff_ne_none, Ne, ← Entity.lastDeclared_eq_none_iff, column_eq]
  cases entity.lastDeclared? property with
  | none => simp
  | some last => simp

/-- Both ways tell the same column if the first and the last declaration do. -/
theorem column_eq_declaredColumn_iff (entity : Entity) (property : String) :
    (ofEntity entity).column property = entity.declaredColumn property ↔
      ∀ first last, entity.declared? property = some first →
        entity.lastDeclared? property = some last → columnOf first = columnOf last := by
  rw [column_eq, Entity.declaredColumn]
  cases hfirst : entity.declared? property with
  | none => simp [Entity.lastDeclared_eq_none_iff.mpr hfirst]
  | some first =>
      cases hlast : entity.lastDeclared? property with
      | none => simp [Entity.lastDeclared_eq_none_iff.mp hlast] at hfirst
      | some last => simp [eq_comm]

/-- Each property is listed with the column of its last declaration. -/
theorem allColumns_eq (entity : Entity) :
    (ofEntity entity).allColumns = entity.properties.map fun p =>
      (p.name, ((entity.lastDeclared? p.name).elim "" columnOf)) := by
  show entity.properties.filterMap _ = _
  rw [← List.filterMap_eq_map]
  apply List.filterMap_congr
  intro p hp
  obtain ⟨last, hlast⟩ := Entity.exists_lastDeclared hp
  simp [column?_ofEntity, hlast]

/-- Each is listed with the column of its own declaration if all declarations of it agree. -/
theorem allColumns_eq_iff (entity : Entity) :
    (ofEntity entity).allColumns = entity.properties.map (fun p => (p.name, columnOf p)) ↔
      entity.Consistent := by
  rw [allColumns_eq, List.map_inj_left]
  constructor
  · intro hown p hp q hq hname
    have hp := congrArg Prod.snd (hown p hp)
    have hq := congrArg Prod.snd (hown q hq)
    rw [hname] at hp
    exact hp.symm.trans hq
  · intro hconsistent p hp
    obtain ⟨last, hlast⟩ := Entity.exists_lastDeclared hp
    obtain ⟨hmem, hname⟩ := Entity.of_lastDeclared hlast
    rw [hlast, Option.elim_some, hconsistent last hmem p hp hname]

/-- A consistent entity tells the same column in both ways. -/
theorem column_of_consistent (h : entity.Consistent) (property : String) :
    (ofEntity entity).column property = entity.declaredColumn property := by
  rw [column_eq_declaredColumn_iff]
  intro first last hfirst hlast
  obtain ⟨hfirstMem, hfirstName⟩ := Entity.of_declared hfirst
  obtain ⟨hlastMem, hlastName⟩ := Entity.of_lastDeclared hlast
  exact h first hfirstMem last hlastMem (hfirstName.trans hlastName.symm)

/-- An entity that declares every property once lists each with the column of its declaration. -/
theorem allColumns_of_nodup (h : (entity.properties.map Property.name).Nodup) :
    (ofEntity entity).allColumns = entity.properties.map fun p => (p.name, columnOf p) :=
  (allColumns_eq_iff entity).mpr (.of_nodup h)

end Names

/-! ## Summary -/

/-- Let the names of an entity be looked up.  They have a column for a property exactly if the
entity declares it, and otherwise the error says that there is no such property.  The column is that
of the last declaration of the property, so it is the one that the entity finds by itself exactly
when the first declaration of the property and the last one say the same.  The columns are listed in
the order of the declarations, each with the column that its property has in the end; they are the
columns of the declarations themselves exactly when the entity is consistent.

An entity in which no property is declared twice is consistent, and for a consistent entity both
ways agree about every property. -/
theorem columns_are_those_declared_last {catalog catalog' : Catalog} (hcatalog : catalog.Reached)
    {entity : Entity} {names : Names}
    (hlookup : Catalog.lookup entity catalog = .ok names catalog') :
    (∀ property, (∃ column, names.column property = .ok column) ↔
      (entity.declared? property).isSome = true) ∧
    (∀ property error, names.column property = .error error ↔
      entity.declared? property = none ∧
        error = .resolution (.unknownProperty property entity.name)) ∧
    (∀ property column, names.column property = .ok column ↔
      ∃ last, entity.lastDeclared? property = some last ∧ Names.columnOf last = column) ∧
    (∀ property, names.column property = entity.declaredColumn property ↔
      ∀ first last, entity.declared? property = some first →
        entity.lastDeclared? property = some last →
          Names.columnOf first = Names.columnOf last) ∧
    names.allColumns.map (·.1) = entity.properties.map (·.name) ∧
    (∀ p ∈ names.allColumns, names.column p.1 = .ok p.2) ∧
    (names.allColumns = entity.properties.map (fun p => (p.name, Names.columnOf p)) ↔
      entity.Consistent) ∧
    ((entity.properties.map Property.name).Nodup → entity.Consistent) ∧
    (entity.Consistent → ∀ property,
      names.column property = entity.declaredColumn property) := by
  obtain ⟨rfl, -⟩ := Catalog.lookup_eq_ok hlookup hcatalog.faithful
  refine ⟨fun _ => Names.exists_column_iff, fun _ _ => Names.column_eq_error_iff,
    fun _ _ => Names.column_eq_ok_iff, Names.column_eq_declaredColumn_iff entity, ?_, ?_,
    Names.allColumns_eq_iff entity, Entity.Consistent.of_nodup, Names.column_of_consistent⟩
  · rw [Names.allColumns_eq, List.map_map]
    rfl
  · intro p hp
    rw [Names.allColumns_eq] at hp
    obtain ⟨declaration, hmem, rfl⟩ := List.mem_map.mp hp
    obtain ⟨last, hlast⟩ := Entity.exists_lastDeclared hmem
    simp [Names.column_eq, hlast]

/-- A property that is declared twice, with another column each time. -/
def Entity.redeclared : Entity :=
  ⟨"m::Dup", "DupProps", none, [⟨"id", some "first"⟩, ⟨"other", none⟩, ⟨"id", some "second"⟩]⟩

/-- The two ways to its column disagree, and it is listed twice with the second column. -/
theorem redeclared_property_has_two_columns :
    (Names.ofEntity .redeclared).column "id" = .ok "second" ∧
    Entity.redeclared.declaredColumn "id" = .ok "first" ∧
    (Names.ofEntity .redeclared).allColumns =
      [("id", "second"), ("other", "other"), ("id", "second")] ∧
    ¬∀ (entity : Entity) (property : String),
      (Names.ofEntity entity).column property = entity.declaredColumn property := by
  have hcolumn : (Names.ofEntity .redeclared).column "id" = .ok "second" := by decide +kernel
  have hdeclared : Entity.redeclared.declaredColumn "id" = .ok "first" := by decide +kernel
  refine ⟨hcolumn, hdeclared, by decide +kernel, fun hall => ?_⟩
  have hsame := (hcolumn.symm.trans (hall .redeclared "id")).trans hdeclared
  exact absurd (Except.ok.inj hsame) (by decide)

/-- The names of this entity, looked up in an empty catalog, have the column that is declared last,
and about the property that is declared once both ways agree. -/
theorem columns_of_redeclared :
    ∃ names catalog', Catalog.lookup .redeclared (.empty 1) = .ok names catalog' ∧
      names.column "id" = .ok "second" ∧
      names.column "other" = Entity.redeclared.declaredColumn "other" ∧
      names.column "none" = .error (.resolution (.unknownProperty "none" "DupProps")) ∧
      ¬Entity.redeclared.Consistent := by
  obtain ⟨names, catalog', hlookup⟩ : ∃ names catalog',
      Catalog.lookup .redeclared (.empty 1) = .ok names catalog' :=
    Step.exists_of_succeeds (by decide +kernel)
  obtain ⟨-, herror, hcolumn, hagree, -, -, -, -, hconsistent⟩ :=
    columns_are_those_declared_last (.empty 1) hlookup
  have hlast : Entity.redeclared.lastDeclared? "id" = some ⟨"id", some "second"⟩ := by decide
  have hid : names.column "id" = .ok "second" := (hcolumn "id" "second").mpr ⟨_, hlast, rfl⟩
  refine ⟨names, catalog', hlookup, hid, ?_, (herror "none" _).mpr ⟨by decide, rfl⟩, ?_⟩
  · refine (hagree "other").mpr fun first last hfirst hlast => ?_
    have honce : Entity.redeclared.declared? "other" =
        Entity.redeclared.lastDeclared? "other" := by decide
    rw [Option.some.inj ((hfirst.symm.trans honce).trans hlast)]
  · intro hall
    have hsame := hid.symm.trans (hconsistent hall "id")
    exact absurd hsame (by decide +kernel)

end QueryLoom

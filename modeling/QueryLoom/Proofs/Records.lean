import Mathlib.Data.List.Find
import QueryLoom.Derive.Declaration
import QueryLoom.Proofs.Declarations
import QueryLoom.Proofs.OutputNames
import QueryLoom.Row

/-!
# Records by their labels

Two things are derived from one declaration: the entity, which says under which columns values are
stored, and the labels under which a record finds them in a row.  Each field is looked for under its
property, which select lists give as the output name, and then under its column.  Nothing else of a
row is looked at, so the order of its columns does not matter, and neither do columns with other
labels.

## Main definitions

* `Derive.Derives`: what is derived from the fields of a declaration.
* `Derive.FieldType`, `Derive.readers`: the readers of a record with typed fields.
* `Derive.recordOf`: the record with given contents.

## Main results

* `Row.readRecord_congr`: a record depends only on what a row has under its labels.
* `Row.get?_of_perm`: rows with distinct labels may be reordered and extended.
* `Derive.derives_of_entity`: the properties of the entity and the labels of the record belong
  together.
* `Chain.all_selected_by_name`: a selection of all properties returns them under their names.
* `records_are_read_by_either_label`: the summary.
-/

namespace QueryLoom

open Step

/-! ## What a row has under a label -/

namespace Row

variable {α : Type}

/-- A label stands for the first pair that has it. -/
theorem get?_ofPairs (pairs : List (String × Value)) (label : String) :
    (ofPairs pairs).get? label = pairs.lookup label := by
  induction pairs with
  | nil => rfl
  | cons pair rest ih =>
      have hrest : (((rest.map (·.1)).findIdx? (· == label)).bind fun i =>
          (rest.map (·.2))[i]?) = rest.lookup label := ih
      show ((List.findIdx? (· == label) (pair.1 :: rest.map (·.1))).bind fun i =>
        (pair.2 :: rest.map (·.2))[i]?) = _
      rw [List.findIdx?_cons, List.lookup_cons, Bool.beq_comm, ← hrest]
      cases label == pair.1 with
      | true => rfl
      | false => simp [Option.bind_map, Function.comp_def]

/-- A label that one value has stands for this value. -/
theorem lookup_of_unique {pairs : List (String × Value)} {label : String} {value : Value}
    (hmem : (label, value) ∈ pairs) (hunique : ∀ other, (label, other) ∈ pairs → other = value) :
    pairs.lookup label = some value := by
  cases hlookup : pairs.lookup label with
  | none =>
      have hother := List.lookup_eq_none_iff.mp hlookup (label, value) hmem
      simp at hother
  | some other =>
      obtain ⟨before, after, rfl, -⟩ := List.lookup_eq_some_iff.mp hlookup
      rw [hunique other (by simp)]

/-- Labels that are distinct stand for their own values. -/
theorem lookup_of_nodup {pairs : List (String × Value)} (hnodup : (pairs.map (·.1)).Nodup)
    {label : String} {value : Value} (hmem : (label, value) ∈ pairs) :
    pairs.lookup label = some value := by
  refine lookup_of_unique hmem fun other hother => ?_
  have hsame := List.inj_on_of_nodup_map hnodup hother hmem rfl
  exact congrArg Prod.snd hsame

/-- A row of things with distinct labels has under each label the value of its thing. -/
theorem get?_of_labelled {β : Type} {things : List β} {label : β → String} (value : β → Value)
    (hnodup : (things.map label).Nodup) {b : β} (hmem : b ∈ things) :
    (ofPairs (things.map fun b => (label b, value b))).get? (label b) = some (value b) := by
  rw [get?_ofPairs]
  refine lookup_of_nodup ?_ (List.mem_map_of_mem hmem)
  rwa [List.map_map]

/-- The columns of a row with distinct labels may be reordered, and columns with other labels may be
added. -/
theorem get?_of_perm {pairs base extra : List (String × Value)}
    (hnodup : (base.map (·.1)).Nodup) (hperm : pairs.Perm (base ++ extra)) {label : String}
    (hextra : ∀ e ∈ extra, e.1 ≠ label) :
    (ofPairs pairs).get? label = (ofPairs base).get? label := by
  rw [get?_ofPairs, get?_ofPairs]
  have hbase : ∀ {value}, (label, value) ∈ pairs → (label, value) ∈ base := by
    intro value hmem
    rcases List.mem_append.mp (hperm.mem_iff.mp hmem) with hbase | hadded
    · exact hbase
    · exact absurd rfl (hextra _ hadded)
  cases hlookup : base.lookup label with
  | some value =>
      obtain ⟨before, after, rfl, -⟩ := List.lookup_eq_some_iff.mp hlookup
      have hmem : (label, value) ∈ before ++ (label, value) :: after := by simp
      refine lookup_of_unique (hperm.mem_iff.mpr (List.mem_append_left _ hmem)) ?_
      intro other hother
      have hother := lookup_of_nodup hnodup (hbase hother)
      exact Option.some.inj (hother.symm.trans hlookup)
  | none =>
      rw [List.lookup_eq_none_iff] at hlookup ⊢
      rintro ⟨name, value⟩ hmem
      by_cases hname : label = name
      · subst hname
        exact hlookup _ (hbase hmem)
      · simpa using hname

/-! ## Reading under labels -/

/-- A field depends only on what a row has under its labels. -/
theorem readAny_congr {row other : Row} {labels : List String}
    (h : ∀ label ∈ labels, row.get? label = other.get? label)
    (reader : Value → Except DecodeFault α) :
    row.readAny reader labels = other.readAny reader labels := by
  have hfind : (labels.find? fun label => (row.get? label).isSome) =
      labels.find? fun label => (other.get? label).isSome :=
    List.find?_congr fun label hlabel => by rw [h label hlabel]
  unfold readAny
  rw [hfind]
  cases hfound : labels.find? fun label => (other.get? label).isSome with
  | none => rfl
  | some label =>
      show row.read reader label = other.read reader label
      unfold read
      rw [h label (List.mem_of_find?_eq_some hfound)]

/-- So does a record. -/
theorem readRecord_congr {row other : Row} {readers : List (FieldReader α)}
    (h : ∀ reader ∈ readers, ∀ labels, reader.labels = some labels →
      ∀ label ∈ labels, row.get? label = other.get? label) :
    row.readRecord readers = other.readRecord readers := by
  unfold readRecord
  induction readers with
  | nil => rfl
  | cons reader rest ih =>
      obtain ⟨hfirst, hrest⟩ := List.forall_mem_cons.mp h
      have hread : row.readField reader = other.readField reader := by
        unfold readField
        cases hlabels : reader.labels with
        | none => rfl
        | some labels => exact readAny_congr (hfirst labels hlabels) reader.reader
      rw [List.mapM_cons, List.mapM_cons, hread, ih hrest]

/-- A field is read under its first label if the row has it. -/
theorem readAny_of_first {row : Row} {label : String} {value : Value}
    (h : row.get? label = some value) (rest : List String)
    (reader : Value → Except DecodeFault α) :
    row.readAny reader (label :: rest) = blame label (reader value) := by
  have hfound : ((label :: rest).find? fun l => (row.get? l).isSome) = some label :=
    List.find?_cons_of_pos (by rw [h, Option.isSome_some])
  unfold readAny
  rw [hfound]
  show row.read reader label = _
  rw [read, h]

/-- It is read under a later label if the row does not have the first one. -/
theorem readAny_of_rest {row : Row} {label : String} (h : row.get? label = none) {next : String}
    {value : Value} (hnext : row.get? next = some value) (rest : List String)
    (reader : Value → Except DecodeFault α) :
    row.readAny reader (label :: next :: rest) = blame next (reader value) := by
  have hfound : ((label :: next :: rest).find? fun l => (row.get? l).isSome) = some next := by
    rw [List.find?_cons_of_neg (by simp [h])]
    exact List.find?_cons_of_pos (by rw [hnext, Option.isSome_some])
  unfold readAny
  rw [hfound]
  show row.read reader next = _
  rw [read, hnext]

section Fields

variable {row : Row} {reader : Value → Except DecodeFault α} {default : α}
  {rest : List (FieldReader α)} {more : List α}

/-- A field without labels has its default. -/
theorem readRecord_of_default (hrest : row.readRecord rest = .ok more) :
    row.readRecord (⟨none, reader, default⟩ :: rest) = .ok (default :: more) := by
  unfold readRecord at hrest ⊢
  rw [List.mapM_cons, hrest]
  rfl

/-- A field with labels has what is read under them. -/
theorem readRecord_of_labels {labels : List String} {a : α}
    (hfirst : row.readAny reader labels = .ok a) (hrest : row.readRecord rest = .ok more) :
    row.readRecord (⟨some labels, reader, default⟩ :: rest) = .ok (a :: more) := by
  unfold readRecord at hrest ⊢
  have hfield : row.readField ⟨some labels, reader, default⟩ = .ok a := hfirst
  rw [List.mapM_cons, hfield, hrest]
  rfl

end Fields

end Row

/-! ## What is derived from fields -/

namespace Derive

/-- The names of the fields of a declaration, as properties are named after them. -/
def Declaration.fieldNames (declaration : Declaration) : List String :=
  declaration.fields.map fun field => plainName field.name

/-- Whether the attributes of a field say that it is skipped. -/
def FieldDeclaration.isSkipped (field : FieldDeclaration) : Bool :=
  match Attribute.ofField field.annotations with
  | .ok said => said.skip
  | .error _ => false

theorem FieldDeclaration.isSkipped_eq {field : FieldDeclaration} {said : Attribute}
    (hsaid : Attribute.ofField field.annotations = .ok said) : field.isSkipped = said.skip := by
  rw [isSkipped, hsaid]

/-- What is derived from the fields of a declaration: the properties of the entity, and the labels
of the record.  A field that is not skipped has both from the same column. -/
inductive Derives :
    List FieldDeclaration → List Property → List (String × Option (List String)) → Prop where
  | nil : Derives [] [] []
  | skipped {field : FieldDeclaration} {fields : List FieldDeclaration} {said : Attribute}
      {properties : List Property} {read : List (String × Option (List String))} :
      Attribute.ofField field.annotations = .ok said → said.skip = true →
        Derives fields properties read →
          Derives (field :: fields) properties ((field.name, none) :: read)
  | stored {field : FieldDeclaration} {fields : List FieldDeclaration} {said : Attribute}
      {properties : List Property} {read : List (String × Option (List String))} :
      Attribute.ofField field.annotations = .ok said → said.skip = false →
        Derives fields properties read →
          Derives (field :: fields) (⟨plainName field.name, said.column⟩ :: properties)
            ((field.name, some (labels (plainName field.name) said.column)) :: read)

/-- A field is read under its labels unless it is skipped. -/
theorem mapM_readField_cons {field : FieldDeclaration} {fields : List FieldDeclaration}
    {said : Attribute} {read : List (String × Option (List String))}
    (hsaid : Attribute.ofField field.annotations = .ok said)
    (hread : fields.mapM readField = .ok read) :
    (field :: fields).mapM readField = .ok ((field.name,
      if said.skip then none else some (labels (plainName field.name) said.column)) :: read) := by
  rw [List.mapM_cons, readField, hsaid, hread]
  rfl

/-- Fields that can be stored can be read. -/
theorem derives_of_storedFields {visibility : String} {fields : List FieldDeclaration}
    {stored : List (Property × Constant)} (h : storedFields visibility fields = .ok stored) :
    ∃ read, fields.mapM readField = .ok read ∧ Derives fields (stored.map (·.1)) read := by
  induction fields generalizing stored with
  | nil =>
      cases h
      exact ⟨[], rfl, .nil⟩
  | cons field rest ih =>
      obtain ⟨said, hsaid, h⟩ := exists_of_bind_eq_ok h
      cases hskipped : said.skip with
      | true =>
          simp only [hskipped, ↓reduceIte] at h
          obtain ⟨read, hread, hderives⟩ := ih h
          have hfirst := mapM_readField_cons hsaid hread
          rw [hskipped] at hfirst
          exact ⟨_, hfirst, .skipped hsaid hskipped hderives⟩
      | false =>
          simp only [hskipped, Bool.false_eq_true, ↓reduceIte] at h
          split at h
          · obtain ⟨more, hmore, h⟩ := exists_of_bind_eq_ok h
            cases h
            obtain ⟨read, hread, hderives⟩ := ih hmore
            have hfirst := mapM_readField_cons hsaid hread
            rw [hskipped] at hfirst
            exact ⟨_, hfirst, .stored hsaid hskipped hderives⟩
          · cases h

/-- The fields of a record are read once they have names. -/
theorem record_of_mapM_readField {declaration : Declaration}
    (hshape : declaration.shape = .namedFields) {read : List (String × Option (List String))}
    (hread : declaration.fields.mapM readField = .ok read) :
    ∃ derived, record declaration = .ok derived ∧ derived.fields = read := by
  have hnamed : declaration.namedFields "FromRow" = .ok declaration.fields := by
    rw [Declaration.namedFields, hshape]
  unfold record
  rw [hnamed]
  show ∃ derived, (declaration.fields.mapM readField >>= _) = .ok derived ∧ _
  rw [hread]
  exact ⟨_, rfl, rfl⟩

/-- What is stored as an entity can be read as a record, and both are derived from the same
fields. -/
theorem derives_of_entity {modulePath : String} {declaration : Declaration}
    {derived : EntityDerivation} (h : entity modulePath declaration = .ok derived) :
    ∃ read, record declaration = .ok read ∧
      Derives declaration.fields derived.entity.properties read.fields := by
  unfold entity at h
  split at h
  · cases h
  · obtain ⟨table, -, h⟩ := exists_of_bind_eq_ok h
    obtain ⟨fields, hfields, h⟩ := exists_of_bind_eq_ok h
    obtain ⟨stored, hstored, h⟩ := exists_of_bind_eq_ok h
    split at h
    · cases h
    · cases h
      unfold Declaration.namedFields at hfields
      cases hshape : declaration.shape with
      | namedFields =>
          rw [hshape] at hfields
          cases hfields
          obtain ⟨read, hread, hderives⟩ := derives_of_storedFields hstored
          obtain ⟨reading, hrecord, rfl⟩ := record_of_mapM_readField hshape hread
          exact ⟨reading, hrecord, hderives⟩
      | _ =>
          rw [hshape] at hfields
          cases hfields

namespace Derives

variable {fields : List FieldDeclaration} {properties : List Property}
  {read : List (String × Option (List String))}

/-- The properties are named after fields that are not skipped. -/
theorem names_sublist (h : Derives fields properties read) :
    List.Sublist (properties.map Property.name) (fields.map fun field => plainName field.name) := by
  induction h with
  | nil => exact .slnil
  | skipped _ _ _ ih => exact ih.cons _
  | stored _ _ _ ih => exact ih.cons_cons _

/-- Fields are looked for under the names of properties and under their columns. -/
theorem mem_labels (h : Derives fields properties read) {name : String} {found : List String}
    (hmem : (name, some found) ∈ read) :
    ∃ p ∈ properties, found = labels p.name p.column := by
  induction h with
  | nil => cases hmem
  | skipped _ _ _ ih =>
      rcases List.mem_cons.mp hmem with hfirst | hrest
      · cases hfirst
      · exact ih hrest
  | stored _ _ _ ih =>
      rcases List.mem_cons.mp hmem with hfirst | hrest
      · cases hfirst
        exact ⟨_, List.mem_cons_self, rfl⟩
      · obtain ⟨p, hp, hlabels⟩ := ih hrest
        exact ⟨p, List.mem_cons_of_mem _ hp, hlabels⟩

end Derives

/-- The second label, which is worked out apart from the names of the entity, is the column that
these give to the property. -/
theorem labels_eq (p : Property) : labels p.name p.column =
    if Names.columnOf p = p.name then [p.name] else [p.name, Names.columnOf p] :=
  rfl

/-- The labels of a property are its name and its column. -/
theorem mem_labels_iff {p : Property} {label : String} :
    label ∈ labels p.name p.column ↔ label = p.name ∨ label = Names.columnOf p := by
  rw [labels_eq]
  by_cases hsame : Names.columnOf p = p.name
  · simp [hsame]
  · simp [hsame]

/-! ## Records of typed fields -/

/-- What reading has to know of the type of a field: how values are read, and the default. -/
structure FieldType (α : Type) where
  reader : Value → Except DecodeFault α
  default : α

variable {α : Type}

/-- The readers of a record whose fields have the given types. -/
def readers (types : String → FieldType α) (read : List (String × Option (List String))) :
    List (FieldReader α) :=
  read.map fun field =>
    ⟨field.2, (types (plainName field.1)).reader, (types (plainName field.1)).default⟩

/-- The record with the given contents, in which skipped fields have their default. -/
def recordOf (types : String → FieldType α) (contents : String → α)
    (fields : List FieldDeclaration) : List α :=
  fields.map fun field =>
    if field.isSkipped then (types (plainName field.name)).default
    else contents (plainName field.name)

theorem recordOf_cons (types : String → FieldType α) (contents : String → α)
    (field : FieldDeclaration) (fields : List FieldDeclaration) :
    recordOf types contents (field :: fields) =
      (if field.isSkipped then (types (plainName field.name)).default
        else contents (plainName field.name)) :: recordOf types contents fields :=
  rfl

/-- A property whose name is a label is read under it. -/
theorem readAny_by_name {row : Row} {p : Property} {value : Value}
    (hget : row.get? p.name = some value) {reader : Value → Except DecodeFault α} {a : α}
    (hread : reader value = .ok a) : row.readAny reader (labels p.name p.column) = .ok a := by
  obtain ⟨rest, hlabels⟩ : ∃ rest, labels p.name p.column = p.name :: rest := by
    rw [labels_eq]
    by_cases hsame : Names.columnOf p = p.name
    · exact ⟨[], if_pos hsame⟩
    · exact ⟨[Names.columnOf p], if_neg hsame⟩
  rw [hlabels, Row.readAny_of_first hget, hread]
  rfl

/-- A property whose name is no label is read under its column. -/
theorem readAny_by_column {row : Row} {p : Property} {value : Value}
    (hname : Names.columnOf p ≠ p.name → row.get? p.name = none)
    (hget : row.get? (Names.columnOf p) = some value) {reader : Value → Except DecodeFault α}
    {a : α} (hread : reader value = .ok a) :
    row.readAny reader (labels p.name p.column) = .ok a := by
  by_cases hsame : Names.columnOf p = p.name
  · exact readAny_by_name (hsame ▸ hget) hread
  · rw [labels_eq, if_neg hsame, Row.readAny_of_rest (hname hsame) hget, hread]
    rfl

namespace Derives

variable {fields : List FieldDeclaration} {properties : List Property}
  {read : List (String × Option (List String))} {types : String → FieldType α} {row : Row}

/-- A record is read when its properties are. -/
theorem readRecord (h : Derives fields properties read) {contents : String → α}
    (hread : ∀ p ∈ properties, row.readAny (types p.name).reader (labels p.name p.column) =
      .ok (contents p.name)) :
    row.readRecord (readers types read) = .ok (recordOf types contents fields) := by
  induction h with
  | nil => rfl
  | skipped hsaid hskipped _ ih =>
      rw [recordOf_cons, if_pos ((FieldDeclaration.isSkipped_eq hsaid).trans hskipped)]
      exact Row.readRecord_of_default (ih hread)
  | stored hsaid hstored _ ih =>
      obtain ⟨hfirst, hrest⟩ := List.forall_mem_cons.mp hread
      rw [recordOf_cons, if_neg (by simp [FieldDeclaration.isSkipped_eq hsaid, hstored])]
      exact Row.readRecord_of_labels hfirst (ih hrest)

/-- Rows that agree on the names and columns of the properties are read alike. -/
theorem readRecord_congr (h : Derives fields properties read) {other : Row}
    (hsame : ∀ p ∈ properties, row.get? p.name = other.get? p.name ∧
      row.get? (Names.columnOf p) = other.get? (Names.columnOf p)) :
    row.readRecord (readers types read) = other.readRecord (readers types read) := by
  refine Row.readRecord_congr fun reader hreader found hfound label hlabel => ?_
  obtain ⟨⟨name, labels?⟩, hmem, rfl⟩ := List.mem_map.mp hreader
  obtain rfl : labels? = some found := hfound
  obtain ⟨p, hp, rfl⟩ := h.mem_labels hmem
  rcases mem_labels_iff.mp hlabel with rfl | rfl
  · exact (hsame p hp).1
  · exact (hsame p hp).2

/-- A skipped field has its default, whatever is read. -/
theorem default_of_skipped (h : Derives fields properties read) {values : List α}
    (hread : row.readRecord (readers types read) = .ok values) {i : Nat} {field : FieldDeclaration}
    (hfield : fields[i]? = some field) (hskipped : field.isSkipped = true) :
    values[i]? = some (types (plainName field.name)).default := by
  induction h generalizing values i with
  | nil => cases hfield
  | skipped _ _ _ ih =>
      rw [readers, List.map_cons, Row.readRecord, List.mapM_cons] at hread
      obtain ⟨first, hfirst, hread⟩ := exists_of_bind_eq_ok hread
      obtain ⟨rest, hrest, hread⟩ := exists_of_bind_eq_ok hread
      cases hfirst
      cases hread
      cases i with
      | zero =>
          cases hfield
          rfl
      | succ i => exact ih hrest hfield
  | stored hsaid hstored _ ih =>
      rw [readers, List.map_cons, Row.readRecord, List.mapM_cons] at hread
      obtain ⟨first, hfirst, hread⟩ := exists_of_bind_eq_ok hread
      obtain ⟨rest, hrest, hread⟩ := exists_of_bind_eq_ok hread
      cases hread
      cases i with
      | zero =>
          cases hfield
          rw [FieldDeclaration.isSkipped_eq hsaid, hstored] at hskipped
          cases hskipped
      | succ i => exact ih hrest hfield

/-- The row of the properties by their names. -/
theorem readRecord_by_name (h : Derives fields properties read)
    (hnodup : (properties.map Property.name).Nodup) {value : String → Value}
    {contents : String → α}
    (hdecodes : ∀ p ∈ properties, (types p.name).reader (value p.name) = .ok (contents p.name)) :
    (Row.ofPairs (properties.map fun p => (p.name, value p.name))).readRecord (readers types read) =
      .ok (recordOf types contents fields) := by
  refine h.readRecord fun p hp => readAny_by_name ?_ (hdecodes p hp)
  exact Row.get?_of_labelled (fun p => value p.name) hnodup hp

/-- The row of the properties by their columns, which are distinct and no names of other
properties. -/
theorem readRecord_by_column (h : Derives fields properties read)
    (hnames : (properties.map Property.name).Nodup) (hnodup : (properties.map Names.columnOf).Nodup)
    (hapart : ∀ p ∈ properties, ∀ q ∈ properties, p.name = Names.columnOf q → p.name = q.name)
    {value : String → Value} {contents : String → α}
    (hdecodes : ∀ p ∈ properties, (types p.name).reader (value p.name) = .ok (contents p.name)) :
    (Row.ofPairs (properties.map fun p => (Names.columnOf p, value p.name))).readRecord
      (readers types read) = .ok (recordOf types contents fields) := by
  refine h.readRecord fun p hp => readAny_by_column (fun hother => ?_) ?_ (hdecodes p hp)
  · rw [Row.get?_ofPairs, List.lookup_eq_none_iff]
    intro pair hpair
    obtain ⟨q, hq, rfl⟩ := List.mem_map.mp hpair
    have hdistinct : p.name ≠ Names.columnOf q := by
      intro hsame
      obtain rfl := List.inj_on_of_nodup_map hnames hp hq (hapart p hp q hq hsame)
      exact hother hsame.symm
    simpa using hdistinct
  · exact Row.get?_of_labelled (fun p => value p.name) hnodup hp

/-- A record does not change when the columns of its row are reordered, or columns are added whose
labels are no names and no columns of its properties. -/
theorem readRecord_of_perm (h : Derives fields properties read)
    {pairs base extra : List (String × Value)} (hnodup : (base.map (·.1)).Nodup)
    (hperm : pairs.Perm (base ++ extra))
    (hextra : ∀ e ∈ extra, ∀ p ∈ properties, e.1 ≠ p.name ∧ e.1 ≠ Names.columnOf p) :
    (Row.ofPairs pairs).readRecord (readers types read) =
      (Row.ofPairs base).readRecord (readers types read) :=
  h.readRecord_congr fun p hp =>
    ⟨Row.get?_of_perm hnodup hperm fun e he => (hextra e he p hp).1,
      Row.get?_of_perm hnodup hperm fun e he => (hextra e he p hp).2⟩

end Derives

end Derive

/-! ## Select lists of all properties -/

/-- The texts of properties of an entity whose fields have no aliases. -/
theorem Field.mapM_directSelection {aliases : Aliases} {entity : Entity}
    (hunnamed : ∀ property, aliases.outputName ⟨entity, property⟩ = property)
    {properties : List Property} {texts : List String}
    (h : properties.mapM (fun p => directSelection aliases ⟨entity, p.name⟩) = .ok texts) :
    ∃ references : List String, references.length = properties.length ∧
      texts = List.zipWith (fun reference p => reference ++ " AS " ++ Identifier.quote p.name)
        references properties := by
  induction properties generalizing texts with
  | nil =>
      cases h
      exact ⟨[], rfl, rfl⟩
  | cons p rest ih =>
      rw [List.mapM_cons] at h
      obtain ⟨text, htext, h⟩ := exists_of_bind_eq_ok h
      obtain ⟨others, hothers, h⟩ := exists_of_bind_eq_ok h
      obtain ⟨reference, -, htext⟩ := exists_of_bind_eq_ok htext
      cases htext
      cases h
      obtain ⟨references, hlength, rfl⟩ := ih hothers
      have hname : (aliases.columnAlias? ⟨entity, p.name⟩).getD p.name = p.name :=
        hunnamed p.name
      rw [hname]
      exact ⟨reference :: references, congrArg (· + 1) hlength, rfl⟩

/-- A selection of all properties of an entity, and of nothing else, returns them under their
names. -/
theorem Chain.all_selected_by_name {stage : Stage} (fetchable : stage.fetchable = true)
    {chain : Chain stage} {entity : Entity} (hall : chain.selected = [.all entity])
    {catalog : Catalog} (hcatalog : catalog.Reached) {bound : BoundStatement}
    (hbuild : outcome (chain.statement.build catalog) = .ok bound) :
    ∃ (references : List String) (others : String),
      references.length = entity.properties.length ∧
      bound.sql = joined ["SELECT", ", ".intercalate (List.zipWith
        (fun reference p => reference ++ " AS " ++ Identifier.quote p.name)
        references entity.properties), others] := by
  have hnamed := Stage.isNamed_of_fetchable fetchable
  have hbuilt : chain.statement.direct .rows = .ok bound :=
    Chain.direct_of_buildAs hcatalog (eq_ok_of_outcome hbuild)
  obtain ⟨-, aliases, haliases, hsql, -⟩ := Statement.direct_eq_ok hbuilt
  have hmode : chain.statement.modeOf .rows ≠ .count := by
    rw [Statement.modeOf]
    decide
  obtain ⟨listed, others, hlisted, hjoined⟩ := Chain.exists_listed hnamed hmode hsql
  rw [hall] at hlisted
  obtain ⟨rows, hrows, hlisted⟩ := exists_of_bind_eq_ok hlisted
  cases hlisted
  rw [List.mapM_cons, List.mapM_nil] at hrows
  obtain ⟨texts, htexts, hrows⟩ := exists_of_bind_eq_ok hrows
  cases hrows
  obtain ⟨references, hlength, rfl⟩ := Field.mapM_directSelection (fun property => by
    rw [Statement.outputName_of_directAliases haliases, chain.outputName_eq, hall]
    rfl) htexts
  rw [List.flatten_singleton] at hjoined
  exact ⟨references, others, hlength, hjoined⟩

/-! ## Summary -/

/-- Let an entity be derived from a declaration, whose fields have different names, and let its
names be looked up in a catalog.  Then a record is derived from the declaration, too.  A selection
of all properties returns them under their names.

Let the fields have any types, and let values be given to the properties that can be read.  The row
that has these values under the names of the properties is read as the record of what they are read
as; so is the row that has them under the columns, if these are different and none of them is the
name of another property.  Either row may be reordered, and columns with labels that are neither
names nor columns of properties may be added.  Whatever row is read, skipped fields have their
defaults. -/
theorem records_are_read_by_either_label {modulePath : String} {declaration : Derive.Declaration}
    {derived : Derive.EntityDerivation}
    (hentity : Derive.entity modulePath declaration = .ok derived)
    (hdistinct : declaration.fieldNames.Nodup) {catalog catalog' : Catalog}
    (hcatalog : catalog.Reached) {names : Names}
    (hlookup : Catalog.lookup derived.entity catalog = .ok names catalog') :
    ∃ reading, Derive.record declaration = .ok reading ∧
      (∀ (stage : Stage) (chain : Chain stage) (bound : BoundStatement),
        stage.fetchable = true → chain.selected = [.all derived.entity] →
        outcome (chain.statement.build catalog) = .ok bound →
          ∃ (references : List String) (others : String),
            references.length = derived.entity.properties.length ∧
            bound.sql = joined ["SELECT", ", ".intercalate (List.zipWith
              (fun reference p => reference ++ " AS " ++ Identifier.quote p.name)
              references derived.entity.properties), others]) ∧
      ∀ {α : Type} (types : String → Derive.FieldType α),
        (∀ (value : String → Value) (contents : String → α),
          (∀ p ∈ derived.entity.properties,
            (types p.name).reader (value p.name) = .ok (contents p.name)) →
          ∀ pairs extra : List (String × Value),
          (∀ e ∈ extra, ∀ c ∈ names.allColumns, e.1 ≠ c.1 ∧ e.1 ≠ c.2) →
            (pairs.Perm (derived.entity.properties.map (fun p => (p.name, value p.name)) ++ extra) →
              (Row.ofPairs pairs).readRecord (Derive.readers types reading.fields) =
                .ok (Derive.recordOf types contents declaration.fields)) ∧
            ((names.allColumns.map (·.2)).Nodup →
              (∀ c ∈ names.allColumns, ∀ d ∈ names.allColumns, c.1 ≠ d.1 → c.1 ≠ d.2) →
              pairs.Perm (names.allColumns.map (fun c => (c.2, value c.1)) ++ extra) →
                (Row.ofPairs pairs).readRecord (Derive.readers types reading.fields) =
                  .ok (Derive.recordOf types contents declaration.fields))) ∧
        ∀ (row : Row) (values : List α) (i : Nat) (field : Derive.FieldDeclaration),
          row.readRecord (Derive.readers types reading.fields) = .ok values →
          declaration.fields[i]? = some field → field.isSkipped = true →
            values[i]? = some (types (Derive.plainName field.name)).default := by
  obtain ⟨reading, hrecord, hderives⟩ := Derive.derives_of_entity hentity
  have hnames : (derived.entity.properties.map Property.name).Nodup :=
    hdistinct.sublist hderives.names_sublist
  obtain ⟨rfl, -⟩ := Catalog.lookup_eq_ok hlookup hcatalog.faithful
  rw [Names.allColumns_of_nodup hnames]
  refine ⟨reading, hrecord, fun stage chain bound fetchable hall hbuild =>
    Chain.all_selected_by_name fetchable hall hcatalog hbuild, fun types =>
    ⟨fun value contents hdecodes pairs extra hextra => ?_, fun row values i field hread hfield =>
      hderives.default_of_skipped hread hfield⟩⟩
  have hextra : ∀ e ∈ extra, ∀ p ∈ derived.entity.properties,
      e.1 ≠ p.name ∧ e.1 ≠ Names.columnOf p := fun e he p hp =>
    hextra e he _ (List.mem_map_of_mem hp)
  refine ⟨fun hperm => ?_, fun hcolumns hapart hperm => ?_⟩
  · rw [hderives.readRecord_of_perm (by rwa [List.map_map]) hperm hextra]
    exact hderives.readRecord_by_name hnames hdecodes
  · rw [List.map_map] at hcolumns hperm
    rw [hderives.readRecord_of_perm (by rwa [List.map_map]) hperm hextra]
    refine hderives.readRecord_by_column hnames hcolumns (fun p hp q hq hsame => ?_) hdecodes
    by_contra hother
    exact hapart _ (List.mem_map_of_mem hp) _ (List.mem_map_of_mem hq) hother hsame

/-- Accounts, whose names are stored in a column of another name, and whose notes are not stored. -/
def Derive.Declaration.account : Derive.Declaration where
  name := "Account"
  visibility := "pub"
  shape := .namedFields
  parameters := []
  annotations := []
  fields :=
    [⟨"id", []⟩, ⟨"name", [.items [.name "column", .equals, .text "full_name"]]⟩,
     ⟨"note", [.items [.name "skip"]]⟩]

/-- The entity derived for them. -/
def Entity.account : Entity :=
  ⟨"app::Account", "Account", none, [⟨"id", none⟩, ⟨"name", some "full_name"⟩]⟩

theorem Derive.entity_account :
    ∃ derived, Derive.entity "app" .account = .ok derived ∧ derived.entity = .account := by
  have hderived : (Derive.entity "app" .account).map EntityDerivation.entity = .ok .account := by
    decide +kernel
  cases hentity : Derive.entity "app" .account with
  | error fault =>
      rw [hentity] at hderived
      cases hderived
  | ok derived =>
      rw [hentity] at hderived
      exact ⟨derived, rfl, Except.ok.inj hderived⟩

/-- The identity of an account is a number, and everything else is text. -/
def Derive.accountTypes (name : String) : Derive.FieldType (Int32 ⊕ String) :=
  if name = "id" then ⟨fun value => .inl <$> fromValue value, .inl 0⟩
  else ⟨fun value => .inr <$> fromValue value, .inr ""⟩

/-- Accounts are read under the names of their properties and under their columns, from rows with
other columns in between, and their notes have the default even if a column is named like them. -/
theorem account_read_by_either_label :
    ∃ derived reading, Derive.entity "app" .account = .ok derived ∧
      Derive.record .account = .ok reading ∧
      (Row.ofPairs [("name", .text "Ada"), ("id", .int 7), ("total", .null)]).readRecord
        (Derive.readers Derive.accountTypes reading.fields) =
          .ok [.inl 7, .inr "Ada", .inr ""] ∧
      (Row.ofPairs [("id", .int 7), ("note", .text "late"), ("full_name", .text "Ada")]).readRecord
        (Derive.readers Derive.accountTypes reading.fields) =
          .ok [.inl 7, .inr "Ada", .inr ""] := by
  obtain ⟨derived, hentity, hderived⟩ := Derive.entity_account
  obtain ⟨names, catalog', hlookup⟩ : ∃ names catalog',
      Catalog.lookup derived.entity (.empty 1) = .ok names catalog' := by
    rw [hderived]
    exact Step.exists_of_succeeds (by decide +kernel)
  obtain ⟨reading, hrecord, -, hread⟩ :=
    records_are_read_by_either_label hentity (by decide) (.empty 1) hlookup
  have hcolumns : names.allColumns = [("id", "id"), ("name", "full_name")] := by
    rw [(Catalog.lookup_eq_ok hlookup (Catalog.Reached.empty 1).faithful).1, hderived]
    decide +kernel
  have hrow := (hread Derive.accountTypes).1
    (fun name => if name = "id" then .int 7 else .text "Ada")
    (fun name => if name = "id" then .inl 7 else .inr "Ada")
  rw [hderived, hcolumns] at hrow
  have hdecodes := hrow fun p hp => by
    rcases List.mem_pair.mp hp with rfl | rfl <;> rfl
  refine ⟨derived, reading, hentity, hrecord, ?_, ?_⟩
  · exact (hdecodes _ [("total", .null)] (by decide)).1 (.swap _ _ _)
  · exact (hdecodes _ [("note", .text "late")] (by decide)).2 (by decide) (by decide)
      (.cons _ (.swap _ _ _))

end QueryLoom

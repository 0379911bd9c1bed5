import QueryLoom.Derive.Attribute

/-!
# What attributes say

The list inside an attribute is read item by item.  It is accepted exactly if it can be written as
items separated by commas, of which one more may follow the last item, and then it says what its
items say: the last table, the last column, and to skip if any item does.  Several attributes say
what one would say that lists all their items.

## Main definitions

* `Item`: the items of an attribute.
* `Item.Writes`: the ways to write a row of items.
* `Attribute.ofItems`: what a row of items says.
* `Annotation.Lists`: the items of all attributes of a thing.

## Main results

* `Attribute.parse_eq_ok_iff`: the lists that are accepted, and what they say.
* `Attribute.merge_eq_ok_iff`: the same for all attributes of a thing.
* `attributes_say_what_their_items_say`: the summary.
-/

namespace QueryLoom.Derive

/-! ## Items -/

/-- An item of an attribute.  The names that it gives are not empty. -/
inductive Item where
  | skip
  | table (name : String) (nonempty : name ≠ "")
  | column (name : String) (nonempty : name ≠ "")
  deriving DecidableEq

namespace Item

/-- An item as it is written. -/
def tokens : Item → List Token
  | .skip => [.name "skip"]
  | .table name _ => [.name "table", .equals, .text name]
  | .column name _ => [.name "column", .equals, .text name]

/-- The table that an item gives. -/
def table? : Item → Option String
  | .table name _ => some name
  | _ => none

/-- The column that an item gives. -/
def column? : Item → Option String
  | .column name _ => some name
  | _ => none

/-- Items with commas between them. -/
def separated (items : List Item) : List Token :=
  [Token.comma].intercalate (items.map tokens)

/-- The tokens write the items, with commas between them and perhaps one behind the last. -/
def Writes (items : List Item) (tokens : List Token) : Prop :=
  tokens = separated items ∨ items ≠ [] ∧ tokens = separated items ++ [.comma]

theorem separated_cons_cons (item next : Item) (rest : List Item) :
    separated (item :: next :: rest) = item.tokens ++ .comma :: separated (next :: rest) := by
  unfold separated
  rw [List.map_cons, List.map_cons, List.intercalate_cons_cons, List.append_assoc,
    List.singleton_append]

theorem writes_nil_iff {tokens : List Token} : Writes [] tokens ↔ tokens = [] := by
  simp [Writes, separated]

/-- Behind an item the list ends, or there is a comma and the list goes on. -/
theorem writes_cons_iff {item : Item} {items : List Item} {tokens : List Token} :
    Writes (item :: items) tokens ↔
      items = [] ∧ tokens = item.tokens ∨
        ∃ rest, Writes items rest ∧ tokens = item.tokens ++ .comma :: rest := by
  cases items with
  | nil => simp [Writes, separated]
  | cons next items => simp [Writes, separated_cons_cons]

theorem writes_item (item : Item) : Writes [item] item.tokens :=
  writes_cons_iff.mpr (.inl ⟨rfl, rfl⟩)

theorem Writes.behind {items : List Item} {rest : List Token} (h : Writes items rest)
    (item : Item) : Writes (item :: items) (item.tokens ++ .comma :: rest) :=
  writes_cons_iff.mpr (.inr ⟨rest, h, rfl⟩)

end Item

namespace Attribute

/-- What a row of items says. -/
def ofItems (items : List Item) : Attribute where
  table := (items.filterMap Item.table?).getLast?
  column := (items.filterMap Item.column?).getLast?
  skip := decide (Item.skip ∈ items)

/-- What has been read, and one item more. -/
def add (read : Attribute) : Item → Attribute
  | .skip => { read with skip := true }
  | .table name _ => { read with table := some name }
  | .column name _ => { read with column := some name }

/-- Later items are added to what earlier attributes say. -/
theorem ofItems_append (items more : List Item) :
    ofItems (items ++ more) = (ofItems items).followedBy (ofItems more) := by
  simp [ofItems, followedBy, List.filterMap_append, List.getLast?_append]

theorem add_eq (read : Attribute) (item : Item) :
    read.add item = read.followedBy (ofItems [item]) := by
  cases item <;> simp [add, followedBy, ofItems, Item.table?, Item.column?]

theorem followedBy_nothing (said : Attribute) : said.followedBy (ofItems []) = said := by
  simp [followedBy, ofItems]

theorem nothing_followedBy (said : Attribute) : followedBy {} said = said := by
  simp [followedBy]

theorem followedBy_assoc (first second third : Attribute) :
    (first.followedBy second).followedBy third = first.followedBy (second.followedBy third) := by
  simp [followedBy, Option.or_assoc, Bool.or_assoc]

/-- Items are added one by one. -/
theorem foldl_add (read : Attribute) (items : List Item) :
    items.foldl add read = read.followedBy (ofItems items) := by
  induction items generalizing read with
  | nil => exact (followedBy_nothing read).symm
  | cons item items ih =>
      have hsplit : ofItems (item :: items) = (ofItems [item]).followedBy (ofItems items) :=
        ofItems_append [item] items
      rw [List.foldl_cons, ih, add_eq, followedBy_assoc, hsplit]

/-! ## Reading a list -/

/-- An item may end a list. -/
theorem parseItems_item (read : Attribute) (item : Item) :
    parseItems read item.tokens = .ok (read.add item) := by
  cases item with
  | skip => rfl
  | table name nonempty => simp [Item.tokens, parseItems, nonempty, add]
  | column name nonempty => simp [Item.tokens, parseItems, nonempty, add]

/-- Behind an item and a comma reading goes on. -/
theorem parseItems_item_comma (read : Attribute) (item : Item) (rest : List Token) :
    parseItems read (item.tokens ++ .comma :: rest) = parseItems (read.add item) rest := by
  cases item with
  | skip => rfl
  | table name nonempty => simp [Item.tokens, parseItems, nonempty, add]
  | column name nonempty => simp [Item.tokens, parseItems, nonempty, add]

/-- Written items are accepted and added to what has been read. -/
theorem parseItems_of_writes {items : List Item} {tokens : List Token}
    (h : Item.Writes items tokens) (read : Attribute) :
    parseItems read tokens = .ok (items.foldl add read) := by
  induction items generalizing tokens read with
  | nil =>
      rw [Item.writes_nil_iff.mp h]
      rfl
  | cons item items ih =>
      rcases Item.writes_cons_iff.mp h with ⟨rfl, rfl⟩ | ⟨rest, hrest, rfl⟩
      · exact parseItems_item read item
      · rw [parseItems_item_comma]
        exact ih hrest _

/-- Nothing else is accepted. -/
theorem exists_items_of_parseItems {read said : Attribute} {tokens : List Token}
    (h : parseItems read tokens = .ok said) :
    ∃ items, Item.Writes items tokens ∧ said = items.foldl add read := by
  -- each item ends the list or has a comma behind it; all other cases are refusals
  fun_induction parseItems read tokens with
  | case1 read =>
      cases h
      exact ⟨[], Item.writes_nil_iff.mpr rfl, rfl⟩
  | case2 read =>
      cases h
      exact ⟨[.skip], Item.writes_item .skip, rfl⟩
  | case3 read rest ih =>
      obtain ⟨items, hwrites, rfl⟩ := ih h
      exact ⟨.skip :: items, hwrites.behind .skip, rfl⟩
  | case6 read name hname =>
      cases h
      have nonempty : name ≠ "" := by simpa using hname
      exact ⟨[.table name nonempty], Item.writes_item _, rfl⟩
  | case7 read name hname rest ih =>
      obtain ⟨items, hwrites, rfl⟩ := ih h
      have nonempty : name ≠ "" := by simpa using hname
      exact ⟨.table name nonempty :: items, hwrites.behind _, rfl⟩
  | case12 read name hname =>
      cases h
      have nonempty : name ≠ "" := by simpa using hname
      exact ⟨[.column name nonempty], Item.writes_item _, rfl⟩
  | case13 read name hname rest ih =>
      obtain ⟨items, hwrites, rfl⟩ := ih h
      have nonempty : name ≠ "" := by simpa using hname
      exact ⟨.column name nonempty :: items, hwrites.behind _, rfl⟩
  | _ => cases h

/-- A list is accepted exactly if it writes items, and says what they say. -/
theorem parse_eq_ok_iff {tokens : List Token} {said : Attribute} :
    parse tokens = .ok said ↔ ∃ items, Item.Writes items tokens ∧ said = ofItems items := by
  have hitems : ∀ items : List Item, items.foldl add {} = ofItems items :=
    fun items => (foldl_add {} items).trans (nothing_followedBy _)
  constructor
  · intro h
    obtain ⟨items, hwrites, rfl⟩ := exists_items_of_parseItems h
    exact ⟨items, hwrites, hitems items⟩
  · rintro ⟨items, hwrites, rfl⟩
    rw [← hitems]
    exact parseItems_of_writes hwrites {}

end Attribute

/-! ## All attributes of a thing -/

namespace Annotation

/-- The attributes of a thing list the items.  Foreign attributes do not count. -/
inductive Lists : List Annotation → List Item → Prop where
  | nothing : Lists [] []
  | foreign {annotations : List Annotation} {items : List Item} :
      Lists annotations items → Lists (.foreign :: annotations) items
  | items {annotations : List Annotation} {items more : List Item} {tokens : List Token} :
      Item.Writes items tokens → Lists annotations more →
        Lists (.items tokens :: annotations) (items ++ more)

/-- An attribute holds a list that is accepted. -/
def Accepted (a : Annotation) : Prop :=
  ∃ tokens said, a = .items tokens ∧ Attribute.parse tokens = .ok said

/-- Attributes list items if those that are not foreign are accepted. -/
theorem exists_lists_iff {annotations : List Annotation} :
    (∃ items, Lists annotations items) ↔ ∀ a ∈ annotations, a ≠ .foreign → a.Accepted := by
  constructor
  · rintro ⟨items, hlists⟩
    induction hlists with
    | nothing => nofun
    | foreign _ ih => exact List.forall_mem_cons.mpr ⟨fun h => absurd rfl h, ih⟩
    | @items _ items _ tokens hwrites _ ih =>
        have haccepted : Accepted (.items tokens) :=
          ⟨tokens, _, rfl, Attribute.parse_eq_ok_iff.mpr ⟨items, hwrites, rfl⟩⟩
        exact List.forall_mem_cons.mpr ⟨fun _ => haccepted, ih⟩
  · intro h
    induction annotations with
    | nil => exact ⟨[], .nothing⟩
    | cons a annotations ih =>
        obtain ⟨ha, hrest⟩ := List.forall_mem_cons.mp h
        obtain ⟨more, hmore⟩ := ih hrest
        by_cases hforeign : a = .foreign
        · subst hforeign
          exact ⟨more, .foreign hmore⟩
        · obtain ⟨tokens, said, rfl, hparse⟩ := ha hforeign
          obtain ⟨items, hwrites, -⟩ := Attribute.parse_eq_ok_iff.mp hparse
          exact ⟨items ++ more, .items hwrites hmore⟩

end Annotation

namespace Attribute

/-- Attributes are read one after the other, each on top of those before. -/
theorem mergeOnto_eq_ok_iff {read said : Attribute} {annotations : List Annotation} :
    mergeOnto read annotations = .ok said ↔
      ∃ items, Annotation.Lists annotations items ∧ said = read.followedBy (ofItems items) := by
  constructor
  · intro h
    induction annotations generalizing read with
    | nil =>
        cases h
        exact ⟨[], .nothing, (followedBy_nothing _).symm⟩
    | cons a annotations ih =>
        cases a with
        | foreign =>
            obtain ⟨items, hlists, hsaid⟩ := ih h
            exact ⟨items, .foreign hlists, hsaid⟩
        | bare => cases h
        | items tokens =>
            cases hparse : parse tokens with
            | error fault =>
                rw [mergeOnto, hparse] at h
                cases h
            | ok first =>
                rw [mergeOnto, hparse] at h
                obtain ⟨items, hwrites, rfl⟩ := parse_eq_ok_iff.mp hparse
                obtain ⟨more, hlists, rfl⟩ := ih h
                exact ⟨items ++ more, .items hwrites hlists, by
                  rw [ofItems_append, followedBy_assoc]⟩
  · rintro ⟨items, hlists, rfl⟩
    induction hlists generalizing read with
    | nothing =>
        rw [followedBy_nothing]
        rfl
    | foreign _ ih => exact ih
    | @items _ items more tokens hwrites _ ih =>
        have hparse : parse tokens = .ok (ofItems items) :=
          parse_eq_ok_iff.mpr ⟨items, hwrites, rfl⟩
        rw [mergeOnto, hparse, ofItems_append, ← followedBy_assoc]
        exact ih

/-- All attributes of a thing say what the items say that they list. -/
theorem merge_eq_ok_iff {annotations : List Annotation} {said : Attribute} :
    merge annotations = .ok said ↔
      ∃ items, Annotation.Lists annotations items ∧ said = ofItems items := by
  rw [merge, mergeOnto_eq_ok_iff]
  simp only [nothing_followedBy]

/-- Foreign attributes are passed over. -/
theorem mergeOnto_filter (read : Attribute) (annotations : List Annotation) :
    mergeOnto read (annotations.filter (· ≠ .foreign)) = mergeOnto read annotations := by
  induction annotations generalizing read with
  | nil => rfl
  | cons a annotations ih =>
      cases a with
      | foreign => exact ih read
      | bare => rfl
      | items tokens =>
          rw [List.filter_cons_of_pos (by simp), mergeOnto, mergeOnto]
          congr 1
          funext said
          exact ih _

/-- Attributes that list items say what a single one says that lists them. -/
theorem merge_of_lists {annotations : List Annotation} {items : List Item}
    (hlists : Annotation.Lists annotations items) {tokens : List Token}
    (hwrites : Item.Writes items tokens) : merge annotations = parse tokens := by
  rw [merge_eq_ok_iff.mpr ⟨items, hlists, rfl⟩, parse_eq_ok_iff.mpr ⟨items, hwrites, rfl⟩]

end Attribute

/-! ## Declarations and fields -/

section Places

variable {α β : Type} {r : Except Fault α} {refused : α → Bool} {refusal : Fault} {f : α → β}

/-- What is said is checked only if there is anything. -/
theorem checked_eq_error_iff {fault : Fault} :
    (r >>= fun a => if refused a then .error refusal else .ok (f a)) = .error fault ↔
      r = .error fault ∨ ∃ a, r = .ok a ∧ refused a = true ∧ refusal = fault := by
  cases r with
  | error other => simp [bind, Except.bind]
  | ok a => by_cases hrefused : refused a <;> simp [bind, Except.bind, hrefused]

theorem checked_eq_ok_iff {b : β} :
    (r >>= fun a => if refused a then .error refusal else .ok (f a)) = .ok b ↔
      ∃ a, r = .ok a ∧ refused a = false ∧ f a = b := by
  cases r with
  | error other => simp [bind, Except.bind]
  | ok a => by_cases hrefused : refused a <;> simp [bind, Except.bind, hrefused]

end Places

namespace Attribute

variable {annotations : List Annotation} {fault : Fault}

/-- A declaration takes a table and nothing else. -/
theorem ofDeclaration_eq_error_iff :
    ofDeclaration annotations = .error fault ↔ merge annotations = .error fault ∨
      ∃ said, merge annotations = .ok said ∧ (said.column ≠ none ∨ said.skip = true) ∧
        fault = .onlyTable := by
  unfold ofDeclaration
  rw [checked_eq_error_iff]
  simp [Option.isSome_iff_ne_none, @eq_comm _ fault]

theorem ofDeclaration_eq_ok_iff {table : Option String} :
    ofDeclaration annotations = .ok table ↔ ∃ said, merge annotations = .ok said ∧
      said.column = none ∧ said.skip = false ∧ table = said.table := by
  unfold ofDeclaration
  rw [checked_eq_ok_iff]
  simp [and_assoc, @eq_comm _ table]

/-- A field takes everything but a table. -/
theorem ofField_eq_error_iff :
    ofField annotations = .error fault ↔ merge annotations = .error fault ∨
      ∃ said, merge annotations = .ok said ∧ said.table ≠ none ∧ fault = .tableOnField := by
  unfold ofField
  rw [checked_eq_error_iff]
  simp [Option.isSome_iff_ne_none, @eq_comm _ fault]

theorem ofField_eq_ok_iff {said : Attribute} :
    ofField annotations = .ok said ↔ merge annotations = .ok said ∧ said.table = none := by
  unfold ofField
  rw [checked_eq_ok_iff]
  simp only [Option.isSome_eq_false_iff, Option.isNone_iff_eq_none]
  constructor
  · rintro ⟨read, hread, htable, rfl⟩
    exact ⟨hread, htable⟩
  · rintro ⟨hread, htable⟩
    exact ⟨said, hread, htable, rfl⟩

end Attribute

/-! ## Summary -/

/-- A list of tokens is accepted as an attribute exactly if it writes items, and it says what they
say: the last table, the last column, and to skip if any item does.  All attributes of a thing are
accepted exactly if every one is that is not foreign; the foreign ones make no difference; and they
say what a single attribute says that lists the items of all of them in order.  What is said is then
refused for a declaration exactly if there is a column or something is skipped, and for a field
exactly if there is a table. -/
theorem attributes_say_what_their_items_say :
    (∀ tokens said, Attribute.parse tokens = .ok said ↔
      ∃ items, Item.Writes items tokens ∧ said = Attribute.ofItems items) ∧
    (∀ annotations, (∃ said, Attribute.merge annotations = .ok said) ↔
      ∀ a ∈ annotations, a ≠ .foreign → a.Accepted) ∧
    (∀ annotations, Attribute.merge (annotations.filter (· ≠ .foreign)) =
      Attribute.merge annotations) ∧
    (∀ annotations said, Attribute.merge annotations = .ok said ↔
      ∃ items, Annotation.Lists annotations items ∧ said = Attribute.ofItems items) ∧
    (∀ annotations items tokens, Annotation.Lists annotations items → Item.Writes items tokens →
      Attribute.merge annotations = Attribute.parse tokens) ∧
    (∀ annotations fault, Attribute.ofDeclaration annotations = .error fault ↔
      Attribute.merge annotations = .error fault ∨ ∃ said, Attribute.merge annotations = .ok said ∧
        (said.column ≠ none ∨ said.skip = true) ∧ fault = .onlyTable) ∧
    (∀ annotations table, Attribute.ofDeclaration annotations = .ok table ↔
      ∃ said, Attribute.merge annotations = .ok said ∧ said.column = none ∧ said.skip = false ∧
        table = said.table) ∧
    (∀ annotations fault, Attribute.ofField annotations = .error fault ↔
      Attribute.merge annotations = .error fault ∨ ∃ said, Attribute.merge annotations = .ok said ∧
        said.table ≠ none ∧ fault = .tableOnField) ∧
    (∀ annotations said, Attribute.ofField annotations = .ok said ↔
      Attribute.merge annotations = .ok said ∧ said.table = none) := by
  refine ⟨fun tokens said => Attribute.parse_eq_ok_iff, fun annotations => ?_,
    fun annotations => Attribute.mergeOnto_filter {} annotations,
    fun annotations said => Attribute.merge_eq_ok_iff,
    fun annotations items tokens hlists hwrites => Attribute.merge_of_lists hlists hwrites,
    fun annotations fault => Attribute.ofDeclaration_eq_error_iff,
    fun annotations table => Attribute.ofDeclaration_eq_ok_iff,
    fun annotations fault => Attribute.ofField_eq_error_iff,
    fun annotations said => Attribute.ofField_eq_ok_iff⟩
  rw [← Annotation.exists_lists_iff]
  constructor
  · rintro ⟨said, hsaid⟩
    obtain ⟨items, hlists, -⟩ := Attribute.merge_eq_ok_iff.mp hsaid
    exact ⟨items, hlists⟩
  · rintro ⟨items, hlists⟩
    exact ⟨_, Attribute.merge_eq_ok_iff.mpr ⟨items, hlists, rfl⟩⟩

/-- A table that is given twice, with an item in between. -/
def Item.renamed : List Item := [.table "old" (by decide), .skip, .table "new" (by decide)]

/-- The same items in two attributes, around a foreign one. -/
def Annotation.renamed : List Annotation :=
  [.items [.name "table", .equals, .text "old", .comma], .foreign,
   .items [.name "skip", .comma, .name "table", .equals, .text "new"]]

/-- The two attributes say what one says that lists all items: the later table counts. -/
theorem renamed_in_two_attributes :
    Annotation.Lists Annotation.renamed Item.renamed ∧
      Item.Writes Item.renamed (Item.separated Item.renamed) ∧
      Attribute.merge Annotation.renamed = Attribute.parse (Item.separated Item.renamed) ∧
      Attribute.merge Annotation.renamed = .ok ⟨some "new", none, true⟩ := by
  have hfirst : Item.Writes [.table "old" (by decide)]
      [.name "table", .equals, .text "old", .comma] := .inr ⟨List.cons_ne_nil _ _, rfl⟩
  have hlast : Item.Writes [.skip, .table "new" (by decide)]
      [.name "skip", .comma, .name "table", .equals, .text "new"] := .inl rfl
  have hlists : Annotation.Lists Annotation.renamed Item.renamed :=
    .items hfirst (.foreign (.items hlast .nothing))
  have hwrites : Item.Writes Item.renamed (Item.separated Item.renamed) := .inl rfl
  obtain ⟨-, -, -, -, hsame, -⟩ := attributes_say_what_their_items_say
  exact ⟨hlists, hwrites, hsame _ _ _ hlists hwrites, rfl⟩

/-- A comma without an item in front is refused. -/
example : Attribute.parse [.name "skip", .comma, .comma] = .error .expectedName := rfl

end QueryLoom.Derive

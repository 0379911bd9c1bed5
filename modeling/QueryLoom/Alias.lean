import QueryLoom.Entity
import QueryLoom.Identifier

/-!
# Aliases of a statement

Within one statement every table has an alias.  An alias is given explicitly, or generated as `t1`,
`t2`, … when it is first needed, skipping names that are already taken.  Selected columns may have
aliases too, by which their values appear in the result.

## Main definitions

* `Aliases`: the tables of a statement with their aliases, and the aliases of columns.
* `Aliases.get`, `Aliases.add`, `Aliases.addTable`: registering tables.
* `Aliases.qualifyColumn`: a column written as text, behind the alias it belongs to.
-/

namespace QueryLoom

/-- A registered table: its key, its physical name if that is known, and its alias. -/
structure AliasEntry where
  key : TableKey
  table : Option String
  aliasName : String
  deriving DecidableEq, Repr

/-- The aliases of a statement.  Tables stand in order of registration; `sequence` is the number of
the alias generated last; columns stand under the key of their field, the latest first. -/
structure Aliases where
  entries : List AliasEntry
  sequence : Nat
  columns : List ((String × String) × String)
  deriving DecidableEq, Repr

namespace Aliases

/-- Nothing registered. -/
def empty : Aliases := ⟨[], 0, []⟩

/-- Drop everything; generated aliases start from the first one again. -/
def flush (_ : Aliases) : Aliases := empty

/-- The entry of a table. -/
def entry? (aliases : Aliases) (key : TableKey) : Option AliasEntry :=
  aliases.entries.find? fun e => e.key == key

/-- The alias of a table, if it has one. -/
def aliasOf? (aliases : Aliases) (key : TableKey) : Option String :=
  (aliases.entry? key).map (·.aliasName)

/-- Whether a table is registered. -/
def has (aliases : Aliases) (key : TableKey) : Bool :=
  (aliases.entry? key).isSome

/-- The number of registered tables. -/
def tableCount (aliases : Aliases) : Nat := aliases.entries.length

/-- Whether nothing is registered and no alias was generated. -/
def isEmpty (aliases : Aliases) : Bool :=
  aliases.entries.isEmpty && aliases.columns.isEmpty && aliases.sequence == 0

/-! ## Tables -/

/-- The generated alias with a number. -/
def generated (n : Nat) : String := "t" ++ toString n

/-- Whether a table has the given alias. -/
def taken (aliases : Aliases) (aliasName : String) : Bool :=
  aliases.entries.any fun e => e.aliasName == aliasName

/-- The first number after `n` whose alias is free, trying at most `tries` taken ones. -/
def nextFree (aliases : Aliases) : Nat → Nat → Nat
  | 0, n => n + 1
  | tries + 1, n =>
    if aliases.taken (generated (n + 1)) then nextFree aliases tries (n + 1) else n + 1

/-- The number of the next generated alias.  Each registered table takes at most one name, so one
more try than there are tables finds a free one. -/
def nextNumber (aliases : Aliases) : Nat :=
  aliases.nextFree aliases.entries.length aliases.sequence

/-- Register a table that has no alias under the next generated one. -/
def generate (aliases : Aliases) (key : TableKey) : String × Aliases :=
  let n := aliases.nextNumber
  (generated n,
    { aliases with
      entries := aliases.entries ++ [⟨key, none, generated n⟩]
      sequence := n })

/-- The alias of a table, generated if it has none. -/
def get (aliases : Aliases) (key : TableKey) : String × Aliases :=
  match aliases.aliasOf? key with
  | some aliasName => (aliasName, aliases)
  | none => aliases.generate key

/-- Change the entry of a table. -/
def modifyEntry (aliases : Aliases) (key : TableKey) (f : AliasEntry → AliasEntry) : Aliases :=
  { aliases with entries := aliases.entries.map fun e => if e.key = key then f e else e }

/-- Give a table an explicit alias, in place of the one it may have. -/
def assign (aliases : Aliases) (key : TableKey) (aliasName : String) : Aliases :=
  if aliases.has key then aliases.modifyEntry key fun e => { e with aliasName }
  else { aliases with entries := aliases.entries ++ [⟨key, none, aliasName⟩] }

/-- An alias that was given and is not empty. -/
def explicit? (aliasName : Option String) : Option String :=
  aliasName.filter fun a => !a.isEmpty

/-- Register a table.  An explicit alias counts from now on; without one the table keeps its alias
or gets a generated one. -/
def add (aliases : Aliases) (key : TableKey) (aliasName : Option String) : String × Aliases :=
  match explicit? aliasName with
  | some aliasName => (aliasName, aliases.assign key aliasName)
  | none => aliases.get key

/-- Register a table together with its physical name. -/
def addTable (aliases : Aliases) (key : TableKey) (table : String) (aliasName : Option String) :
    String × Aliases :=
  let (aliasName, aliases) := aliases.add key aliasName
  (aliasName, aliases.modifyEntry key fun e => { e with table := some table })

/-! ## Columns -/

/-- Register an alias for a selected field. -/
def addColumn (aliases : Aliases) (field : Field) (aliasName : String) : Aliases :=
  { aliases with columns := (field.key, aliasName) :: aliases.columns }

/-- The alias of a selected field. -/
def columnAlias? (aliases : Aliases) (field : Field) : Option String :=
  aliases.columns.lookup field.key

/-! ## Columns written as text -/

/-- Split a text at its first dot. -/
def splitAtDot : List Char → Option (List Char × List Char)
  | [] => none
  | c :: rest =>
    if c = '.' then some ([], rest)
    else (splitAtDot rest).map fun (left, right) => (c :: left, right)

/-- The alias that the left side of a dot stands for: an alias stands for itself, and a physical or
literal table name for the alias of the first table that has it. -/
def resolveQualifier? (aliases : Aliases) (name : String) : Option String :=
  match aliases.entries.find? fun e => e.aliasName == name with
  | some e => some e.aliasName
  | none =>
    (aliases.entries.find? fun e => e.table == some name || e.key.literalName? == some name).map
      (·.aliasName)

/-- The alias of the only registered table. -/
def onlyAlias? (aliases : Aliases) : Option String :=
  match aliases.entries with
  | [only] => some only.aliasName
  | _ => none

/-- A column written as text.  Of `left.right` the left side is replaced by the alias it stands for,
and passes through if it stands for none; a bare column belongs to the only registered table. -/
def qualifyColumn (aliases : Aliases) (column : String) : String :=
  match splitAtDot column.toList with
  | some (left, right) =>
    let left := String.ofList left
    Identifier.qualify ((aliases.resolveQualifier? left).getD left) (String.ofList right)
  | none =>
    match aliases.onlyAlias? with
    | some aliasName => Identifier.qualify aliasName column
    | none => Identifier.quote column

end Aliases

end QueryLoom

import QueryLoom.Text.Displayed

/-!
# Entities and their fields

An entity describes a type whose values are stored in a table: the path that identifies it, its
name, and its properties.  Table and column names may be given; otherwise they follow from the
names.

## Main definitions

* `Property`, `Entity`: descriptions of types.
* `Field`: a reference to one property of an entity.
* `TableKey`: what identifies a table within a statement.
-/

namespace QueryLoom

/-- A stored property, with its column if it is given. -/
structure Property where
  name : String
  column : Option String
  deriving DecidableEq, Repr

/-- A stored type.  The type path is the stable key under which it is known. -/
structure Entity where
  typePath : String
  name : String
  table : Option String
  properties : List Property
  deriving DecidableEq, Repr

namespace Entity

/-- The first declaration of a property. -/
def declared? (entity : Entity) (property : String) : Option Property :=
  entity.properties.find? fun p => p.name == property

/-- A property as it is displayed for diagnosis. -/
def displayedProperty (p : Property) : String :=
  "FieldDescriptor \x7b property: " ++ Displayed.quoted p.name ++
    ", column: " ++ Displayed.option p.column ++ " \x7d"

/-- An entity as it is displayed for diagnosis. -/
def displayed (entity : Entity) : String :=
  "EntityDescriptor \x7b type_path: " ++ Displayed.quoted entity.typePath ++
    ", name: " ++ Displayed.quoted entity.name ++
    ", table: " ++ Displayed.option entity.table ++
    ", fields: [" ++ ", ".intercalate (entity.properties.map displayedProperty) ++ "] \x7d"

end Entity

/-- A reference to a property of an entity; the property need not be declared. -/
structure Field where
  entity : Entity
  property : String
  deriving DecidableEq, Repr

namespace Field

/-- Two references are the same when type path and property are. -/
def key (field : Field) : String × String := (field.entity.typePath, field.property)

/-- Whether two references denote the same property. -/
def same (a b : Field) : Bool := a.key == b.key

/-- A reference as it is displayed for diagnosis. -/
def displayed (field : Field) : String := field.entity.name ++ "::" ++ field.property

end Field

/-- What identifies a table within a statement: the type path of an entity, a table name, or a
table name together with the alias it is declared under, so that one table may occur several
times. -/
inductive TableKey where
  | entity (typePath : String)
  | named (table : String)
  | namedAs (table aliasName : String)
  deriving DecidableEq, Repr

namespace TableKey

/-- The key of an entity's table. -/
def ofEntity (entity : Entity) : TableKey := .entity entity.typePath

/-- The table name that a key gives literally. -/
def literalName? : TableKey → Option String
  | .entity _ => none
  | .named table => some table
  | .namedAs table _ => some table

/-- A key as it is displayed for diagnosis. -/
def displayed : TableKey → String
  | .entity typePath => "Entity(" ++ Displayed.quoted typePath ++ ")"
  | .named table => "Named(" ++ Displayed.quoted table ++ ")"
  | .namedAs table aliasName =>
    "NamedAs \x7b table: " ++ Displayed.quoted table ++
      ", alias: " ++ Displayed.quoted aliasName ++ " \x7d"

end TableKey

end QueryLoom

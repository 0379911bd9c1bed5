import QueryLoom.Catalog
import QueryLoom.Derive.Attribute

/-!
# Deriving entities and records

From the declaration of a type two things are derived: the entity that stores its values, with a
constant for each stored field, and the way to read its values from rows.  A row is read by the
property's name, under which select lists return it, or else by its column.

## Main definitions

* `Derive.Declaration`: declarations of types.
* `Derive.entity`: the entity of a declaration.
* `Derive.record`: the labels under which its fields are read.
-/

namespace QueryLoom.Derive

/-- What is declared. -/
inductive Shape where
  | namedFields
  | positionalFields
  | noFields
  | enumeration
  | union
  deriving DecidableEq, Repr

/-- The declaration of a field, with its name as written. -/
structure FieldDeclaration where
  name : String
  annotations : List Annotation
  deriving Repr

/-- The declaration of a type, with its name as written. -/
structure Declaration where
  name : String
  visibility : String
  shape : Shape
  parameters : List String
  annotations : List Annotation
  fields : List FieldDeclaration
  deriving Repr

/-- A name without the mark that lets it be a keyword. -/
def plainName (name : String) : String :=
  match name.toList with
  | 'r' :: '#' :: rest => String.ofList rest
  | _ => name

/-- The named fields of a declaration. -/
def Declaration.namedFields (declaration : Declaration) (derivation : String) :
    Except Fault (List FieldDeclaration) :=
  match declaration.shape with
  | .namedFields => .ok declaration.fields
  | .positionalFields | .noFields => .error (.unnamedFields derivation)
  | .enumeration | .union => .error (.noStruct derivation)

/-! ## Entities -/

/-- A constant for a stored field. -/
structure Constant where
  visibility : String
  name : String
  property : String
  doc : String
  deriving DecidableEq, Repr

/-- What is derived for an entity: the type it belongs to, the last part of its type path, the
entity, and its constants. -/
structure EntityDerivation where
  typeText : String
  pathEnd : String
  entity : Entity
  constants : List Constant
  deriving Repr

/-- Whether a name made of words can stand for a constant: it has to begin as names do. -/
def isConstantName (name : String) : Bool :=
  match name.toList with
  | [] => false
  | c :: _ => Letter.isInitial c

/-- The stored fields of a declaration with their constants, in order. -/
def storedFields (visibility : String) :
    List FieldDeclaration → Except Fault (List (Property × Constant))
  | [] => .ok []
  | field :: rest => do
    let said ← Attribute.ofField field.annotations
    if said.skip then storedFields visibility rest
    else
      let property := plainName field.name
      let name := Words.shoutySnake property
      if isConstantName name then
        let stored : Property := ⟨property, said.column⟩
        let doc := "Field reference for \x60" ++ Names.columnOf stored ++ "\x60."
        let more ← storedFields visibility rest
        pure ((stored, ⟨visibility, name, property, doc⟩) :: more)
      else .error (.noConstant property)

/-- The entity of a declaration in a module. -/
def entity (modulePath : String) (declaration : Declaration) : Except Fault EntityDerivation := do
  if !declaration.parameters.isEmpty then .error .generic
  else
    let table ← Attribute.ofDeclaration declaration.annotations
    let fields ← declaration.namedFields "Entity"
    let stored ← storedFields declaration.visibility fields
    if stored.isEmpty then .error .nothingStored
    else
      let name := plainName declaration.name
      pure {
        typeText := declaration.name
        pathEnd := name
        entity := ⟨modulePath ++ "::" ++ name, name, table, stored.map (·.1)⟩
        constants := stored.map (·.2) }

/-! ## Records -/

/-- What is derived for reading rows: the type with its parameters, and for each field the labels
under which it is read, or none if it takes its default. -/
structure RecordDerivation where
  typeText : String
  parameterCount : Nat
  fields : List (String × Option (List String))
  deriving Repr

/-- The labels under which a property is read: its name, and its column if that is another one. -/
def labels (property : String) (column : Option String) : List String :=
  let column := column.getD (Words.snake property)
  if column = property then [property] else [property, column]

/-- A field with its labels. -/
def readField (field : FieldDeclaration) : Except Fault (String × Option (List String)) := do
  let said ← Attribute.ofField field.annotations
  pure (field.name, if said.skip then none else some (labels (plainName field.name) said.column))

/-- Whether a parameter is a lifetime. -/
def isLifetime (parameter : String) : Bool :=
  parameter.toList.head? == some '\x27'

/-- The parameters of a type in angle brackets, the lifetimes before all others. -/
def parameterText (parameters : List String) : String :=
  match parameters.filter isLifetime ++ parameters.filter (!isLifetime ·) with
  | [] => ""
  | first :: rest => "<" ++ rest.foldl (fun text p => text ++ "," ++ p) first ++ ">"

/-- How the values of a declaration are read from rows. -/
def record (declaration : Declaration) : Except Fault RecordDerivation := do
  let fields ← declaration.namedFields "FromRow"
  let read ← fields.mapM readField
  pure {
    typeText := declaration.name ++ parameterText declaration.parameters
    parameterCount := declaration.parameters.length
    fields := read }

end QueryLoom.Derive

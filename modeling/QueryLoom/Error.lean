/-!
# Errors

Every failure names its cause.  The wording is given in one place for each kind of cause, so that
a caller can tell causes apart without reading messages.

## Main definitions

* `Error`: the failures of building, running and decoding.
* `Error.message`: what is reported for each.
-/

namespace QueryLoom

/-- What is wrong with the setup. -/
inductive ConfigurationFault where
  | noExecutor
  | other (message : String)
  deriving DecidableEq, Repr

/-- Why a reference has no column. -/
inductive ResolutionFault where
  | unknownProperty (property entity : String)
  | other (message : String)
  deriving DecidableEq, Repr

/-- Why a statement or a request is refused. -/
inductive ValidationFault where
  | negativeLimit (n : Int)
  | negativeOffset (n : Int)
  | nothingAssigned
  | declaredTwice (table : String)
  | parameterCount (template : String) (count : Nat)
  | columnOperand (template : String)
  | pageZero
  | sizeZero
  | other (message : String)
  deriving DecidableEq, Repr

/-- Why a column cannot be decoded. -/
inductive DecodeFault where
  | missing
  | outOfRow
  | mismatch (expected found : String)
  | outOfRange (n : Int) (type : String)
  | malformed (type : String)
  | unsupported (type : String)
  | negativeCount
  | other (message : String)
  deriving DecidableEq, Repr

/-- A failure of building, running or decoding. -/
inductive Error where
  /-- Missing or unusable setup. -/
  | configuration (fault : ConfigurationFault)
  /-- A field reference has no column. -/
  | resolution (fault : ResolutionFault)
  /-- A statement or request failed a check. -/
  | validation (fault : ValidationFault)
  /-- A type path is known under another description. -/
  | conflict (key cached requested : String)
  /-- There is no such row. -/
  | notFound (message : String)
  /-- A column cannot be decoded. -/
  | decode (column : String) (fault : DecodeFault)
  /-- A value has no document. -/
  | serialization (message : String)
  /-- The executor failed. -/
  | execution (message : String)
  deriving DecidableEq, Repr

/-- What is reported about the setup. -/
def ConfigurationFault.message : ConfigurationFault → String
  | .noExecutor => "no executor bound; call fluentsql::bind() first"
  | .other message => message

/-- What is reported about a reference. -/
def ResolutionFault.message : ResolutionFault → String
  | .unknownProperty property entity =>
    "no property '" ++ property ++ "' on entity '" ++ entity ++ "'"
  | .other message => message

/-- What is reported about a statement or a request. -/
def ValidationFault.message : ValidationFault → String
  | .negativeLimit n => "LIMIT must not be negative, got " ++ toString n
  | .negativeOffset n => "OFFSET must not be negative, got " ++ toString n
  | .nothingAssigned => "UPDATE requires at least one assignment"
  | .declaredTwice table =>
    "table \x60" ++ table ++ "\x60 is declared twice; give each instance its own alias"
  | .parameterCount template count =>
    "template '" ++ template ++ "' cannot bind " ++ toString count ++ " parameter(s)"
  | .columnOperand template => "template '" ++ template ++ "' cannot compare against a column"
  | .pageZero => "page numbers start at 1"
  | .sizeZero => "page size must be positive"
  | .other message => message

/-- What is reported about a column. -/
def DecodeFault.message : DecodeFault → String
  | .missing => "column not present in row"
  | .outOfRow => "column index out of range"
  | .mismatch expected found => "expected " ++ expected ++ ", found " ++ found
  | .outOfRange n type => toString n ++ " out of range for " ++ type
  | .malformed type => "malformed " ++ type
  | .unsupported type => "unsupported column type " ++ type
  | .negativeCount => "negative row count"
  | .other message => message

namespace Error

/-- The name of an error's kind. -/
def kind : Error → String
  | .configuration _ => "Configuration"
  | .resolution _ => "Resolution"
  | .validation _ => "Validation"
  | .conflict .. => "Conflict"
  | .notFound _ => "NotFound"
  | .decode .. => "Decode"
  | .serialization _ => "Serialization"
  | .execution _ => "Execution"

/-- What is reported. -/
def message : Error → String
  | .configuration fault => "Configuration error: " ++ fault.message
  | .resolution fault => "Resolution error: " ++ fault.message
  | .validation fault => "Validation error: " ++ fault.message
  | .conflict key cached requested =>
    "Reassignment conflict for '" ++ key ++ "': cached as " ++ cached ++
      ", requested as " ++ requested
  | .notFound message => "Not found: " ++ message
  | .decode column fault => "Decode error on column '" ++ column ++ "': " ++ fault.message
  | .serialization message => "Serialization error: " ++ message
  | .execution message => "Execution error: " ++ message

/-- Whether there was no such row. -/
def isNotFound : Error → Bool
  | .notFound _ => true
  | _ => false

/-- Whether a check failed. -/
def isValidation : Error → Bool
  | .validation _ => true
  | _ => false

/-- Whether the setup is missing or unusable. -/
def isConfiguration : Error → Bool
  | .configuration _ => true
  | _ => false

/-- Whether a reference has no column. -/
def isResolution : Error → Bool
  | .resolution _ => true
  | _ => false

/-- The failure that an executor's failure goes back to. -/
def source? : Error → Option String
  | .execution message => some message
  | _ => none

end Error

end QueryLoom

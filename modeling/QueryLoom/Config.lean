/-!
# Configuration

The settings that all statements share.

## Main definitions

* `Config`: the settings.
* `Config.logged`: the part of a statement that is logged.
-/

namespace QueryLoom

/-- Settings of the engine. -/
structure Config where
  /-- The number of entity types whose names are kept. -/
  cacheCapacity : Nat := 5
  /-- Whether a statement is reported before it runs. -/
  logStatements : Bool := false
  /-- The length in bytes to which a reported statement is cut; no limit if there is none. -/
  maxLogged : Option Nat := some 500
  deriving DecidableEq, Repr

namespace Config

/-- The length of a text in bytes. -/
def byteLength : List Char → Nat
  | [] => 0
  | c :: rest => c.utf8Size + byteLength rest

/-- Whether a byte offset lies between two characters, or at one of the ends. -/
def isBoundary : List Char → Nat → Bool
  | _, 0 => true
  | [], _ + 1 => false
  | c :: rest, n => c.utf8Size ≤ n && isBoundary rest (n - c.utf8Size)

/-- The greatest offset between characters that is not beyond the given one. -/
def floorBoundary (cs : List Char) : Nat → Nat
  | 0 => 0
  | n + 1 => if isBoundary cs (n + 1) then n + 1 else floorBoundary cs n

/-- The characters before a byte offset. -/
def takeBytes : List Char → Nat → List Char
  | [], _ => []
  | c :: rest, n => if c.utf8Size ≤ n then c :: takeBytes rest (n - c.utf8Size) else []

/-- A text cut to a length in bytes, and then back to a whole character. -/
def cutTo (limit : Option Nat) (text : String) : String :=
  match limit with
  | some limit =>
    let cs := text.toList
    if limit < byteLength cs then String.ofList (takeBytes cs (floorBoundary cs limit)) else text
  | none => text

/-- The part of a statement that is logged. -/
def logged (config : Config) (sql : String) : String :=
  cutTo config.maxLogged sql

end Config

end QueryLoom

/-!
# Quoted identifiers

An identifier in rendered SQL stands between backticks, and a backtick inside it is written twice.
A name that already starts and ends with a backtick is taken to be quoted and is left alone, so
quoting twice changes nothing.

## Main definitions

* `Identifier.quote`: a name as one quoted identifier.
* `Identifier.qualify`: a quoted column behind a bare table alias.
-/

namespace QueryLoom.Identifier

/-- The quoting character of identifiers, the backtick. -/
def tick : Char := '\x60'

/-- A name of two or more characters with a backtick at both ends counts as quoted. -/
def isQuoted : List Char → Bool
  | [] => false
  | first :: rest => first == tick && rest.getLast? == some tick

/-- Write every backtick twice. -/
def double : List Char → List Char
  | [] => []
  | c :: rest => if c = tick then tick :: tick :: double rest else c :: double rest

/-- The characters of a name as one quoted identifier. -/
def quoteChars (name : List Char) : List Char :=
  if isQuoted name then name else tick :: double name ++ [tick]

/-- A name as one quoted identifier; a quoted name is returned unchanged. -/
def quote (name : String) : String :=
  String.ofList (quoteChars name.toList)

/-- A column behind a table alias; the column is quoted and the alias stays bare. -/
def qualify (aliasName column : String) : String :=
  aliasName ++ "." ++ quote column

end QueryLoom.Identifier

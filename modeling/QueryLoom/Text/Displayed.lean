import QueryLoom.Text.Visible

/-!
# Text displayed for diagnosis

A text shown inside a message stands in double quotes.  Quotes, backslashes and the common control
characters are escaped by name, and other characters without a visible shape by their code point.

## Main definitions

* `Displayed.quoted`: a text in quotes.
* `Displayed.option`: an optional text.
-/

namespace QueryLoom.Displayed

/-- A code point in lower-case hexadecimal, without leading zeros. -/
def hexadecimal (n : Nat) : List Char := Nat.toDigits 16 n

/-- One character of a displayed text. -/
def shown (c : Char) : List Char :=
  if c = '"' then ['\\', '"']
  else if c = '\\' then ['\\', '\\']
  else if c = '\n' then ['\\', 'n']
  else if c = '\r' then ['\\', 'r']
  else if c = '\t' then ['\\', 't']
  else if c = Char.ofNat 0 then ['\\', '0']
  else if Visible.isVisible c then [c]
  else '\\' :: 'u' :: '\x7b' :: hexadecimal c.toNat ++ ['\x7d']

/-- A text in double quotes. -/
def quoted (s : String) : String :=
  String.ofList ('"' :: s.toList.flatMap shown ++ ['"'])

/-- An optional text. -/
def option : Option String → String
  | none => "None"
  | some s => "Some(" ++ quoted s ++ ")"

end QueryLoom.Displayed

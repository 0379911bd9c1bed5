import QueryLoom.Text.Letter

/-!
# Names as words

Default table and column names follow the words of a name: `SaasTenant` becomes `saas_tenant` and
`orderType` becomes `order_type`.  A name is first split at every character that is neither a
letter nor a digit, and each piece is then cut where its case changes.

## Main definitions

* `Words.split`: the words of a name.
* `Words.snake`: the words in lower case, joined with underscores.
* `Words.shoutySnake`: the words in upper case, joined with underscores.
-/

namespace QueryLoom.Words

/-! ## Cutting at case changes -/

/-- The case of the cased letter read last in the current word. -/
inductive Run where
  | start
  | lower
  | upper
  deriving DecidableEq, Repr

/-- The run after one more character; a character without case leaves it as it was. -/
def Run.next (run : Run) (c : Char) : Run :=
  if Letter.isLower c then .lower else if Letter.isUpper c then .upper else run

/-- Cut a piece at its case changes, where `word` is what the current word holds so far.  A word
ends after a character when a lower-case run meets an upper-case letter (`order|Type`), and before
a character when an upper-case run meets a capital that starts a lower-case word (`HTTP|Server`). -/
def cut (run : Run) (word : List Char) : List Char → List (List Char)
  | [] => []
  | [c] => [word ++ [c]]
  | c :: next :: rest =>
    if run.next c = .lower && Letter.isUpper next then
      (word ++ [c]) :: cut .start [] (next :: rest)
    else if run = .upper && Letter.isUpper c && Letter.isLower next then
      word :: cut .start [c] (next :: rest)
    else
      cut (run.next c) (word ++ [c]) (next :: rest)

/-- Split at every character that belongs to no word; pieces may be empty. -/
def pieces : List Char → List (List Char)
  | [] => [[]]
  | c :: rest =>
    if Letter.isWordChar c then
      match pieces rest with
      | [] => [[c]]
      | piece :: more => (c :: piece) :: more
    else [] :: pieces rest

/-- The words of a name. -/
def split (name : List Char) : List (List Char) :=
  (pieces name).flatMap (cut .start [])

/-! ## Changing case -/

/-- A word in lower case; a capital sigma at its end takes its final form. -/
def lowerWord : List Char → List Char
  | [] => []
  | [c] => if c = 'Σ' then ['ς'] else Letter.lower c
  | c :: rest => Letter.lower c ++ lowerWord rest

/-- A word in upper case. -/
def upperWord (word : List Char) : List Char :=
  word.flatMap Letter.upper

/-- Words joined with underscores. -/
def joined : List (List Char) → List Char
  | [] => []
  | [word] => word
  | word :: rest => word ++ '_' :: joined rest

/-- The lower-case words of a name, joined with underscores. -/
def snake (name : String) : String :=
  String.ofList (joined ((split name.toList).map lowerWord))

/-- The upper-case words of a name, joined with underscores. -/
def shoutySnake (name : String) : String :=
  String.ofList (joined ((split name.toList).map upperWord))

end QueryLoom.Words

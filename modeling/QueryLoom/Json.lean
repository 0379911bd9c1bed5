import QueryLoom.Number.Binary

/-!
# JSON documents

A document is a tree of scalars, arrays and objects.  Integers and floating-point numbers are kept
apart, and an object lists each key once, in increasing order.

## Main definitions

* `Json`: documents.
* `Json.equal`: equality of documents, where numbers of the two kinds are never equal.
* `Json.insert`: an object's members with one key set.
-/

namespace QueryLoom

/-- A JSON document. -/
inductive Json where
  | null
  | bool (b : Bool)
  | int (n : Int)
  | float (x : Double)
  | text (s : String)
  | array (items : List Json)
  | object (members : List (String × Json))
  deriving Repr

namespace Json

mutual

/-- Equality of documents: floating-point numbers compare as numbers, and an integer never equals
a floating-point number. -/
def equal : Json → Json → Bool
  | .null, .null => true
  | .bool a, .bool b => a == b
  | .int a, .int b => a == b
  | .float a, .float b => a.equal b
  | .text a, .text b => a == b
  | .array xs, .array ys => equalItems xs ys
  | .object xs, .object ys => equalMembers xs ys
  | _, _ => false

/-- Equality of arrays, item by item. -/
def equalItems : List Json → List Json → Bool
  | [], [] => true
  | x :: xs, y :: ys => equal x y && equalItems xs ys
  | _, _ => false

/-- Equality of objects, member by member. -/
def equalMembers : List (String × Json) → List (String × Json) → Bool
  | [], [] => true
  | (k, x) :: xs, (l, y) :: ys => k == l && equal x y && equalMembers xs ys
  | _, _ => false

end

/-- Set a key in members that are in increasing order, keeping the order; an earlier value of the
same key is replaced. -/
def insert (key : String) (value : Json) : List (String × Json) → List (String × Json)
  | [] => [(key, value)]
  | (k, v) :: rest =>
    if key < k then (key, value) :: (k, v) :: rest
    else if key = k then (key, value) :: rest
    else (k, v) :: insert key value rest

/-- An object from members in any order; of several members with one key the last one counts. -/
def ofMembers (members : List (String × Json)) : Json :=
  .object (members.foldl (fun sorted (key, value) => insert key value sorted) [])

end Json

end QueryLoom

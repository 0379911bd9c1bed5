import QueryLoom.Error
import QueryLoom.Json.Compact
import QueryLoom.Json.Source

/-!
# Pages

A page is one slice of a list of rows.  The caller asks for a page by its number, counted from one,
and its size; the answer adds the number of all rows and the rows of the page.  All counts have 64
bits, and an offset that would not fit is the greatest one.

## Main definitions

* `Page`: pages.
* `Page.offset`, `Page.pages`, `Page.hasNext`: their arithmetic.
* `Page.validate`: the check of a request.
* `Page.json`, `Page.parse?`: pages of integers as JSON text.
-/

namespace QueryLoom

/-- A page, and the request for one. -/
structure Page (α : Type) where
  page : UInt64 := 1
  size : UInt64 := 10
  total : UInt64 := 0
  list : List α := []
  deriving DecidableEq, Repr

namespace Page

variable {α β : Type}

/-- The greatest count of 64 bits. -/
def greatest : Nat := 0xFFFFFFFFFFFFFFFF

/-- Pages are counted from one and hold at least one row. -/
def validate (page : Page α) : Except Error Unit :=
  if page.page = 0 then .error (.validation .pageZero)
  else if page.size = 0 then .error (.validation .sizeZero)
  else .ok ()

/-- The request for a page. -/
def request (page size : UInt64) : Except Error (Page α) := do
  let request : Page α := { page, size }
  request.validate
  pure request

/-- The number of rows before the page. -/
def offset (page : Page α) : UInt64 :=
  UInt64.ofNat (min ((page.page.toNat - 1) * page.size.toNat) greatest)

/-- The number of pages that all rows fill; none if pages are empty. -/
def pages (page : Page α) : UInt64 :=
  if page.size = 0 then 0
  else UInt64.ofNat ((page.total.toNat + (page.size.toNat - 1)) / page.size.toNat)

/-- Whether a later page has rows. -/
def hasNext (page : Page α) : Bool := page.page < page.pages

/-- Convert the rows. -/
def map (f : α → β) (page : Page α) : Page β :=
  { page with list := page.list.map f }

/-! ## JSON text -/

/-- A page of integers as JSON text. -/
def json (page : Page Int64) : String :=
  "\x7b\"page\":" ++ toString page.page.toNat ++ ",\"size\":" ++ toString page.size.toNat ++
    ",\"total\":" ++ toString page.total.toNat ++ ",\"list\":[" ++
    Json.compactItems (page.list.map fun n => .int n.toInt) ++ "]\x7d"

/-- A count that a JSON text spells. -/
def count? : Json.Source → Option UInt64
  | .number n => match n.integer? with
    | some (.ofNat n) => some (UInt64.ofNat n)
    | _ => none
  | _ => none

/-- A row that a JSON text spells. -/
def row? : Json.Source → Option Int64
  | .number n => match n.integer? with
    | some n => if n < 0x8000000000000000 then some (Int64.ofInt n) else none
    | none => none
  | _ => none

/-- Rows that a JSON text spells. -/
def rows? : Json.Source → Option (List Int64)
  | .array items => items.mapM row?
  | _ => none

/-- The members of a page, as far as they have been read. -/
structure Members where
  page : Option UInt64 := none
  size : Option UInt64 := none
  total : Option UInt64 := none
  list : Option (List Int64) := none

/-- Set a member that must not be set already. -/
def once {γ : Type} (present value : Option γ) : Option (Option γ) :=
  match present, value with
  | none, some v => some (some v)
  | _, _ => none

/-- Read one member; one that belongs to no page is skipped. -/
def readMember (members : Members) (member : List Json.Glyph × Json.Source) : Option Members := do
  let key ← Json.Glyph.string? member.1
  match key with
  | "page" => (once members.page (count? member.2)).map fun page => { members with page }
  | "size" => (once members.size (count? member.2)).map fun size => { members with size }
  | "total" => (once members.total (count? member.2)).map fun total => { members with total }
  | "list" => (once members.list (rows? member.2)).map fun list => { members with list }
  | _ => some members

/-- The page of integers that a JSON text spells, as an object with each of the four members once
or as an array of them. -/
def parse? (text : String) : Option (Page Int64) := do
  match ← Json.Source.ofText? text with
  | .object members =>
    let read ← members.foldlM readMember {}
    pure { page := ← read.page, size := ← read.size, total := ← read.total, list := ← read.list }
  | .array [page, size, total, list] =>
    pure { page := ← count? page, size := ← count? size, total := ← count? total,
           list := ← rows? list }
  | _ => none

end Page

end QueryLoom

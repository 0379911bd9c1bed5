import Mathlib.Algebra.Order.Ring.Int
import QueryLoom.FromValue
import QueryLoom.Wire

/-!
# Values that are sent and received

A value is written as a parameter of a type only if its kind fits the type and, if it is an integer,
the type has the number.  What is written is then read as the same value, or as the same number in
the width of the column.  A value that is refused leaves nothing in the buffer.

## Main definitions

* `Wire.Acts`: a writer adds the same bytes to every buffer, or refuses and leaves every buffer.
* `Wire.ReadBack`: what a writer adds to a buffer is read as a value.
* `ColumnType.faithful`: the types that values of other kinds than times, documents and
  floating-point numbers are sent as.
* `ColumnType.Holds`: the numbers of an integer type.
* `Value.received`: how a value comes back from a column of a type.

## Main results

* `Bytes.toInt_ofInt`, `Bytes.text?_ofText`: numbers and texts are read back from their bytes.
* `Wire.acts_write`: writing acts alike on every buffer.
* `Wire.accepts_writeInteger`: which types take an integer.
* `Wire.decode_of_write`, `Wire.decode_of_encode`: what was written is read back, and so is a
  parameter.
* `sent_values_come_back`: the summary.
-/

namespace QueryLoom

/-! ## Numbers and texts as bytes -/

namespace Bytes

theorem length_ofNat (width n : Nat) : (ofNat width n).length = width := by
  induction width generalizing n with
  | zero => rfl
  | succ width ih => rw [ofNat, List.length_append, ih, List.length_singleton]

theorem toNat_concat (bytes : Bytes) (b : UInt8) :
    toNat (bytes ++ [b]) = toNat bytes * 256 + b.toNat := by
  rw [toNat, List.foldl_append, List.foldl_cons, List.foldl_nil, toNat]

/-- The lowest bytes of a number spell it up to a power of 256. -/
theorem toNat_ofNat (width n : Nat) : toNat (ofNat width n) = n % 256 ^ width := by
  induction width generalizing n with
  | zero => rw [Nat.pow_zero, Nat.mod_one, ofNat, toNat, List.foldl_nil]
  | succ width ih =>
      have hbyte : (UInt8.ofNat (n % 256)).toNat = n % 256 := by
        rw [UInt8.toNat_ofNat', Nat.mod_eq_of_lt (by omega)]
      rw [ofNat, toNat_concat, ih, hbyte, Nat.pow_succ', Nat.mod_mul]
      omega

theorem ofInt_eq (width : Nat) (n : Int) :
    ofInt width n = ofNat width (n % (256 ^ width : Nat)).toNat := rfl

theorem toInt_eq (bytes : Bytes) : toInt bytes = Int.bmod (toNat bytes) (256 ^ bytes.length) := rfl

theorem length_ofInt (width : Nat) (n : Int) : (ofInt width n).length = width :=
  length_ofNat width _

/-- The bytes of an integer spell its remainder. -/
theorem toNat_ofInt (width : Nat) (n : Int) :
    (toNat (ofInt width n) : Int) = n % (256 ^ width : Nat) := by
  have hpos : (0 : Int) < (256 ^ width : Nat) := Int.natCast_pos.mpr (Nat.pow_pos (by decide))
  have hnonneg : 0 ≤ n % (256 ^ width : Nat) := Int.emod_nonneg n (by omega)
  have hless : n % (256 ^ width : Nat) < (256 ^ width : Nat) := Int.emod_lt_of_pos n hpos
  rw [ofInt_eq, toNat_ofNat, Nat.mod_eq_of_lt (by omega), Int.toNat_of_nonneg hnonneg]

/-- Integers are read back from their bytes in two's complement, if there are enough of them. -/
theorem toInt_ofInt {width : Nat} {n : Int} (hlow : -((256 ^ width : Nat) / 2) ≤ n)
    (hhigh : n < ((256 ^ width : Nat) + 1) / 2) : toInt (ofInt width n) = n := by
  rw [toInt_eq, toNat_ofInt, length_ofInt, Int.emod_bmod, Int.bmod_eq_of_le hlow hhigh]

/-- Texts are read back from their bytes. -/
theorem text?_ofText (text : String) : text? (ofText text) = some text := by
  have hbytes : (⟨(ofText text).toArray⟩ : ByteArray) = text.toByteArray := by
    rw [ofText, Array.toArray_toList]
    rfl
  rw [text?, hbytes, String.fromUTF8?, dif_pos text.isValidUTF8]
  rfl

end Bytes

/-! ## Numbers of a width -/

namespace ColumnType

/-- The types that values of other kinds than times, documents and floating-point numbers are sent
as. -/
def faithful : List ColumnType :=
  [.bool, .int2, .int4, .int8, .oid, .text, .varchar, .bpchar, .name, .unknown, .bytea, .uuid]

theorem ne_of_faithful {type : ColumnType} (hlisted : type ∈ faithful) (other : ColumnType)
    (hother : other ∉ faithful) : (type == other) = false :=
  beq_eq_false_iff_ne.mpr fun heq => hother (heq ▸ hlisted)

/-- The numbers of an integer type. -/
def Holds (type : ColumnType) (n : Int) : Prop :=
  match type with
  | .int2 => -2 ^ 15 ≤ n ∧ n < 2 ^ 15
  | .int4 => -2 ^ 31 ≤ n ∧ n < 2 ^ 31
  | .int8 => -2 ^ 63 ≤ n ∧ n < 2 ^ 63
  | .oid => 0 ≤ n ∧ n < 2 ^ 32
  | _ => False

/-- A number in the width in which a column yields its numbers. -/
def number (type : ColumnType) (n : Int) : Value :=
  match type with
  | .int2 => .smallInt (.ofInt n)
  | .int4 => .int (.ofInt n)
  | _ => .bigInt (.ofInt n)

/-- The width is enough for the numbers of the type. -/
theorem integer?_number {type : ColumnType} {n : Int} (h : type.Holds n) :
    (type.number n).integer? = some n := by
  cases type with
  | int2 => exact congrArg some (Int16.toInt_ofInt_of_le h.1 h.2)
  | int4 => exact congrArg some (Int32.toInt_ofInt_of_le h.1 h.2)
  | int8 => exact congrArg some (Int64.toInt_ofInt_of_le h.1 h.2)
  | oid =>
      obtain ⟨hlow, hhigh⟩ := h
      exact congrArg some (Int64.toInt_ofInt_of_le (by omega) (by omega))
  | _ => exact h.elim

end ColumnType

namespace Value

/-- How a value comes back from a column of a type: integers in the width of the column, and
everything else as it is. -/
def received (type : ColumnType) (value : Value) : Value :=
  match value.integer? with
  | some n => type.number n
  | none => value

/-- Every integer value fits into 64 bits. -/
theorem holds_of_integer? (value : Value) {n : Int} (h : value.integer? = some n) :
    ColumnType.int8.Holds n := by
  cases value with
  | smallInt m =>
      cases h
      have hlow := m.le_toInt
      have hhigh := m.toInt_lt
      exact ⟨by omega, by omega⟩
  | int m =>
      cases h
      have hlow := m.le_toInt
      have hhigh := m.toInt_lt
      exact ⟨by omega, by omega⟩
  | bigInt m =>
      cases h
      exact ⟨m.le_toInt, m.toInt_lt⟩
  | _ => cases h

end Value

/-! ## Writing -/

namespace Wire

/-- A writer adds the same bytes to every buffer, or refuses and leaves every buffer as it is. -/
inductive Acts (writer : Writer) : Prop where
  | writes (isNull : IsNull) (bytes : Bytes)
      (h : ∀ buffer, writer buffer = .ok isNull (buffer ++ bytes))
  | refuses (fault : EncodeFault) (h : ∀ buffer, writer buffer = .error fault buffer)

theorem put_eq (bytes buffer : Bytes) : put bytes buffer = .ok .no (buffer ++ bytes) := rfl

theorem acts_put (bytes : Bytes) : Acts (put bytes) := .writes .no bytes (put_eq bytes)

/-- Nothing is written before the type is checked. -/
theorem Acts.checked {writer : Writer} (h : Acts writer) (fits : Bool) :
    Acts (checked fits writer) := by
  cases fits with
  | true => exact h
  | false => exact .refuses .wrongType fun _ => rfl

/-- Nor before the range is. -/
theorem acts_narrow (width : Nat) (low high n : Int) : Acts (narrow width low high n) := by
  unfold narrow
  by_cases hrange : low ≤ n ∧ n ≤ high
  · rw [if_pos hrange]
    exact acts_put _
  · rw [if_neg hrange]
    exact .refuses .outOfRange fun _ => rfl

theorem write_of_integer? (type : ColumnType) {value : Value} {n : Int}
    (h : value.integer? = some n) : write type value = writeInteger n type := by
  cases value with
  | smallInt m | int m | bigInt m =>
      cases h
      rfl
  | _ => cases h

theorem acts_writeInteger (n : Int) (type : ColumnType) : Acts (writeInteger n type) := by
  cases type with
  | int2 => exact acts_narrow ..
  | int4 => exact acts_narrow ..
  | oid => exact acts_narrow ..
  | float8 => exact acts_put _
  | _ => exact (acts_put _).checked _

theorem acts_writeJson (binary : Bool) (doc : Json) : Acts (writeJson binary doc) := by
  cases binary with
  | true =>
      refine .writes .no (1 :: Bytes.ofText doc.compact) fun buffer => ?_
      rw [← List.singleton_append, ← List.append_assoc]
      rfl
  | false => exact .writes .no (Bytes.ofText doc.compact) fun _ => rfl

/-- Writing a value does the same to every buffer. -/
theorem acts_write (type : ColumnType) (value : Value) : Acts (write type value) := by
  cases value with
  | null => exact .writes .yes [] fun buffer => by rw [List.append_nil]; rfl
  | smallInt n => exact acts_writeInteger _ type
  | int n => exact acts_writeInteger _ type
  | bigInt n => exact acts_writeInteger _ type
  | float x =>
      change Acts (if (type == .float8) = true then put _ else checked _ _)
      split
      · exact acts_put _
      · exact (acts_put _).checked _
  | json doc => exact (acts_writeJson _ doc).checked _
  | _ => exact (acts_put _).checked _

/-- A writer takes its value. -/
def Accepts (writer : Writer) (buffer : Bytes) : Prop :=
  ∃ isNull after, writer buffer = .ok isNull after

theorem accepts_put (bytes buffer : Bytes) : Accepts (put bytes) buffer :=
  ⟨.no, buffer ++ bytes, put_eq bytes buffer⟩

theorem accepts_checked {fits : Bool} {writer : Writer} {buffer : Bytes} :
    Accepts (checked fits writer) buffer ↔ fits = true ∧ Accepts writer buffer := by
  cases fits with
  | true => exact ⟨fun h => ⟨rfl, h⟩, fun h => h.2⟩
  | false =>
      constructor
      · rintro ⟨_, _, hrefused⟩
        cases hrefused
      · rintro ⟨hfits, _⟩
        cases hfits

theorem accepts_narrow {width : Nat} {low high n : Int} {buffer : Bytes} :
    Accepts (narrow width low high n) buffer ↔ low ≤ n ∧ n ≤ high := by
  unfold narrow
  by_cases hrange : low ≤ n ∧ n ≤ high
  · rw [if_pos hrange]
    exact ⟨fun _ => hrange, fun _ => accepts_put _ buffer⟩
  · rw [if_neg hrange]
    constructor
    · rintro ⟨_, _, hrefused⟩
      cases hrefused
    · exact fun h => absurd h hrange

/-- An integer is taken by the types that have it. -/
theorem accepts_writeInteger {type : ColumnType} (hlisted : type ∈ ColumnType.faithful) {n : Int}
    (hwide : ColumnType.int8.Holds n) (buffer : Bytes) :
    Accepts (writeInteger n type) buffer ↔ type.Holds n := by
  cases type with
  | int2 =>
      refine accepts_narrow.trans ?_
      simp only [ColumnType.Holds]
      omega
  | int4 =>
      refine accepts_narrow.trans ?_
      simp only [ColumnType.Holds]
      omega
  | oid =>
      refine accepts_narrow.trans ?_
      simp only [ColumnType.Holds]
      omega
  | int8 => exact accepts_checked.trans ⟨fun _ => hwide, fun _ => ⟨rfl, accepts_put _ _⟩⟩
  | float8 => exact absurd hlisted (by decide)
  | _ =>
      refine accepts_checked.trans ⟨?_, False.elim⟩
      rintro ⟨hfits, _⟩
      cases hfits

/-! ## Reading back -/

/-- What a writer adds to a buffer is read as a value. -/
def ReadBack (type : ColumnType) (value : Value) (writer : Writer) : Prop :=
  ∀ buffer isNull after, writer buffer = .ok isNull after →
    ∃ bytes, after = buffer ++ bytes ∧ decode type (isNull.cell bytes) = .ok value

theorem ReadBack.put {type : ColumnType} {value : Value} {bytes : Bytes}
    (h : decode type (some bytes) = .ok value) : ReadBack type value (put bytes) := by
  intro buffer isNull after hput
  rw [put_eq] at hput
  cases hput
  exact ⟨bytes, rfl, h⟩

/-- Of a checked writer only the types matter that pass. -/
theorem ReadBack.checked {type : ColumnType} {value : Value} {fits : Bool} {writer : Writer}
    (h : fits = true → ReadBack type value writer) :
    ReadBack type value (checked fits writer) := by
  cases fits with
  | true => exact h rfl
  | false =>
      intro buffer isNull after hrefused
      cases hrefused

theorem ReadBack.refused {type : ColumnType} {value : Value} {fits : Bool} {writer : Writer}
    (h : fits = false) : ReadBack type value (Wire.checked fits writer) :=
  .checked fun hfits => absurd (h.symm.trans hfits) Bool.false_ne_true

/-- Of a narrowed number only the range matters. -/
theorem ReadBack.narrow {type : ColumnType} {value : Value} {width : Nat} {low high n : Int}
    (h : low ≤ n → n ≤ high → decode type (some (Bytes.ofInt width n)) = .ok value) :
    ReadBack type value (narrow width low high n) := by
  unfold Wire.narrow
  by_cases hrange : low ≤ n ∧ n ≤ high
  · rw [if_pos hrange]
    exact .put (h hrange.1 hrange.2)
  · rw [if_neg hrange]
    intro buffer isNull after hrefused
    cases hrefused

theorem decode_of_cell {type : ColumnType} {cell : Bytes} {value : Value}
    (h : decodeCell cell type = some value) : decode type (some cell) = .ok value := by
  cases type with
  | other name => cases h
  | _ => simp only [decode, h]

/-- A column that holds as many bytes as were written holds their number. -/
theorem integer?_ofInt {width : Nat} {n : Int} (hlow : -((256 ^ width : Nat) / 2) ≤ n)
    (hhigh : n < ((256 ^ width : Nat) + 1) / 2) :
    integer? width (Bytes.ofInt width n) = some n := by
  rw [integer?, if_pos (Bytes.length_ofInt width n), Bytes.toInt_ofInt hlow hhigh]

/-- The bytes of a number, read as a column of the type. -/
theorem readBack_writeInteger {type : ColumnType} (hlisted : type ∈ ColumnType.faithful) {n : Int}
    (hwide : ColumnType.int8.Holds n) : ReadBack type (type.number n) (writeInteger n type) := by
  cases type with
  | int2 =>
      refine .narrow fun hlow hhigh => decode_of_cell ?_
      rw [decodeCell, integer?_ofInt (by omega) (by omega)]
      rfl
  | int4 =>
      refine .narrow fun hlow hhigh => decode_of_cell ?_
      rw [decodeCell, integer?_ofInt (by omega) (by omega)]
      rfl
  | oid =>
      refine .narrow fun hlow hhigh => decode_of_cell ?_
      have hnumber : ((Bytes.ofInt 4 n).toNat : Int) = n := by
        rw [Bytes.toNat_ofInt, Int.emod_eq_of_lt hlow (by omega)]
      rw [decodeCell, if_pos (Bytes.length_ofInt 4 n), ← Int64.ofInt_eq_ofNat, hnumber]
      rfl
  | int8 =>
      obtain ⟨hlow, hhigh⟩ := hwide
      refine .checked fun _ => .put (decode_of_cell ?_)
      rw [decodeCell, integer?_ofInt (by omega) (by omega)]
      rfl
  | float8 => exact absurd hlisted (by decide)
  | _ => exact .checked nofun

/-- What is sent as a type comes back from a column of the type. -/
theorem decode_of_write {type : ColumnType} (hlisted : type ∈ ColumnType.faithful) (value : Value) :
    ReadBack type (value.received type) (write type value) := by
  cases value with
  | null =>
      intro buffer isNull after hwritten
      cases hwritten
      refine ⟨[], (List.append_nil buffer).symm, ?_⟩
      cases type with
      | other name => exact absurd hlisted (by simp [ColumnType.faithful])
      | _ => rfl
  | smallInt n => exact readBack_writeInteger hlisted ((Value.smallInt n).holds_of_integer? rfl)
  | int n => exact readBack_writeInteger hlisted ((Value.int n).holds_of_integer? rfl)
  | bigInt n => exact readBack_writeInteger hlisted ((Value.bigInt n).holds_of_integer? rfl)
  | bool b =>
      refine .checked fun hfits => .put ?_
      cases eq_of_beq hfits
      cases b <;> rfl
  | text s =>
      refine .checked fun hfits => .put (decode_of_cell ?_)
      cases type with
      | text | varchar | bpchar | name | unknown =>
          rw [decodeCell, Bytes.text?_ofText]
          rfl
      | _ => cases hfits
  | bytes data =>
      refine .checked fun hfits => .put ?_
      cases eq_of_beq hfits
      rfl
  | uuid u =>
      refine .checked fun hfits => .put (decode_of_cell ?_)
      cases eq_of_beq hfits
      rw [decodeCell, Uuid.ofBytes?, dif_pos u.size]
      rfl
  -- The other kinds are sent as types that are not listed.
  | float x =>
      change ReadBack type _ (if (type == .float8) = true then _ else Wire.checked _ _)
      rw [ColumnType.ne_of_faithful hlisted .float8 (by decide)]
      exact .refused (ColumnType.ne_of_faithful hlisted .float4 (by decide))
  | double x => exact .refused (ColumnType.ne_of_faithful hlisted .float8 (by decide))
  | date d => exact .refused (ColumnType.ne_of_faithful hlisted .date (by decide))
  | dateTime t => exact .refused (ColumnType.ne_of_faithful hlisted .timestamp (by decide))
  | timestamp t => exact .refused (ColumnType.ne_of_faithful hlisted .timestamptz (by decide))
  | json doc =>
      refine .refused ?_
      rw [ColumnType.ne_of_faithful hlisted .json (by decide),
        ColumnType.ne_of_faithful hlisted .jsonb (by decide)]
      rfl

/-- A refusal leaves the buffer as it was. -/
theorem eq_of_refused {writer : Writer} (h : Acts writer) {buffer : Bytes} {fault : EncodeFault}
    {after : Bytes} (hrefused : writer buffer = .error fault after) : after = buffer := by
  cases h with
  | writes isNull bytes hwrites => rw [hwrites buffer] at hrefused; cases hrefused
  | refuses fault' hrefuses => rw [hrefuses buffer] at hrefused; cases hrefused; rfl

/-- What stands in a parameter is what a column of its type yields. -/
theorem decode_of_encode {type : ColumnType} (hlisted : type ∈ ColumnType.faithful) {value : Value}
    {cell : Option Bytes} (h : encode type value = .ok cell) :
    decode type cell = .ok (value.received type) := by
  unfold encode at h
  split at h
  next isNull after hwritten =>
    obtain ⟨bytes, rfl, hback⟩ := decode_of_write hlisted value [] isNull after hwritten
    cases h
    exact hback
  next => cases h

end Wire

theorem Value.integer?_received {type : ColumnType} {value : Value}
    (h : ∀ n, value.integer? = some n → type.Holds n) :
    (value.received type).integer? = value.integer? := by
  unfold Value.received
  cases hnumber : value.integer? with
  | some n => exact ColumnType.integer?_number (h n hnumber)
  | none => exact hnumber

/-- Sending and receiving are inverse to each other.  If a value is written as a parameter of one
of the types in `ColumnType.faithful`, what was added to the buffer is read as the same value, or
as the same number in the width of the column.  An integer is written if and only if the type has
it, and a value that is refused leaves the buffer as it was. -/
theorem sent_values_come_back (type : ColumnType) (hlisted : type ∈ ColumnType.faithful)
    (value : Value) (buffer : Bytes) :
    (∀ isNull after, Wire.write type value buffer = .ok isNull after →
      ∃ bytes, after = buffer ++ bytes ∧
        Wire.decode type (isNull.cell bytes) = .ok (value.received type) ∧
        (value.received type).integer? = value.integer?) ∧
    (∀ n, value.integer? = some n →
      ((∃ isNull after, Wire.write type value buffer = .ok isNull after) ↔ type.Holds n)) ∧
    (∀ fault after, Wire.write type value buffer = .error fault after → after = buffer) := by
  have haccepts : ∀ n, value.integer? = some n →
      (Wire.Accepts (Wire.write type value) buffer ↔ type.Holds n) := by
    intro n hnumber
    rw [Wire.write_of_integer? type hnumber]
    exact Wire.accepts_writeInteger hlisted (value.holds_of_integer? hnumber) buffer
  refine ⟨fun isNull after hwritten => ?_, haccepts, fun fault after hrefused => ?_⟩
  · obtain ⟨bytes, hafter, hback⟩ :=
      Wire.decode_of_write hlisted value buffer isNull after hwritten
    have hholds : ∀ n, value.integer? = some n → type.Holds n := fun n hnumber =>
      (haccepts n hnumber).mp ⟨isNull, after, hwritten⟩
    exact ⟨bytes, hafter, hback, Value.integer?_received hholds⟩
  · exact Wire.eq_of_refused (Wire.acts_write type value) hrefused

/-- A positive number is sent as an unsigned one and comes back in 64 bits, and a negative one is
not sent. -/
theorem numbers_sent_as_oid :
    (∃ bytes, ([1, 0, 0, 0, 7] : Bytes) = [1] ++ bytes ∧
      Wire.decode .oid (some bytes) = .ok (.bigInt 7)) ∧
    (∃ fault, Wire.write .oid (.smallInt (-1)) [1] = .error fault [1]) ∧
    ¬ ∃ isNull after, Wire.write .oid (.smallInt (-1)) [1] = .ok isNull after := by
  have hlisted : ColumnType.oid ∈ ColumnType.faithful := by decide
  obtain ⟨hseven, -, -⟩ := sent_values_come_back .oid hlisted (.int 7) [1]
  obtain ⟨-, hholds, hkept⟩ := sent_values_come_back .oid hlisted (.smallInt (-1)) [1]
  obtain ⟨bytes, hafter, hback, -⟩ := hseven .no [1, 0, 0, 0, 7] rfl
  have hnegative : ¬ ColumnType.oid.Holds (-1) := fun h => absurd h.1 (by decide)
  refine ⟨⟨bytes, hafter, hback⟩, ?_, fun h => hnegative ((hholds (-1) rfl).mp h)⟩
  cases hrefused : Wire.write .oid (.smallInt (-1)) [1] with
  | ok isNull after => exact absurd ((hholds (-1) rfl).mp ⟨isNull, after, hrefused⟩) hnegative
  | error fault after => exact ⟨fault, by rw [hkept fault after hrefused]⟩

end QueryLoom

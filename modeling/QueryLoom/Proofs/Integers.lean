import QueryLoom.FromValue

/-!
# Integers that are bound and read

Integers of seven types are bound, and the value keeps one of three widths, so the type they came
from is gone.  They are read as one of five types.  The number itself passes through: binding only
ever widens, and reading compares the number with the bounds of the type before it narrows.

## Main definitions

* `BoundInteger`: the integer types that can be bound.
* `ReadInteger`: the integer types that values are read as, with their names and bounds.

## Main results

* `BoundInteger.integer?_toValue`: a bound integer is kept as the number it is.
* `ReadInteger.fromValue_of_integer?`: a number is read exactly when it lies between the bounds.
* `integers_are_kept_or_refused`: the summary.
-/

namespace QueryLoom

/-! ## Types of integers -/

/-- The types whose integers can be bound. -/
inductive BoundInteger where
  | int8
  | uint8
  | int16
  | uint16
  | int32
  | uint32
  | int64
  deriving DecidableEq, Repr

/-- The types that integers are read as. -/
inductive ReadInteger where
  | int16
  | int32
  | int64
  | uint32
  | uint64
  deriving DecidableEq, Repr

namespace BoundInteger

/-- The integers of a type. -/
abbrev Carrier : BoundInteger → Type
  | int8 => Int8
  | uint8 => UInt8
  | int16 => Int16
  | uint16 => UInt16
  | int32 => Int32
  | uint32 => UInt32
  | int64 => Int64

instance : (s : BoundInteger) → ToValue s.Carrier
  | int8 => inferInstanceAs (ToValue Int8)
  | uint8 => inferInstanceAs (ToValue UInt8)
  | int16 => inferInstanceAs (ToValue Int16)
  | uint16 => inferInstanceAs (ToValue UInt16)
  | int32 => inferInstanceAs (ToValue Int32)
  | uint32 => inferInstanceAs (ToValue UInt32)
  | int64 => inferInstanceAs (ToValue Int64)

/-- The number that an integer of a type is. -/
def toInt : (s : BoundInteger) → s.Carrier → Int
  | int8, n => Int8.toInt n
  | uint8, n => UInt8.toNat n
  | int16, n => Int16.toInt n
  | uint16, n => UInt16.toNat n
  | int32, n => Int32.toInt n
  | uint32, n => UInt32.toNat n
  | int64, n => Int64.toInt n

/-- A bound integer is kept as the number it is. -/
theorem integer?_toValue (s : BoundInteger) (x : s.Carrier) :
    (toValue x).integer? = some (s.toInt x) := by
  cases s with
  | int8 => exact congrArg some (Int8.toInt_toInt16 x)
  | uint8 =>
      have hbound := UInt8.toNat_lt x
      exact congrArg some (Int16.toInt_ofNat_of_lt (by omega))
  | uint16 =>
      have hbound := UInt16.toNat_lt x
      exact congrArg some (Int32.toInt_ofNat_of_lt (by omega))
  | uint32 =>
      have hbound := UInt32.toNat_lt x
      exact congrArg some (Int64.toInt_ofNat_of_lt (by omega))
  | int16 | int32 | int64 => rfl

end BoundInteger

namespace ReadInteger

/-- The integers of a type. -/
abbrev Carrier : ReadInteger → Type
  | int16 => Int16
  | int32 => Int32
  | int64 => Int64
  | uint32 => UInt32
  | uint64 => UInt64

instance : (t : ReadInteger) → FromValue t.Carrier
  | int16 => inferInstanceAs (FromValue Int16)
  | int32 => inferInstanceAs (FromValue Int32)
  | int64 => inferInstanceAs (FromValue Int64)
  | uint32 => inferInstanceAs (FromValue UInt32)
  | uint64 => inferInstanceAs (FromValue UInt64)

/-- The number that an integer of a type is. -/
def toInt : (t : ReadInteger) → t.Carrier → Int
  | int16, n => Int16.toInt n
  | int32, n => Int32.toInt n
  | int64, n => Int64.toInt n
  | uint32, n => UInt32.toNat n
  | uint64, n => UInt64.toNat n

/-- The name of a type in messages. -/
def name : ReadInteger → String
  | int16 => "i16"
  | int32 => "i32"
  | int64 => "i64"
  | uint32 => "u32"
  | uint64 => "u64"

/-- The least number of a type. -/
def low : ReadInteger → Int
  | int16 => -0x8000
  | int32 => -0x80000000
  | int64 => -0x8000000000000000
  | uint32 | uint64 => 0

/-- The greatest number of a type. -/
def high : ReadInteger → Int
  | int16 => 0x7FFF
  | int32 => 0x7FFFFFFF
  | int64 => 0x7FFFFFFFFFFFFFFF
  | uint32 => 0xFFFFFFFF
  | uint64 => 0xFFFFFFFFFFFFFFFF

/-- The number lies between the bounds of the type. -/
def Holds (t : ReadInteger) (n : Int) : Prop := t.low ≤ n ∧ n ≤ t.high

/-- The integer of a type with a number between its bounds. -/
def ofInt : (t : ReadInteger) → Int → t.Carrier
  | int16, n => Int16.ofInt n
  | int32, n => Int32.ofInt n
  | int64, n => Int64.ofInt n
  | uint32, n => UInt32.ofNat n.toNat
  | uint64, n => UInt64.ofNat n.toNat

/-- Integers of one type are read alike, but for the bounds and the name. -/
theorem fromValue_eq (t : ReadInteger) (value : Value) :
    (fromValue value : Except DecodeFault t.Carrier) =
      value.readInteger t.name t.low t.high t.ofInt := by
  cases t <;> rfl

/-- The numbers of a type lie between its bounds. -/
theorem holds_toInt (t : ReadInteger) (y : t.Carrier) : t.Holds (t.toInt y) := by
  cases t with
  | int16 => exact ⟨Int16.le_toInt y, Int.le_sub_one_of_lt (Int16.toInt_lt y)⟩
  | int32 => exact ⟨Int32.le_toInt y, Int.le_sub_one_of_lt (Int32.toInt_lt y)⟩
  | int64 => exact ⟨Int64.le_toInt y, Int.le_sub_one_of_lt (Int64.toInt_lt y)⟩
  | uint32 =>
      have hbound := UInt32.toNat_lt y
      simp only [Holds, low, high, toInt]
      omega
  | uint64 =>
      have hbound := UInt64.toNat_lt y
      simp only [Holds, low, high, toInt]
      omega

/-- Between the bounds nothing is lost. -/
theorem toInt_ofInt (t : ReadInteger) {n : Int} (h : t.Holds n) : t.toInt (t.ofInt n) = n := by
  obtain ⟨hlow, hhigh⟩ := h
  cases t with
  | int16 => exact Int16.toInt_ofInt_of_le hlow (by simp only [high] at hhigh; omega)
  | int32 => exact Int32.toInt_ofInt_of_le hlow (by simp only [high] at hhigh; omega)
  | int64 => exact Int64.toInt_ofInt_of_le hlow (by simp only [high] at hhigh; omega)
  | uint32 =>
      simp only [low, high] at hlow hhigh
      have hsize : n.toNat < UInt32.size := by
        simp only [UInt32.size]
        omega
      simp only [toInt, ofInt, UInt32.toNat_ofNat_of_lt' hsize]
      omega
  | uint64 =>
      simp only [low, high] at hlow hhigh
      have hsize : n.toNat < UInt64.size := by
        simp only [UInt64.size]
        omega
      simp only [toInt, ofInt, UInt64.toNat_ofNat_of_lt' hsize]
      omega

/-- Integers of one type are told apart by their numbers. -/
theorem toInt_inj (t : ReadInteger) {x y : t.Carrier} : t.toInt x = t.toInt y ↔ x = y := by
  cases t with
  | int16 => exact Int16.toInt_inj
  | int32 => exact Int32.toInt_inj
  | int64 => exact Int64.toInt_inj
  | uint32 => exact Int.ofNat_inj.trans UInt32.toNat_inj
  | uint64 => exact Int.ofNat_inj.trans UInt64.toNat_inj

/-- Of a value that is a number, exactly the integer with this number is read. -/
theorem fromValue_of_integer? (t : ReadInteger) {value : Value} {n : Int}
    (h : value.integer? = some n) :
    (t.Holds n ∧ (fromValue value : Except DecodeFault t.Carrier) = .ok (t.ofInt n)) ∨
      (¬t.Holds n ∧ (fromValue value : Except DecodeFault t.Carrier) =
        .error (.outOfRange n t.name)) := by
  rw [fromValue_eq, Value.readInteger, h]
  by_cases hholds : t.Holds n
  · exact .inl ⟨hholds, if_pos hholds⟩
  · exact .inr ⟨hholds, if_neg hholds⟩

section Outcomes

variable (t : ReadInteger) {value : Value} {n : Int} (h : value.integer? = some n)

include h

/-- What is read is the integer with the number of the value. -/
theorem fromValue_eq_ok_iff {y : t.Carrier} : fromValue value = .ok y ↔ t.toInt y = n := by
  rcases t.fromValue_of_integer? h with ⟨hholds, hread⟩ | ⟨hbeyond, hread⟩
  · rw [hread, Except.ok.injEq, ← t.toInt_inj, t.toInt_ofInt hholds, eq_comm]
  · have hother : t.toInt y ≠ n := by
      intro hsame
      exact hbeyond (hsame ▸ t.holds_toInt y)
    simp [hread, hother]

/-- There is one if the number lies between the bounds. -/
theorem exists_fromValue_iff : (∃ y : t.Carrier, fromValue value = .ok y) ↔ t.Holds n := by
  rcases t.fromValue_of_integer? h with ⟨hholds, hread⟩ | ⟨hbeyond, hread⟩
  · simp [hread, hholds]
  · simp [hread, hbeyond]

/-- Otherwise the number is out of range. -/
theorem fromValue_eq_error_iff {fault : DecodeFault} :
    (fromValue value : Except DecodeFault t.Carrier) = .error fault ↔
      ¬t.Holds n ∧ fault = .outOfRange n t.name := by
  rcases t.fromValue_of_integer? h with ⟨hholds, hread⟩ | ⟨hbeyond, hread⟩
  · simp [hread, hholds]
  · simp [hread, hbeyond, eq_comm]

end Outcomes

end ReadInteger

/-- A value that is a number is read as an optional integer just as it is read without the
option. -/
theorem fromValue_option_of_integer? {α : Type} [FromValue α] {value : Value} {n : Int}
    (h : value.integer? = some n) :
    (fromValue value : Except DecodeFault (Option α)) =
      (fromValue value : Except DecodeFault α).map some := by
  cases value with
  | null => cases h
  | _ => rfl

/-! ## Summary -/

/-- Let an integer of one of the seven types that can be bound be read as one of the five types that
integers are read as.  Exactly the integer with the same number is read, and there is one if and
only if the number lies between the bounds of the type.  Otherwise, and only then, reading is
refused because the number is out of range.  An optional integer is bound and read alike; a missing
one is read as a missing one, and it is nothing that can be read without the option. -/
theorem integers_are_kept_or_refused (s : BoundInteger) (t : ReadInteger) (x : s.Carrier) :
    (∀ y : t.Carrier, fromValue (toValue x) = .ok y ↔ t.toInt y = s.toInt x) ∧
    ((∃ y : t.Carrier, fromValue (toValue x) = .ok y) ↔ t.Holds (s.toInt x)) ∧
    (∀ fault, (fromValue (toValue x) : Except DecodeFault t.Carrier) = .error fault ↔
      ¬t.Holds (s.toInt x) ∧ fault = .outOfRange (s.toInt x) t.name) ∧
    (fromValue (toValue x) : Except DecodeFault (Option t.Carrier)) =
      (fromValue (toValue x) : Except DecodeFault t.Carrier).map some ∧
    toValue (some x) = toValue x ∧
    (fromValue (toValue (none : Option s.Carrier)) : Except DecodeFault (Option t.Carrier)) =
      .ok none ∧
    (fromValue (toValue (none : Option s.Carrier)) : Except DecodeFault t.Carrier) =
      .error (.mismatch t.name "null") := by
  have hnumber : (toValue x).integer? = some (s.toInt x) := s.integer?_toValue x
  have hmissing : (fromValue Value.null : Except DecodeFault t.Carrier) =
      .error (.mismatch t.name "null") := by
    rw [ReadInteger.fromValue_eq]
    rfl
  exact ⟨fun _ => t.fromValue_eq_ok_iff hnumber, t.exists_fromValue_iff hnumber,
    fun _ => t.fromValue_eq_error_iff hnumber, fromValue_option_of_integer? hnumber, rfl, rfl,
    hmissing⟩

/-- The greatest number of 32 bits is out of range where they are signed. -/
example : (fromValue (toValue (0xFFFFFFFF : UInt32)) : Except DecodeFault Int32) =
    .error (.outOfRange 0xFFFFFFFF "i32") := rfl

end QueryLoom

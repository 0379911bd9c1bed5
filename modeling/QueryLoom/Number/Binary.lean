/-!
# Binary floating-point numbers

Single and double precision numbers are kept as their bits, so that what is bound, transmitted and
read back is exact.  Equality is the numeric one: a NaN differs from every number, itself included,
and the two zeros are equal.

## Main definitions

* `Single`, `Double`: numbers of 32 and 64 bits.
* `Double.ofRatio`: the double nearest to a ratio of natural numbers.
* `Double.ofInt`: the double nearest to an integer.
* `Single.widen`: a single as the double of the same value.
-/

namespace QueryLoom

/-- A number in single precision, as its bits: sign, 8 bits of exponent, 23 bits of fraction. -/
structure Single where
  bits : UInt32
  deriving DecidableEq, Repr

/-- A number in double precision, as its bits: sign, 11 bits of exponent, 52 bits of fraction. -/
structure Double where
  bits : UInt64
  deriving DecidableEq, Repr

/-! ## Fields -/

namespace Single

/-- Whether the sign bit is set. -/
def isNegative (x : Single) : Bool := 0x80000000 ≤ x.bits.toNat

/-- The biased exponent. -/
def exponent (x : Single) : Nat := x.bits.toNat / 0x800000 % 0x100

/-- The fraction bits. -/
def fraction (x : Single) : Nat := x.bits.toNat % 0x800000

/-- Whether the bits are not a number. -/
def isNaN (x : Single) : Bool := x.exponent == 255 && x.fraction != 0

/-- Whether the number is zero, of either sign. -/
def isZero (x : Single) : Bool := x.exponent == 0 && x.fraction == 0

/-- Numeric equality. -/
def equal (x y : Single) : Bool :=
  !x.isNaN && !y.isNaN && (x.bits == y.bits || (x.isZero && y.isZero))

end Single

namespace Double

/-- Whether the sign bit is set. -/
def isNegative (x : Double) : Bool := 0x8000000000000000 ≤ x.bits.toNat

/-- The biased exponent. -/
def exponent (x : Double) : Nat := x.bits.toNat / 0x10000000000000 % 0x800

/-- The fraction bits. -/
def fraction (x : Double) : Nat := x.bits.toNat % 0x10000000000000

/-- Whether the bits are not a number. -/
def isNaN (x : Double) : Bool := x.exponent == 2047 && x.fraction != 0

/-- Whether the number is infinite, of either sign. -/
def isInfinite (x : Double) : Bool := x.exponent == 2047 && x.fraction == 0

/-- Whether the number is zero, of either sign. -/
def isZero (x : Double) : Bool := x.exponent == 0 && x.fraction == 0

/-- Numeric equality. -/
def equal (x y : Double) : Bool :=
  !x.isNaN && !y.isNaN && (x.bits == y.bits || (x.isZero && y.isZero))

/-! ## Rounding -/

/-- The bits of positive infinity. -/
def infinityBits : Nat := 0x7FF0000000000000

/-- A quotient rounded to the nearest natural number, a half to the even one. -/
def roundQuotient (num den : Nat) : Nat :=
  let whole := num / den
  let rest := num % den
  if 2 * rest < den then whole
  else if den < 2 * rest then whole + 1
  else if whole % 2 = 0 then whole else whole + 1

/-- The binary exponent of a positive ratio: the greatest `e` with `2 ^ e ≤ num / den`. -/
def ratioLog2 (num den : Nat) : Int :=
  let guess : Int := (num.log2 : Int) - (den.log2 : Int)
  let fits : Bool := match guess with
    | .ofNat e => den * Nat.pow 2 e ≤ num
    | .negSucc e => den ≤ num * Nat.pow 2 (e + 1)
  if fits then guess else guess - 1

/-- The bits of the double nearest to a ratio of natural numbers, a tie going to the even
neighbour; beyond the range, infinity.  The exponent field is added to the rounded significand, so
that a carry out of the significand moves to the next exponent by itself. -/
def ratioBits (num den : Nat) : Nat :=
  if num = 0 || den = 0 then 0
  else
    let e := max (ratioLog2 num den) (-1022)
    let shift := e - 52
    let significand := match shift with
      | .ofNat k => roundQuotient num (den * Nat.pow 2 k)
      | .negSucc k => roundQuotient (num * Nat.pow 2 (k + 1)) den
    min ((e + 1022).toNat * 0x10000000000000 + significand) infinityBits

/-- A double of the given sign and magnitude bits. -/
def ofSignBits (negative : Bool) (magnitude : Nat) : Double :=
  ⟨UInt64.ofNat (if negative then 0x8000000000000000 + magnitude else magnitude)⟩

/-- The double nearest to a ratio, with a sign. -/
def ofRatio (negative : Bool) (num den : Nat) : Double :=
  ofSignBits negative (ratioBits num den)

/-- The double nearest to an integer. -/
def ofInt (n : Int) : Double :=
  ofRatio (n < 0) n.natAbs 1

/-- The magnitude of a finite double as a significand and a binary exponent. -/
def decompose (x : Double) : Nat × Int :=
  if x.exponent = 0 then (x.fraction, -1074)
  else (0x10000000000000 + x.fraction, (x.exponent : Int) - 1075)

/-- The magnitude of a finite double as an exact ratio. -/
def ratio (x : Double) : Nat × Nat :=
  match x.decompose with
  | (m, .ofNat e) => (m * Nat.pow 2 e, 1)
  | (m, .negSucc e) => (m, Nat.pow 2 (e + 1))

end Double

/-- The double with the value of a single.  A NaN keeps its payload and becomes a quiet one. -/
def Single.widen (x : Single) : Double :=
  let magnitude :=
    if x.exponent = 255 then
      Double.infinityBits + x.fraction * 0x20000000 +
        (if x.fraction ≠ 0 && x.fraction < 0x400000 then 0x8000000000000 else 0)
    else if x.exponent = 0 then Double.ratioBits x.fraction (Nat.pow 2 149)
    else (x.exponent + 896) * 0x10000000000000 + x.fraction * 0x20000000
  Double.ofSignBits x.isNegative magnitude

end QueryLoom

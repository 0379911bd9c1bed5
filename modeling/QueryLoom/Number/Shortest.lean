import QueryLoom.Number.Binary

/-!
# Shortest decimals

The decimal text of a double has the fewest digits that read back as the same double; of the
decimals with that many digits it is the one nearest to the double's value.  All comparisons are
made between exact ratios of natural numbers.

## Main definitions

* `Shortest.decimal`: the digits and the decimal exponent of a positive finite double.
-/

namespace QueryLoom.Shortest

/-- A non-negative rational number, as numerator and denominator. -/
structure Ratio where
  num : Nat
  den : Nat

/-- A natural number times a power of ten. -/
def Ratio.ofDecimal (digits : Nat) : Int → Ratio
  | .ofNat k => ⟨digits * Nat.pow 10 k, 1⟩
  | .negSucc k => ⟨digits, Nat.pow 10 (k + 1)⟩

/-- A natural number times a power of two. -/
def Ratio.ofBinary (m : Nat) : Int → Ratio
  | .ofNat k => ⟨m * Nat.pow 2 k, 1⟩
  | .negSucc k => ⟨m, Nat.pow 2 (k + 1)⟩

/-- Whether a number is less than another. -/
def Ratio.lt (a b : Ratio) : Bool := a.num * b.den < b.num * a.den

/-- Whether a number is at most another. -/
def Ratio.le (a b : Ratio) : Bool := a.num * b.den ≤ b.num * a.den

/-- The numbers that round to one double: those between two ends, and the ends themselves when
`closed`. -/
structure Interval where
  low : Ratio
  value : Ratio
  high : Ratio
  closed : Bool

/-- The interval of a positive finite double.  Ends are half-way to the neighbours; below a power
of two the neighbour is only half as far away.  Ends belong to the even significand. -/
def Interval.ofDouble (x : Double) : Interval :=
  let (m, e) := x.decompose
  let below := if x.fraction = 0 && 1 < x.exponent then 4 * m - 1 else 4 * m - 2
  { low := .ofBinary below (e - 2)
    value := .ofBinary (4 * m) (e - 2)
    high := .ofBinary (4 * m + 2) (e - 2)
    closed := m % 2 == 0 }

/-- Whether a decimal lies in an interval. -/
def Interval.contains (i : Interval) (x : Ratio) : Bool :=
  if i.closed then i.low.le x && x.le i.high else i.low.lt x && x.lt i.high

/-- The decimal exponent of a positive ratio: the greatest `p` with `10 ^ p ≤ x`. -/
def decimalExponent (x : Ratio) : Int :=
  if x.den ≤ x.num then (Nat.toDigits 10 (x.num / x.den)).length - 1
  else match (List.range 400).find? fun j => x.den ≤ x.num * Nat.pow 10 j with
    | some j => -(j : Int)
    | none => -400

/-- The decimal of an interval with its last digit at `10 ^ k`, if there is one: the nearer of the
two around the value, the even one when both are equally near. -/
def candidate? (i : Interval) (k : Int) : Option Nat :=
  let unit := Ratio.ofDecimal 1 k
  let scaledNum := i.value.num * unit.den
  let scaledDen := i.value.den * unit.num
  let floor := scaledNum / scaledDen
  let rest := scaledNum % scaledDen
  let lowFits := i.contains (.ofDecimal floor k)
  let highFits := i.contains (.ofDecimal (floor + 1) k)
  match lowFits, highFits with
  | true, true =>
    if 2 * rest < scaledDen then some floor
    else if scaledDen < 2 * rest then some (floor + 1)
    else if floor % 2 = 0 then some floor else some (floor + 1)
  | true, false => some floor
  | false, true => some (floor + 1)
  | false, false => none

/-- Drop zeros at the end of the digits, raising the exponent for each; `fuel` bounds how many. -/
def trimZeros : Nat → Nat → Int → Nat × Int
  | 0, digits, k => (digits, k)
  | fuel + 1, digits, k =>
    if digits ≠ 0 && digits % 10 = 0 then trimZeros fuel (digits / 10) (k + 1) else (digits, k)

/-- The digits and the decimal exponent of a positive finite double: the first of 1, 2, … 17 digits
for which the interval holds a decimal. -/
def decimal (x : Double) : Nat × Int :=
  let i := Interval.ofDouble x
  let p := decimalExponent i.value
  let found := (List.range 17).findSome? fun (n : Nat) =>
    let k := p - (n : Int)
    (candidate? i k).map fun digits => trimZeros 20 digits k
  found.getD (0, 0)

end QueryLoom.Shortest

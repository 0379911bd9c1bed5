/-!
# Hexadecimal digits

## Main definitions

* `Hex.digit`: the lower-case digit of a number below sixteen.
* `Hex.value?`: the number of a digit in either case.
-/

namespace QueryLoom.Hex

/-- The lower-case digit of a number below sixteen. -/
def digit (n : Nat) : Char :=
  if n < 10 then Char.ofNat (48 + n) else Char.ofNat (87 + n)

/-- The value of a digit in either case. -/
def value? (c : Char) : Option Nat :=
  if c.isDigit then some (c.toNat - 48)
  else if 'a' ≤ c && c ≤ 'f' then some (c.toNat - 87)
  else if 'A' ≤ c && c ≤ 'F' then some (c.toNat - 55)
  else none

end QueryLoom.Hex

import FleetQuery.Text.Integer

/-!
# Decimals past the range of doubles

Two ways to read a decimal `digits · 10 ^ exponent` as a double, and when each gives infinity.
`exceedsDouble` is for the double that is nearest to the decimal.  `overflowsDouble` is for
reading in steps: the leading digits that fit into 64 bits are rounded to a double, and so is
the power of ten; then their product is rounded.
-/

namespace FleetQuery

/-- The least number whose nearest double is infinity: half a unit past the greatest finite
double. -/
def doubleBound : Nat := Nat.pow 2 1024 - Nat.pow 2 970

/-- The double nearest to a decimal is infinity. -/
def exceedsDouble (digits : List Char) (exponent : Int) : Bool :=
  let significant := digits.dropWhile (· == '0')
  let places : Int := significant.length + exponent
  if significant.isEmpty || places ≤ 308 then false
  else if 310 ≤ places then true
  else
    let n := digitsValue significant
    if 0 ≤ exponent then doubleBound ≤ n * Nat.pow 10 exponent.toNat
    else doubleBound * Nat.pow 10 (-exponent).toNat ≤ n

/-- The greatest number of 64 bits. -/
def maxWord : Nat := 18446744073709551615

/-- The nearest number of at most 53 significant bits; a tie goes to the even one. -/
def roundToDouble (n : Nat) : Nat :=
  let unit := 1 <<< (n.log2 + 1 - 53)
  let units := n / unit
  let rest := n % unit
  (if unit < 2 * rest || (unit == 2 * rest && units % 2 == 1) then units + 1 else units) * unit

/-- The number that `n` and the digits after it make up to 64 bits, and how many digits are left
over. -/
def leadingDigits (n : Nat) : List Char → Nat × Nat
  | [] => (n, 0)
  | d :: ds =>
    let longer := 10 * n + (d.toNat - '0'.toNat)
    if longer ≤ maxWord then leadingDigits longer ds else (n, ds.length + 1)

/-- Reading a decimal in steps gives infinity; only a power of ten that is itself a double can be
multiplied with. -/
def overflowsDouble (digits : List Char) (exponent : Int) : Bool :=
  let (n, more) := leadingDigits 0 digits
  let power := (exponent + more).toNat
  if n == 0 || power == 0 then false
  else if 309 ≤ power then true
  else doubleBound ≤ roundToDouble n * roundToDouble (Nat.pow 10 power)

end FleetQuery

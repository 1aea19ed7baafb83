import Schemata.Decimal.Binary64

/-!
# Shortest decimal digits of a double

A finite positive double `x = m * 2 ^ e` stands for every real that rounds to
it: the interval reaching half an ulp above and half the gap to the next lower
double below, with its ends included exactly when `m` is even. Among the
decimals in that interval we take one with the fewest significant digits and,
of those, the one nearest to `x` (an exact tie goes to the even digit string).

The search walks the decimal grids `10 ^ k` for one, two, ... seventeen
significant digits and tests only the two grid points around `x`: if any point
of a grid lies in the interval, one of those two does. All arithmetic is exact,
on naturals scaled to a common denominator.
-/

namespace Schemata

/-- A decimal value `digits * 10 ^ exponent`. -/
structure Decimal where
  digits : Nat
  exponent : Int
deriving DecidableEq, Repr, Inhabited

namespace Decimal

/-- Compare `d * 10 ^ k` with the rational `n / den`. -/
def compareScaled (d : Nat) (k : Int) (n den : Nat) : Ordering :=
  if k ≥ 0 then compare (d * Nat.pow 10 k.toNat * den) n
  else compare (d * den) (n * Nat.pow 10 (-k).toNat)

/-- `⌊n / (den * 10 ^ k)⌋`. -/
def floorScaled (n den : Nat) (k : Int) : Nat :=
  if k ≥ 0 then n / (den * Nat.pow 10 k.toNat) else n * Nat.pow 10 (-k).toNat / den

/-- Move an estimate `p` of `⌊log₁₀ (n / den)⌋` to the exact value; each step
moves by one, and the estimate is never off by more than two. -/
def settleExponent (n den : Nat) : Nat → Int → Int
  | 0, p => p
  | fuel + 1, p =>
    if compareScaled 1 (p + 1) n den != .gt then settleExponent n den fuel (p + 1)
    else if compareScaled 1 p n den == .gt then settleExponent n den fuel (p - 1)
    else p

/-- `⌊log₁₀ (n / den)⌋` for `n, den > 0`, estimated from bit lengths and then
settled exactly. -/
def decimalExponent (n den : Nat) : Int :=
  let b : Int := (n.log2 : Int) - (den.log2 : Int)
  settleExponent n den 6 ((b * 30103) / 100000)

/-- Drop trailing zero digits into the exponent. -/
def normalize : Nat → Decimal → Decimal
  | 0, d => d
  | fuel + 1, d =>
    if d.digits != 0 && d.digits % 10 == 0 then
      normalize fuel ⟨d.digits / 10, d.exponent + 1⟩
    else d

/-- The interval of reals that round to a finite positive double, as integer
numerators over a common denominator: `(low, value, high, denominator,
inclusive)`. -/
def roundingInterval (x : Binary64) : Nat × Nat × Nat × Nat × Bool :=
  let m := x.significand
  let scale := x.exponent - 2
  let lowerCloser := x.fraction == 0 && x.biased > 1
  let v := 4 * m
  let lo := v - (if lowerCloser then 1 else 2)
  let hi := v + 2
  if scale ≥ 0 then
    let f := Nat.pow 2 scale.toNat
    (lo * f, v * f, hi * f, 1, m % 2 == 0)
  else (lo, v, hi, Nat.pow 2 (-scale).toNat, m % 2 == 0)

/-- Whether `d * 10 ^ k` lies in the rounding interval. -/
def inInterval (lo hi den : Nat) (inclusive : Bool) (d : Nat) (k : Int) : Bool :=
  let above := compareScaled d k lo den
  let below := compareScaled d k hi den
  (above == .gt || (inclusive && above == .eq)) &&
    (below == .lt || (inclusive && below == .eq))

/-- Of the two grid points `d` and `d + 1` (scaled by `10 ^ k`), the one nearer
to `v / den`; a tie goes to the even one. -/
def nearer (v den d : Nat) (k : Int) : Nat :=
  match compareScaled (2 * d + 1) k (2 * v) den with
  | .gt => d
  | .lt => d + 1
  | .eq => if d % 2 == 0 then d else d + 1

/-- Search the grids with `n`, `n + 1`, ... significant digits. -/
def searchGrids (lo v hi den : Nat) (inclusive : Bool) (top : Int) : Nat → Nat → Decimal
  | 0, _ => ⟨floorScaled v den (top - 16), top - 16⟩
  | fuel + 1, n =>
    let k := top - (n : Int) + 1
    let d := floorScaled v den k
    let hitLow := inInterval lo hi den inclusive d k
    let hitHigh := inInterval lo hi den inclusive (d + 1) k
    if hitLow && hitHigh then ⟨nearer v den d k, k⟩
    else if hitLow then ⟨d, k⟩
    else if hitHigh then ⟨d + 1, k⟩
    else searchGrids lo v hi den inclusive top fuel (n + 1)

/-- The shortest decimal that reads back as the finite positive double `x`,
nearest to `x` among the shortest. -/
def shortest (x : Binary64) : Decimal :=
  let (lo, v, hi, den, inclusive) := roundingInterval x
  let top := decimalExponent v den
  normalize 20 (searchGrids lo v hi den inclusive top 17 1)

/-- The decimal digits, most significant first. -/
def digitChars (d : Decimal) : List Char := Nat.toDigits 10 d.digits

/-- The power of ten of the leading digit. -/
def leadingExponent (d : Decimal) : Int := d.exponent + (d.digitChars.length : Int) - 1

end Decimal

end Schemata

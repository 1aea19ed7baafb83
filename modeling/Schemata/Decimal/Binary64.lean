/-!
# Binary64 values as bit patterns

Schema defaults and JSON numbers carry IEEE 754 double precision values. We keep
such a value as its 64-bit pattern, so that equality is decidable and every
operation on it is ordinary arithmetic on naturals: a finite value is
`significand * 2 ^ exponent` with `significand < 2 ^ 53`.

The one constructor that needs care is `Binary64.nearest`, the double closest to
a non-negative rational: it scales the rational into `[2 ^ 52, 2 ^ 53)`, takes
the quotient and breaks a tie towards the even significand. Every reading of a
decimal literal in this library goes through it, so all of them are correctly
rounded.
-/

namespace Schemata

/-- An IEEE 754 binary64 value, stored as its bit pattern. -/
structure Binary64 where
  bits : UInt64
deriving DecidableEq, Repr, Inhabited

namespace Binary64

/-- Width of the stored fraction field. -/
def fractionBits : Nat := 52

/-- Whether the sign bit is set (true for `-0.0` too). -/
def sign (x : Binary64) : Bool := (x.bits >>> 63) == 1

/-- The biased exponent field, `0` for zeros and subnormals, `2047` for
infinities and NaN. -/
def biased (x : Binary64) : Nat := ((x.bits >>> 52) &&& 0x7FF).toNat

/-- The stored fraction field. -/
def fraction (x : Binary64) : Nat := (x.bits &&& 0xFFFFFFFFFFFFF).toNat

def isNaN (x : Binary64) : Bool := x.biased == 2047 && x.fraction != 0

def isInfinite (x : Binary64) : Bool := x.biased == 2047 && x.fraction == 0

def isFinite (x : Binary64) : Bool := x.biased != 2047

def isZero (x : Binary64) : Bool := x.biased == 0 && x.fraction == 0

/-- The integer significand of a finite value, hidden bit included. -/
def significand (x : Binary64) : Nat :=
  if x.biased == 0 then x.fraction else x.fraction + Nat.pow 2 52

/-- The power of two that scales `significand` to the value. -/
def exponent (x : Binary64) : Int :=
  if x.biased == 0 then -1074 else (x.biased : Int) - 1075

/-- Assemble a value from its sign, biased exponent and fraction fields. -/
def assemble (neg : Bool) (biased fraction : Nat) : Binary64 :=
  ⟨((if neg then 1 else 0 : Nat).toUInt64 <<< 63) ||| (biased.toUInt64 <<< 52)
    ||| fraction.toUInt64⟩

def zero (neg : Bool) : Binary64 := assemble neg 0 0

def infinity (neg : Bool) : Binary64 := assemble neg 2047 0

/-- The same value with the sign flipped. -/
def negate (x : Binary64) : Binary64 := ⟨x.bits ^^^ 0x8000000000000000⟩

/-- The same value with the sign cleared. -/
def abs (x : Binary64) : Binary64 := ⟨x.bits &&& 0x7FFFFFFFFFFFFFFF⟩

/-- Equality of values as IEEE comparison sees it: the two zeros are equal and
a NaN equals nothing. -/
def sameValue (x y : Binary64) : Bool :=
  !x.isNaN && !y.isNaN && (x.bits == y.bits || (x.isZero && y.isZero))

def toFloat (x : Binary64) : Float := Float.ofBits x.bits

def ofFloat (f : Float) : Binary64 := ⟨f.toBits⟩

/-- `q` and the remainder test of `num / (den * 2 ^ e)`: the floor of the
quotient, and how twice the remainder compares with the divisor. -/
def scaledQuotient (num den : Nat) (e : Int) : Nat × Ordering :=
  let (n, d) :=
    if e ≥ 0 then (num, den * Nat.pow 2 e.toNat) else (num * Nat.pow 2 (-e).toNat, den)
  (n / d, compare (2 * (n % d)) d)

/-- The exponent `e` for which `num / (den * 2 ^ e)` lies in `[2 ^ 52, 2 ^ 53)`,
assuming `num > 0` and `den > 0`. -/
def normalExponent (num den : Nat) : Int :=
  let e : Int := (num.log2 : Int) - (den.log2 : Int) - 52
  if (scaledQuotient num den e).1 < Nat.pow 2 52 then e - 1 else e

/-- Round a significand-and-exponent pair to nearest, ties to even. -/
def roundHalfEven (q : Nat) (rest : Ordering) : Nat :=
  match rest with
  | .lt => q
  | .gt => q + 1
  | .eq => if q % 2 == 0 then q else q + 1

/-- The double nearest to `num / den` (with the given sign), ties to even;
values beyond the largest finite double give infinity. `den = 0` is read as
`den = 1`. -/
def nearest (neg : Bool) (num den : Nat) : Binary64 :=
  let den := if den == 0 then 1 else den
  if num == 0 then zero neg else
  let e := max (normalExponent num den) (-1074)
  let (q, rest) := scaledQuotient num den e
  let q := roundHalfEven q rest
  let (q, e) := if q == Nat.pow 2 53 then (Nat.pow 2 52, e + 1) else (q, e)
  if e > 971 then infinity neg
  else if q < Nat.pow 2 52 then assemble neg 0 q
  else assemble neg (e + 1075).toNat (q - Nat.pow 2 52)

/-- The double nearest to the integer `n`. -/
def ofNat (n : Nat) : Binary64 := nearest false n 1

/-- The double nearest to `digits * 10 ^ exp10`. Exponents far outside the
range of doubles are settled before any power of ten is formed: a value of at
least `10 ^ 310` is infinite and one below `10 ^ -330` is zero. -/
def ofDecimal (neg : Bool) (digits : Nat) (exp10 : Int) : Binary64 :=
  let size : Int := (Nat.toDigits 10 digits).length
  if digits == 0 then zero neg
  else if exp10 + size > 310 then infinity neg
  else if exp10 + size < -330 then zero neg
  else if exp10 ≥ 0 then nearest neg (digits * Nat.pow 10 exp10.toNat) 1
  else nearest neg digits (Nat.pow 10 (-exp10).toNat)

end Binary64

end Schemata

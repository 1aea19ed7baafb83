import Schemata.Decimal.Shortest

/-!
# Writing doubles as text

Every text form of a double in this library is the shortest decimal of
`Decimal.shortest` laid out by one `FloatStyle` record: which leading exponents
switch to scientific notation, and how many fraction digits positional notation
keeps at least, and how the exponent is written. Signs, the exponent marker
`e` and the words for infinity and NaN are shared by all styles.
-/

namespace Schemata

/-- How a double is laid out once its shortest digits are known. -/
structure FloatStyle where
  /-- Leading exponents below this are written in scientific notation. -/
  scientificBelow : Option Int
  /-- Leading exponents at or above this are written in scientific notation. -/
  scientificFrom : Option Int
  /-- Positional notation keeps at least this many fraction digits. -/
  minFraction : Nat
  /-- Whether a nonnegative exponent is written with a plus sign. -/
  exponentPlus : Bool := false
deriving Repr, Inhabited

namespace FloatStyle

/-- Digits `ds` with leading exponent `e`, in positional notation with at least
`minFraction` fraction digits. -/
def positional (minFraction : Nat) (ds : List Char) (e : Int) : String :=
  let (whole, frac) :=
    if e ≥ 0 then
      let n := e.toNat + 1
      let padded := ds ++ List.replicate (n - ds.length) '0'
      (padded.take n, padded.drop n)
    else (['0'], List.replicate ((-e).toNat - 1) '0' ++ ds)
  let frac := frac ++ List.replicate (minFraction - frac.length) '0'
  String.ofList whole ++ (if frac.isEmpty then "" else "." ++ String.ofList frac)

/-- The text of an exponent: its sign (a plus only when `plus` asks for
one) and its digits. -/
def exponentText (plus : Bool) (e : Int) : String :=
  let sign := if e < 0 then "-" else if plus then "+" else ""
  sign ++ String.ofList (Nat.toDigits 10 e.natAbs)

/-- Digits `ds` with leading exponent `e`, as `d.ddd` followed by `e` and the
exponent. -/
def scientific (style : FloatStyle) (ds : List Char) (e : Int) : String :=
  let exp := "e" ++ exponentText style.exponentPlus e
  match ds with
  | [] => "0" ++ exp
  | [d] => String.singleton d ++ exp
  | d :: rest => String.singleton d ++ "." ++ String.ofList rest ++ exp

/-- Whether a nonzero value with leading exponent `e` is written in scientific
notation. -/
def useScientific (style : FloatStyle) (e : Int) : Bool :=
  (match style.scientificBelow with | some b => decide (e < b) | none => false) ||
    (match style.scientificFrom with | some t => decide (e ≥ t) | none => false)

/-- The text of a double in this style. -/
def render (style : FloatStyle) (x : Binary64) : String :=
  let sign := if x.sign then "-" else ""
  if x.isNaN then "NaN"
  else if x.isInfinite then sign ++ "inf"
  else if x.isZero then sign ++ positional style.minFraction ['0'] 0
  else
    let d := Decimal.shortest x.abs
    let ds := d.digitChars
    let e := d.leadingExponent
    if style.useScientific e then sign ++ style.scientific ds e
    else sign ++ positional style.minFraction ds e

/-- The programmer's form: positional with at least one fraction digit for
leading exponents from `-4` to `15`, scientific otherwise (`0.0001`, `1e-5`,
`1000000000000000.0`, `1e16`). -/
def debug : FloatStyle :=
  { scientificBelow := some (-4), scientificFrom := some 16, minFraction := 1 }

/-- The reader's form: always positional, without a fraction when the value
is whole (`1`, `100000000000000000000`, `0.000001`). -/
def display : FloatStyle :=
  { scientificBelow := none, scientificFrom := none, minFraction := 0 }

end FloatStyle

end Schemata

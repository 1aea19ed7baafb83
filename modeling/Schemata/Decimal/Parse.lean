import Schemata.Decimal.Binary64

/-!
# Reading numbers from text

Two readers of decimal text that front-ends share. `parseFloat?` accepts an
optional sign followed by either a decimal (`12`, `1.5`, `.5`, `5.`, each with
an optional exponent `e7`, `E-3`, `e+2`) or one of the words `inf`, `infinity`
and `nan` in any case; the value is the nearest double, so out-of-range
magnitudes become infinity or zero. `parseInt64?` accepts an optional sign and
at least one digit, and only values in `[-2 ^ 63, 2 ^ 63)`.
-/

namespace Schemata

namespace NumberText

/-- The value of an ASCII digit. -/
def digitValue (c : Char) : Nat := c.toNat - '0'.toNat

/-- The number spelled by a run of ASCII digits. -/
def digitsValue (ds : List Char) : Nat := ds.foldl (fun acc c => acc * 10 + digitValue c) 0

/-- Split off an optional leading sign. -/
def splitSign : List Char → Bool × List Char
  | '-' :: rest => (true, rest)
  | '+' :: rest => (false, rest)
  | cs => (false, cs)

/-- The exponent part `e`/`E`, optional sign, digits; `none` if malformed. -/
def exponentPart? : List Char → Option Int
  | [] => some 0
  | c :: rest =>
    if c == 'e' || c == 'E' then
      let (neg, ds) := splitSign rest
      if ds.isEmpty || !ds.all Char.isDigit then none
      else
        let v : Int := digitsValue ds
        some (if neg then -v else v)
    else none

/-- Read a decimal without sign: digits, optional point and digits, optional
exponent. At least one digit must stand before or after the point. -/
def unsignedDecimal? (cs : List Char) : Option (Nat × Int) :=
  let whole := cs.takeWhile Char.isDigit
  let rest := cs.dropWhile Char.isDigit
  let (frac, rest) :=
    match rest with
    | '.' :: more => (more.takeWhile Char.isDigit, more.dropWhile Char.isDigit)
    | _ => ([], rest)
  if whole.isEmpty && frac.isEmpty then none
  else
    match exponentPart? rest with
    | none => none
    | some e =>
      -- keep the exponent small enough to be harmless: the value is settled
      -- by `Binary64.ofDecimal` long before such exponents matter
      let e := max (min e 100000) (-100000)
      some (digitsValue (whole ++ frac), e - (frac.length : Int))

/-- The lowercase ASCII spelling of a character list. -/
def lowerAscii (cs : List Char) : List Char := cs.map Char.toLower

end NumberText

open NumberText in
/-- The double a decimal text denotes, rounded to nearest. -/
def parseFloat? (s : String) : Option Binary64 :=
  let (neg, cs) := splitSign s.toList
  let word := lowerAscii cs
  if word == "inf".toList || word == "infinity".toList then some (Binary64.infinity neg)
  else if word == "nan".toList then some ⟨0x7FF8000000000000⟩
  else
    match unsignedDecimal? cs with
    | some (digits, e) => some (Binary64.ofDecimal neg digits e)
    | none => none

open NumberText in
/-- The signed 64-bit integer a decimal text denotes. -/
def parseInt64? (s : String) : Option Int :=
  let (neg, cs) := splitSign s.toList
  if cs.isEmpty || !cs.all Char.isDigit then none
  else
    let v : Int := digitsValue cs
    let v := if neg then -v else v
    if -Int.pow 2 63 ≤ v && v < Int.pow 2 63 then some v else none

end Schemata

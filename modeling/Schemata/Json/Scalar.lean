import Schemata.Json.Cursor

/-!
# Numbers and strings in JSON text

A number is read the fast way: its decimal digits are gathered into an integer
below `2 ^ 64` (further integer digits only raise the exponent, further
fraction digits are dropped), the integer is rounded to a double and then
multiplied or divided by a power of ten. A number without fraction or exponent
stays an integer when it fits: below `2 ^ 64`, or not below `-2 ^ 63` when
negative (`-0` is the double `-0.0`). A magnitude that overflows is a fault, an
exponent too small for any double gives zero.

A string ends at the first unescaped quote; controls are not allowed in it,
and `\u` escapes must pair surrogates.
-/

namespace Schemata

namespace Json

/-- Powers of ten `1e0` to `1e308` as doubles. -/
def powersOfTen : Array Binary64 :=
  (List.range 309).toArray.map fun (i : Nat) => Binary64.ofDecimal false 1 (i : Int)

/-- The largest integer a number's digits gather into. -/
def digitLimit : Nat := Nat.pow 2 64 - 1

/-- The value of an ASCII digit. -/
def digitOf (c : Char) : Nat := c.toNat - '0'.toNat

/-- Clamp to the range of a signed 32-bit exponent. -/
def clampExponent (e : Int) : Int := max (min e 2147483647) (-2147483648)

/-- `significand * 10 ^ exponent` the fast way, as a double; `none` when the
magnitude overflows. -/
def scaleFast (significand : Nat) (exponent : Int) : Option Float :=
  -- a very small exponent is brought into the table's range 308 at a time
  let rec go (f : Float) (e : Int) : Option Float :=
    if near : e.natAbs ≤ 308 then
      let p := (powersOfTen.getD e.natAbs (Binary64.zero false)).toFloat
      if e ≥ 0 then
        let g := f * p
        if g.isInf then none else some g
      else some (f / p)
    else if f == 0.0 then some f
    else if positive : e ≥ 0 then none
    else go (f / (powersOfTen.getD 308 (Binary64.zero false)).toFloat) (e + 308)
  termination_by e.natAbs
  decreasing_by omega
  go (Binary64.ofNat significand).toFloat exponent

/-- Finish a number as a double. -/
def fromParts (neg : Bool) (significand : Nat) (exponent : Int) (c : Cursor) : Outcome Number :=
  match scaleFast significand exponent with
  | some f => .ok (.float (Binary64.ofFloat (if neg then -f else f)), c)
  | none => c.failHere .numberOutOfRange

/-- Skip digits. -/
def skipDigits : Nat → Cursor → Cursor
  | 0, c => c
  | fuel + 1, c =>
    match c.peek? with
    | some d => if isDigitChar d then skipDigits fuel c.bump else c
    | none => c

/-- Finish a number once its exponent digits are read. -/
def finishExponent (neg positive : Bool) (significand : Nat) (start : Int) (e : Nat)
    (c : Cursor) : Outcome Number :=
  let total := clampExponent (if positive then start + e else start - e)
  fromParts neg significand total c

/-- The exponent after `e`: optional sign, then digits. -/
def readExponent (fuel : Nat) (neg : Bool) (significand : Nat) (start : Int) (c : Cursor) :
    Outcome Number :=
  let c := c.bump
  let (positive, c) :=
    match c.peek? with
    | some '+' => (true, c.bump)
    | some '-' => (false, c.bump)
    | _ => (true, c)
  match c.peek? with
  | none => c.failHere .eofInValue
  | some d =>
    if !isDigitChar d then c.failNext .invalidNumber
    else
      let rec more : Nat → Nat → Cursor → Outcome Number
        | 0, e, c => finishExponent neg positive significand start e c
        | fuel + 1, e, c =>
          match c.peek? with
          | some d =>
            if isDigitChar d then
              let c := c.bump
              let v := e * 10 + digitOf d
              if v > 2147483647 then
                if significand != 0 && positive then c.failHere .numberOutOfRange
                else
                  let c := skipDigits fuel c
                  .ok (.float (Binary64.zero neg), c)
              else more fuel v c
            else finishExponent neg positive significand start e c
          | none => finishExponent neg positive significand start e c
      more fuel (digitOf d) c.bump

/-- Fraction digits after the point. -/
def readFraction (fuel : Nat) (neg : Bool) (significand : Nat) (start : Int) (c : Cursor) :
    Outcome Number :=
  let c := c.bump
  let rec digits : Nat → Nat → Int → Cursor → Outcome Number
    | 0, s, k, c => after s k c
    | fuel + 1, s, k, c =>
      match c.peek? with
      | some d =>
        if isDigitChar d then
          let v := s * 10 + digitOf d
          if v > digitLimit then
            -- further digits cannot change the gathered integer
            let c := skipDigits fuel c
            match c.peek? with
            | some 'e' => readExponent fuel neg s (start + k) c
            | some 'E' => readExponent fuel neg s (start + k) c
            | _ => fromParts neg s (start + k) c
          else digits fuel v (k - 1) c.bump
        else after s k c
      | none => after s k c
  digits fuel significand 0 c
where
  after (s : Nat) (k : Int) (c : Cursor) : Outcome Number :=
    if k == 0 then
      match c.peek? with
      | some _ => c.failNext .invalidNumber
      | none => c.failNext .eofInValue
    else
      match c.peek? with
      | some 'e' => readExponent fuel neg s (start + k) c
      | some 'E' => readExponent fuel neg s (start + k) c
      | _ => fromParts neg s (start + k) c

/-- What follows the integer digits: a fraction, an exponent, or the end. -/
def readNumberTail (fuel : Nat) (neg : Bool) (significand : Nat) (c : Cursor) : Outcome Number :=
  match c.peek? with
  | some '.' => readFraction fuel neg significand 0 c
  | some 'e' => readExponent fuel neg significand 0 c
  | some 'E' => readExponent fuel neg significand 0 c
  | _ =>
    if !neg then .ok (.nat significand, c)
    else if significand == 0 then .ok (.float (Binary64.zero true), c)
    else if significand ≤ Nat.pow 2 63 then .ok (.negInt (-(significand : Int)), c)
    else .ok (.float (Binary64.nearest true significand 1), c)

/-- Integer digits beyond what fits: each raises the exponent. -/
def readLongInteger (fuel : Nat) (neg : Bool) (significand : Nat) (c : Cursor) : Outcome Number :=
  let rec go : Nat → Int → Cursor → Outcome Number
    | 0, e, c => fromParts neg significand e c
    | fuel + 1, e, c =>
      match c.peek? with
      | some '.' => readFraction fuel neg significand e c
      | some 'e' => readExponent fuel neg significand e c
      | some 'E' => readExponent fuel neg significand e c
      | some d => if isDigitChar d then go fuel (e + 1) c.bump else fromParts neg significand e c
      | none => fromParts neg significand e c
  go fuel 0 c

/-- Read a number whose sign, if any, is already consumed. -/
def readNumber (fuel : Nat) (neg : Bool) (c : Cursor) : Outcome Number :=
  match c.peek? with
  | none => c.failHere .eofInValue
  | some '0' =>
    let c := c.bump
    match c.peek? with
    | some d => if isDigitChar d then c.failNext .invalidNumber else readNumberTail fuel neg 0 c
    | none => readNumberTail fuel neg 0 c
  | some d =>
    if !isDigitChar d then c.failNext .invalidNumber
    else
      let rec go : Nat → Nat → Cursor → Outcome Number
        | 0, s, c => readNumberTail 0 neg s c
        | fuel + 1, s, c =>
          match c.peek? with
          | some d =>
            if isDigitChar d then
              let v := s * 10 + digitOf d
              if v > digitLimit then readLongInteger fuel neg s c else go fuel v c.bump
            else readNumberTail fuel neg s c
          | none => readNumberTail fuel neg s c
      go fuel (digitOf d) c.bump

/-- Whether a character is an ASCII hexadecimal digit. -/
def isHexChar (c : Char) : Bool :=
  isDigitChar c || ('a' ≤ c && c ≤ 'f') || ('A' ≤ c && c ≤ 'F')

/-- The value of a hexadecimal digit. -/
def hexOf (c : Char) : Nat :=
  if isDigitChar c then digitOf c
  else if 'a' ≤ c && c ≤ 'f' then c.toNat - 'a'.toNat + 10
  else c.toNat - 'A'.toNat + 10

/-- Four hexadecimal digits after `\u`. -/
def readHex4 (c : Cursor) : Outcome Nat :=
  let bytes := (c.rest.take 4).foldl (fun n ch => n + ch.utf8Size) 0
  if bytes < 4 then c.failAt (c.placeAfter 4) .eofInString
  else
    match c.rest with
    | a :: b :: d :: e :: _ =>
      if isHexChar a && isHexChar b && isHexChar d && isHexChar e then
        .ok (((hexOf a * 16 + hexOf b) * 16 + hexOf d) * 16 + hexOf e, c.bump.bump.bump.bump)
      else c.failAt (c.placeAfter 4) .invalidEscape
    | _ => c.failAt (c.placeAfter 4) .invalidEscape

/-- A `\u` escape, its backslash and `u` already consumed; a leading surrogate
must be followed by an escaped trailing one. -/
def readUnicodeEscape (c : Cursor) : Outcome Char :=
  match readHex4 c with
  | .error e => .error e
  | .ok (n, c) =>
    if 0xDC00 ≤ n && n ≤ 0xDFFF then c.failHere .loneSurrogate
    else if n < 0xD800 || n > 0xDBFF then .ok (Char.ofNat n, c)
    else
      match c.peek? with
      | none => c.failHere .eofInString
      | some '\\' =>
        let c := c.bump
        match c.peek? with
        | none => c.failHere .eofInString
        | some 'u' =>
          match readHex4 c.bump with
          | .error e => .error e
          | .ok (m, c) =>
            if 0xDC00 ≤ m && m ≤ 0xDFFF then
              .ok (Char.ofNat (((n - 0xD800) * 0x400 + (m - 0xDC00)) + 0x10000), c)
            else c.failHere .loneSurrogate
        | some _ => c.failNext .unexpectedEndOfHexEscape
      | some _ => c.failNext .unexpectedEndOfHexEscape

/-- Read a string whose opening quote is already consumed. -/
def readString (fuel : Nat) (c : Cursor) : Outcome String :=
  let rec go : Nat → String → Cursor → Outcome String
    | 0, acc, c => .ok (acc, c)
    | fuel + 1, acc, c =>
      match c.peek? with
      | none => c.failHere .eofInString
      | some '"' => .ok (acc, c.bump)
      | some '\\' =>
        let c := c.bump
        match c.peek? with
        | none => c.failHere .eofInString
        | some e =>
          let simple : Option Char :=
            if e == '"' then some '"' else if e == '\\' then some '\\'
            else if e == '/' then some '/' else if e == 'b' then some '\x08'
            else if e == 'f' then some '\x0c' else if e == 'n' then some '\n'
            else if e == 'r' then some '\r' else if e == 't' then some '\t' else none
          match simple with
          | some ch => go fuel (acc.push ch) c.bump
          | none =>
            if e == 'u' then
              match readUnicodeEscape c.bump with
              | .ok (ch, c) => go fuel (acc.push ch) c
              | .error err => .error err
            else c.failNext .invalidEscape
      | some ch =>
        if ch.toNat < 0x20 then c.failNext .controlInString
        else go fuel (acc.push ch) c.bump
  go fuel "" c

/-- Skip a string whose opening quote is already consumed; escapes are checked
but surrogates need not pair. -/
def skipString (fuel : Nat) (c : Cursor) : Outcome Unit :=
  let rec go : Nat → Cursor → Outcome Unit
    | 0, c => .ok ((), c)
    | fuel + 1, c =>
      match c.peek? with
      | none => c.failHere .eofInString
      | some '"' => .ok ((), c.bump)
      | some '\\' =>
        let c := c.bump
        match c.peek? with
        | none => c.failHere .eofInString
        | some e =>
          if "\"\\/bfnrt".toList.contains e then go fuel c.bump
          else if e == 'u' then
            match readHex4 c.bump with
            | .ok (_, c) => go fuel c
            | .error err => .error err
          else c.failNext .invalidEscape
      | some ch =>
        if ch.toNat < 0x20 then c.failNext .controlInString else go fuel c.bump
  go fuel c

/-- Skip a number, checking only its syntax; its sign is already consumed. -/
def skipNumber (fuel : Nat) (c : Cursor) : Outcome Unit :=
  let exponent := fun (c : Cursor) =>
    let c := c.bump
    let c := match c.peek? with
      | some '+' => c.bump
      | some '-' => c.bump
      | _ => c
    match c.peek? with
    | some d => if isDigitChar d then .ok ((), skipDigits fuel c.bump) else c.failNext .invalidNumber
    | none => c.failHere .invalidNumber
  let fraction := fun (c : Cursor) =>
    let c := c.bump
    match c.peek? with
    | some d =>
      if isDigitChar d then
        let c := skipDigits fuel c
        match c.peek? with
        | some 'e' => exponent c
        | some 'E' => exponent c
        | _ => .ok ((), c)
      else c.failNext .invalidNumber
    | none => c.failNext .invalidNumber
  let tail := fun (c : Cursor) =>
    match c.peek? with
    | some '.' => fraction c
    | some 'e' => exponent c
    | some 'E' => exponent c
    | _ => .ok ((), c)
  match c.peek? with
  | some '0' =>
    let c := c.bump
    match c.peek? with
    | some d => if isDigitChar d then c.failNext .invalidNumber else tail c
    | none => tail c
  | some d => if isDigitChar d then tail (skipDigits fuel c.bump) else c.failNext .invalidNumber
  | none => c.failHere .invalidNumber

end Json

end Schemata

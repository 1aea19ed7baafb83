/-!
# Code point tables

Character properties are stored as sorted, disjoint ranges of code points,
written as compact hexadecimal text (`41-5A,61-7A,AA`) and decoded once into an
array. Membership is a binary search; case mappings are runs `lo-hi/step±delta`
in which every `step`-th code point from `lo` maps to itself plus `delta`.
-/

namespace Schemata

namespace Unicode

/-- The value of a hexadecimal digit (`0` for anything else). -/
def hexDigit (c : Char) : Nat :=
  if '0' ≤ c && c ≤ '9' then c.toNat - '0'.toNat
  else if 'A' ≤ c && c ≤ 'F' then c.toNat - 'A'.toNat + 10
  else if 'a' ≤ c && c ≤ 'f' then c.toNat - 'a'.toNat + 10
  else 0

/-- The number spelled by hexadecimal digits. -/
def hexValue (s : String) : Nat := s.foldl (fun acc c => acc * 16 + hexDigit c) 0

/-- Decode `lo-hi` and `cp` items separated by commas. -/
def decodeRanges (s : String) : Array (Nat × Nat) :=
  ((s.splitOn ",").map fun item =>
    match item.splitOn "-" with
    | [a] => (hexValue a, hexValue a)
    | [a, b] => (hexValue a, hexValue b)
    | _ => (1, 0)).toArray

/-- Binary search for `c` among sorted disjoint ranges `t[lo:hi]`. -/
def searchRanges (t : Array (Nat × Nat)) (c : Nat) : Nat → Nat → Nat → Bool
  | 0, _, _ => false
  | fuel + 1, lo, hi =>
    if lo ≥ hi then false
    else
      let mid := (lo + hi) / 2
      let (a, b) := t.getD mid (1, 0)
      if c < a then searchRanges t c fuel lo mid
      else if c > b then searchRanges t c fuel (mid + 1) hi
      else true

/-- Whether a code point lies in one of the ranges. -/
def inRanges (t : Array (Nat × Nat)) (c : Nat) : Bool := searchRanges t c 64 0 t.size

/-- Code points `lo, lo + step, ...` up to `hi` map to themselves plus `delta`. -/
structure CaseRun where
  lo : Nat
  hi : Nat
  step : Nat
  delta : Int
deriving Repr, Inhabited

/-- Split `s` at the first sign character after position zero. -/
def splitSigned (s : String) : String × Int :=
  let cs := s.toList
  let body := cs.takeWhile (fun c => c != '+' && c != '-')
  let rest := cs.dropWhile (fun c => c != '+' && c != '-')
  match rest with
  | '+' :: ds => (String.ofList body, (hexValue (String.ofList ds) : Int))
  | '-' :: ds => (String.ofList body, -(hexValue (String.ofList ds) : Int))
  | _ => (String.ofList body, 0)

/-- Decode one run: `cp±delta` or `lo-hi/step±delta`. -/
def decodeCaseRun (item : String) : CaseRun :=
  match item.splitOn "/" with
  | [range, tail] =>
    let (step, delta) := splitSigned tail
    match range.splitOn "-" with
    | [a, b] => ⟨hexValue a, hexValue b, max 1 (step.toNat?.getD 1), delta⟩
    | _ => ⟨1, 0, 1, 0⟩
  | _ =>
    let (cp, delta) := splitSigned item
    ⟨hexValue cp, hexValue cp, 1, delta⟩

def decodeCaseRuns (s : String) : Array CaseRun :=
  ((s.splitOn ",").map decodeCaseRun).toArray

/-- Binary search for the run holding `c`. -/
def searchRuns (t : Array CaseRun) (c : Nat) : Nat → Nat → Nat → Option Int
  | 0, _, _ => none
  | fuel + 1, lo, hi =>
    if lo ≥ hi then none
    else
      let mid := (lo + hi) / 2
      let r := t.getD mid ⟨1, 0, 1, 0⟩
      if c < r.lo then searchRuns t c fuel lo mid
      else if c > r.hi then searchRuns t c fuel (mid + 1) hi
      else if (c - r.lo) % r.step == 0 then some r.delta
      else none

/-- The code point `c` maps to under a table of runs, if it moves. -/
def lookupRuns (t : Array CaseRun) (c : Nat) : Option Nat :=
  (searchRuns t c 64 0 t.size).map fun d => ((c : Int) + d).toNat

/-- Decode `cp:m1 m2 ...` items separated by commas. -/
def decodeSpecials (s : String) : List (Nat × List Nat) :=
  (s.splitOn ",").map fun item =>
    match item.splitOn ":" with
    | [cp, targets] => (hexValue cp, (targets.splitOn " ").map hexValue)
    | _ => (0, [])

end Unicode

end Schemata

import Schemata.Decimal.Binary64

/-!
# JSON values

A JSON document as this library reads and writes it. Numbers keep the class a
reader gives them: a non-negative integer below `2 ^ 64`, a negative integer
not below `-2 ^ 63`, or a double. Objects are lists of key-value pairs in
insertion order; the operations here keep keys unique, and writing an existing
key replaces its value where it stands.

Two values are *the same* (`Json.same`) when they are equal as data: numbers
of one class with equal values (the two zeros are equal), arrays element by
element, and objects as maps, whatever the order of their keys.
-/

namespace Schemata

/-- A JSON number, classified as the reader classifies it. -/
inductive Number where
  | nat (n : Nat)
  | negInt (n : Int)
  | float (x : Binary64)
deriving Repr, Inhabited, DecidableEq

/-- A JSON value with insertion-ordered objects. -/
inductive Json where
  | null
  | bool (b : Bool)
  | num (n : Number)
  | str (s : String)
  | arr (items : List Json)
  | obj (fields : List (String × Json))
deriving Repr, Inhabited

namespace Number

/-- Equality of numbers as data: the same class and the same value. -/
def same : Number → Number → Bool
  | .nat a, .nat b => a == b
  | .negInt a, .negInt b => a == b
  | .float a, .float b => a.sameValue b
  | _, _ => false

/-- The double a number denotes, rounded to nearest. -/
def toDouble : Number → Binary64
  | .nat n => Binary64.ofNat n
  | .negInt n => Binary64.nearest true n.natAbs 1
  | .float x => x

end Number

namespace Json

/-- The value stored under `key` in an object's fields. -/
def lookup (key : String) : List (String × Json) → Option Json
  | [] => none
  | (k, v) :: rest => if k == key then some v else lookup key rest

/-- Write `value` under `key`: in place when the key is present, at the end
otherwise. -/
def setField (key : String) (value : Json) : List (String × Json) → List (String × Json)
  | [] => [(key, value)]
  | (k, v) :: rest =>
    if k == key then (k, value) :: rest else (k, v) :: setField key value rest

/-- Remove `key` from an object's fields, closing the gap. -/
def eraseField (key : String) : List (String × Json) → List (String × Json)
  | [] => []
  | (k, v) :: rest => if k == key then rest else (k, v) :: eraseField key rest

/-- Whether an object's fields hold `key`. -/
def hasField (key : String) (fields : List (String × Json)) : Bool :=
  fields.any (·.1 == key)

mutual
/-- Equality as data: objects compare as maps. -/
def same : Json → Json → Bool
  | .null, .null => true
  | .bool a, .bool b => a == b
  | .num a, .num b => a.same b
  | .str a, .str b => a == b
  | .arr xs, .arr ys => sameItems xs ys
  | .obj xs, .obj ys => xs.length == ys.length && sameFields xs ys ys
  | _, _ => false

/-- Elementwise equality of two arrays. -/
def sameItems : List Json → List Json → Bool
  | [], [] => true
  | x :: xs, y :: ys => same x y && sameItems xs ys
  | _, _ => false

/-- Every field of the first list appears with the same value in `ys`. -/
def sameFields : List (String × Json) → List (String × Json) → List (String × Json) → Bool
  | [], _, _ => true
  | (k, v) :: rest, ys, all =>
    (match lookupIn k all with
     | some w => same v w
     | none => false) && sameFields rest ys all

/-- `lookup`, repeated here so that the equality stays one mutual block. -/
def lookupIn (key : String) : List (String × Json) → Option Json
  | [] => none
  | (k, v) :: rest => if k == key then some v else lookupIn key rest
end

end Json

end Schemata

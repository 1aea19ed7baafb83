import Schemata.Json.Shape
import Schemata.Json.Fault

/-!
# Reading a value in memory through a shape

`Shape.conform` checks a JSON value against a shape and returns its canonical
value, or the first fault in document order: a field of the wrong form is
reported before any later field is looked at, a repeated field when it
repeats, and missing fields only after all present ones, in declaration order.

A value is either a whole document or *buffered* content: the members of a
tagged record after its tag is taken out, kept with repeated keys and all.
The two differ in the texts that report a record given as a list that is too
long, and in what a unit variant written as a one-key map may carry: `null` in
both, and also an empty map in buffered content.
-/

namespace Schemata

namespace Json

/-- Where a value being read comes from. -/
inductive Source where
  | document
  | buffered
deriving Repr, DecidableEq, Inhabited

mutual
/-- The number of nodes of a value. -/
def weight : Json → Nat
  | .arr items => weightItems items + 1
  | .obj fields => weightFields fields + 1
  | _ => 1

def weightItems : List Json → Nat
  | [] => 0
  | x :: rest => weight x + weightItems rest

def weightFields : List (String × Json) → Nat
  | [] => 0
  | (_, v) :: rest => weight v + weightFields rest
end

/-- `"struct X with n elements"`, the expectation of a record read from a list. -/
def withElements (expecting : String) (n : Nat) : String :=
  expecting ++ " with " ++ toString n ++ (if n == 1 then " element" else " elements")

/-- What a list that is too long was expected to be. -/
def tooLong (src : Source) (n : Nat) : String :=
  match src with
  | .document => "fewer elements in array"
  | .buffered => toString n ++ (if n == 1 then " element in sequence" else " elements in sequence")

/-- Fill in a record from the fields found, in declaration order. -/
def fillRecord (fields : List (String × Shape)) (found : List (String × Json)) :
    Except DecodeFault Json := do
  let members ← fields.mapM fun (name, shape) =>
    match found.lookup name with
    | some v => pure (name, v)
    | none =>
      match shape.whenMissing with
      | some d => pure (name, d)
      | none => throw (.missingField name)
  pure (.obj members)

/-- Find the tag among an object's members: the variant it names and the
other members in order. -/
def takeTag (tag : String) (variants : List String) :
    List (String × Json) → Option String → List (String × Json) →
      Except DecodeFault (String × List (String × Json))
  | [], none, _ => throw (.missingField tag)
  | [], some t, rest => pure (t, rest)
  | (k, v) :: more, seen, rest =>
    if k == tag then
      if seen.isSome then throw (.duplicateField tag)
      else
        match v with
        | .str s =>
          if variants.contains s then takeTag tag variants more (some s) rest
          else throw (.unknownVariant s variants)
        | other => throw (.invalidType (unexpectedOf other) "variant identifier")
    else takeTag tag variants more seen (rest ++ [(k, v)])

/-- The variant a tag value names. -/
def identifyVariant (variants : List String) : Json → Except DecodeFault String
  | .str s => if variants.contains s then pure s else throw (.unknownVariant s variants)
  | other => throw (.invalidType (unexpectedOf other) "variant identifier")

mutual
/-- Check a value against a shape and return its canonical value. -/
def Shape.conform : Nat → Source → Shape → Json → Except DecodeFault Json
  | 0, _, _, _ => throw (.noVariantMatches "value nested too deeply")
  | fuel + 1, src, shape, v =>
    match shape, v with
    | .any, v => pure v
    | .text, .str s => pure (.str s)
    | .flag, .bool b => pure (.bool b)
    | .int64, .num (.nat n) =>
      if n < 2 ^ 63 then pure (.num (.nat n)) else throw (.invalidValue (.unsigned n) "i64")
    | .int64, .num (.negInt n) => pure (.num (.negInt n))
    | .nat32, .num (.nat n) =>
      if n < 2 ^ 32 then pure (.num (.nat n)) else throw (.invalidValue (.unsigned n) "u32")
    | .nat32, .num (.negInt n) => throw (.invalidValue (.signed n) "u32")
    | .float64, .num n => pure (.num (.float n.toDouble))
    | .opt _, .null => pure .null
    | .opt inner, v => Shape.conform fuel src inner v
    | .fallback _ inner, v => Shape.conform fuel src inner v
    | .seq item, .arr xs => return .arr (← Shape.conformItems fuel src item xs)
    | .dict item, .obj fs => return .obj (← Shape.conformDict fuel src item fs [])
    | .record _ fields, .obj fs => do
      let found ← Shape.conformMembers fuel src fields fs []
      fillRecord fields found
    | .record name fields, .arr xs =>
      Shape.conformList fuel src ("struct " ++ name) fields xs
    | .untagged name alts, v => Shape.conformFirst fuel src name alts v
    | .tagged name tag variants, .obj fs => do
      let (t, rest) ← takeTag tag (variants.map (·.1)) fs none []
      Shape.conformVariant fuel name tag variants t (.obj rest)
    | .tagged _ tag _, .arr [] => throw (.missingField tag)
    | .tagged name tag variants, .arr (x :: rest) => do
      let t ← identifyVariant (variants.map (·.1)) x
      Shape.conformVariant fuel name tag variants t (.arr rest)
    | .keyword vs, .str s =>
      if vs.contains s then pure (.str s) else throw (.unknownVariant s vs)
    | .keyword vs, .obj [(k, x)] =>
      if vs.contains k then
        match src, x with
        | _, .null => pure (.str k)
        | .buffered, .obj [] => pure (.str k)
        | _, other => throw (.invalidType (unexpectedOf other) "unit")
      else throw (.unknownVariant k vs)
    | .keyword _, .obj _ => throw (.invalidValue .map "map with a single key")
    | .keyword _, v => throw (.invalidType (unexpectedOf v) "string or map")
    | shape, v => throw (.invalidType (unexpectedOf v) shape.expecting)

/-- Check every element of a list. -/
def Shape.conformItems : Nat → Source → Shape → List Json → Except DecodeFault (List Json)
  | 0, _, _, _ => pure []
  | _, _, _, [] => pure []
  | fuel + 1, src, item, x :: rest => do
    let y ← Shape.conform fuel src item x
    let ys ← Shape.conformItems fuel src item rest
    pure (y :: ys)

/-- Check every member of a map; a repeated key replaces the earlier value. -/
def Shape.conformDict : Nat → Source → Shape → List (String × Json) → List (String × Json) →
    Except DecodeFault (List (String × Json))
  | 0, _, _, _, acc => pure acc
  | _, _, _, [], acc => pure acc
  | fuel + 1, src, item, (k, x) :: rest, acc => do
    let y ← Shape.conform fuel src item x
    Shape.conformDict fuel src item rest (setField k y acc)

/-- Check the members of a record given as an object, collecting the declared
fields found in order. -/
def Shape.conformMembers : Nat → Source → List (String × Shape) → List (String × Json) →
    List (String × Json) → Except DecodeFault (List (String × Json))
  | 0, _, _, _, found => pure found
  | _, _, _, [], found => pure found
  | fuel + 1, src, fields, (k, x) :: rest, found =>
    match fields.lookup k with
    | none => Shape.conformMembers fuel src fields rest found
    | some shape =>
      if found.any (·.1 == k) then throw (.duplicateField k)
      else do
        let y ← Shape.conform fuel src shape x
        Shape.conformMembers fuel src fields rest (found ++ [(k, y)])

/-- Check a record given as a list: one element per declared field, in order. -/
def Shape.conformList : Nat → Source → String → List (String × Shape) → List Json →
    Except DecodeFault Json
  | 0, _, _, _, _ => throw (.noVariantMatches "value nested too deeply")
  | fuel + 1, src, expecting, fields, xs => do
    let (members, left) ← Shape.takeElements fuel src expecting fields.length fields 0 xs
    if left.isEmpty then pure (.obj members)
    else throw (.invalidLength xs.length (tooLong src (xs.length - left.length)))

/-- Read the declared fields of a record from the front of a list. -/
def Shape.takeElements : Nat → Source → String → Nat → List (String × Shape) → Nat → List Json →
    Except DecodeFault (List (String × Json) × List Json)
  | 0, _, _, _, _, _, xs => pure ([], xs)
  | _, _, _, _, [], _, xs => pure ([], xs)
  | fuel + 1, src, expecting, total, (name, shape) :: fields, i, xs =>
    match xs with
    | x :: rest => do
      let y ← Shape.conform fuel src shape x
      let (members, left) ← Shape.takeElements fuel src expecting total fields (i + 1) rest
      pure ((name, y) :: members, left)
    | [] =>
      match shape.whenShort with
      | some d => do
        let (members, left) ← Shape.takeElements fuel src expecting total fields (i + 1) []
        pure ((name, d) :: members, left)
      | none => throw (.invalidLength i (withElements expecting total))

/-- The first alternative the value conforms to. -/
def Shape.conformFirst : Nat → Source → String → List Shape → Json → Except DecodeFault Json
  | 0, _, name, _, _ => throw (.noVariantMatches name)
  | _, _, name, [], _ => throw (.noVariantMatches name)
  | fuel + 1, src, name, alt :: alts, v =>
    match Shape.conform fuel .buffered alt v with
    | .ok y => pure y
    | .error _ => Shape.conformFirst fuel src name alts v

/-- Read the fields of the variant `t` from buffered content. -/
def Shape.conformVariant : Nat → String → String →
    List (String × String × List (String × Shape)) → String → Json → Except DecodeFault Json
  | 0, _, _, _, _, _ => throw (.noVariantMatches "value nested too deeply")
  | fuel + 1, name, tag, variants, t, content =>
    match variants.find? (·.1 == t) with
    | none => throw (.unknownVariant t (variants.map (·.1)))
    | some (_, ident, fields) =>
      let expecting := "struct variant " ++ name ++ "::" ++ ident
      match content with
      | .obj fs => do
        let found ← Shape.conformMembers fuel .buffered fields fs []
        match ← fillRecord fields found with
        | .obj members => pure (.obj ((tag, .str t) :: members))
        | other => pure other
      | .arr xs => do
        match ← Shape.conformList fuel .buffered expecting fields xs with
        | .obj members => pure (.obj ((tag, .str t) :: members))
        | other => pure other
      | other => throw (.invalidType (unexpectedOf other) expecting)
end

/-- Check a whole document against a shape. -/
def Shape.read (shape : Shape) (v : Json) : Except DecodeFault Json :=
  shape.conform (16 * (weight v + 4)) .document v

end Json

end Schemata

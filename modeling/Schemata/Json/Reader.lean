import Schemata.Json.Scalar
import Schemata.Json.Conform

/-!
# Reading JSON text through a shape

`Shape.readText` reads a JSON text into the canonical value of a shape in one
pass from left to right and reports the first fault it meets, with the line
and column where it stood. So a fault of form early in a document wins over a
syntax fault later in it, which is never reached.

Where a shape expects a string, a boolean, a number, a list, a map or a record
and finds something else, the fault names what it found: the scalar is read
first, a list or object is not entered. Unknown record members are skipped
with a syntax check of their own that does not look at number ranges. A
choice between shapes and the variant fields of a tagged record are read as
plain JSON first and then checked as buffered content; their faults take the
place of the enclosing list or object once it is closed. At most 127 lists
and objects may be open at once.
-/

namespace Schemata

namespace Json

/-- Lists and objects open at once beyond this are refused. -/
def depthLimit : Nat := 128

/-- Accept a number where a shape wants one. -/
def Shape.acceptNumber (shape : Shape) (n : Number) : Except DecodeFault Json :=
  shape.conform 4 .document (.num n)

/-- Turn a decoding verdict into a reading step. -/
def liftDecode (c : Cursor) : Except DecodeFault Json → Outcome Json
  | .ok v => .ok (v, c)
  | .error f => c.failDecode f

/-- A fault naming what was found where `expecting` was wanted: a scalar is
read to name it, a list or object is not entered. -/
def invalidTypeAt (fuel : Nat) (expecting : String) (c : Cursor) : Outcome Json :=
  let wrong := fun (u : Unexpected) (c : Cursor) =>
    settle (c.failDecode (.invalidType u expecting))
  match c.peek? with
  | some 'n' =>
    match expectWord "ull".toList c.bump with
    | .ok (_, c) => wrong .null c
    | .error e => .error e
  | some 't' =>
    match expectWord "rue".toList c.bump with
    | .ok (_, c) => wrong (.bool true) c
    | .error e => .error e
  | some 'f' =>
    match expectWord "alse".toList c.bump with
    | .ok (_, c) => wrong (.bool false) c
    | .error e => .error e
  | some '-' =>
    match readNumber fuel true c.bump with
    | .ok (n, c) => wrong (unexpectedOf (.num n)) c
    | .error e => .error e
  | some '"' =>
    match readString fuel c.bump with
    | .ok (s, c) => wrong (.str s) c
    | .error e => .error e
  | some '[' => wrong .seq c
  | some '\x7b' => wrong .map c
  | some d =>
    if isDigitChar d then
      match readNumber fuel false c with
      | .ok (n, c) => wrong (unexpectedOf (.num n)) c
      | .error e => .error e
    else c.failNext .expectedValue
  | none => c.failNext .expectedValue

/-- Read a variant name: a string among `variants`. -/
def readVariantName (fuel : Nat) (variants : List String) (c : Cursor) : Outcome Json :=
  let c := c.skipBlank
  match c.peek? with
  | none => c.failNext .eofInValue
  | some '"' =>
    match readString fuel c.bump with
    | .ok (s, c) =>
      if variants.contains s then .ok (.str s, c)
      else settle (c.failDecode (.unknownVariant s variants))
    | .error e => .error e
  | some _ => invalidTypeAt fuel "variant identifier" c

/-- Skip one JSON value, checking its syntax only. The stack holds the open
lists (`[`) and objects (`{`). -/
def skipValue (fuel : Nat) (c : Cursor) : Outcome Unit :=
  go fuel [] c
where
  /-- Start a value with `stack` open around it. -/
  go : Nat → List Char → Cursor → Outcome Unit
    | 0, _, c => .ok ((), c)
    | fuel + 1, stack, c =>
      let c := c.skipBlank
      match c.peek? with
      | none => c.failNext .eofInValue
      | some ch =>
        let scalar := fun (r : Outcome Unit) =>
          match r with
          | .ok (_, c) => after fuel stack false c
          | .error e => .error e
        if ch == 'n' then scalar (expectWord "ull".toList c.bump)
        else if ch == 't' then scalar (expectWord "rue".toList c.bump)
        else if ch == 'f' then scalar (expectWord "alse".toList c.bump)
        else if ch == '-' then scalar (skipNumber fuel c.bump)
        else if isDigitChar ch then scalar (skipNumber fuel c)
        else if ch == '"' then scalar (skipString fuel c.bump)
        else if ch == '[' || ch == '\x7b' then opened fuel (ch :: stack) c.bump
        else c.failNext .expectedValue
  /-- Just after a value: a comma, a close, or the end of the outermost value. -/
  after : Nat → List Char → Bool → Cursor → Outcome Unit
    | 0, _, _, c => .ok ((), c)
    | fuel + 1, stack, _, c =>
      match stack with
      | [] => .ok ((), c)
      | frame :: outer =>
        let c := c.skipBlank
        match c.peek? with
        | some ',' => member fuel stack c.bump
        | some ']' => if frame == '[' then after fuel outer true c.bump
          else c.failNext .expectedObjectCommaOrEnd
        | some '\x7d' => if frame == '\x7b' then after fuel outer true c.bump
          else c.failNext .expectedListCommaOrEnd
        | some _ =>
          c.failNext (if frame == '[' then .expectedListCommaOrEnd else .expectedObjectCommaOrEnd)
        | none => c.failNext (if frame == '[' then .eofInList else .eofInObject)
  /-- Just after an opening bracket: a close or the first member. -/
  opened : Nat → List Char → Cursor → Outcome Unit
    | 0, _, c => .ok ((), c)
    | fuel + 1, stack, c =>
      match stack with
      | [] => .ok ((), c)
      | frame :: outer =>
        let c := c.skipBlank
        match c.peek? with
        | some ']' => if frame == '[' then after fuel outer true c.bump else member fuel stack c
        | some '\x7d' => if frame == '\x7b' then after fuel outer true c.bump else member fuel stack c
        | some _ => member fuel stack c
        | none => c.failNext (if frame == '[' then .eofInList else .eofInObject)
  /-- A member of the innermost open list or object. -/
  member : Nat → List Char → Cursor → Outcome Unit
    | 0, _, c => .ok ((), c)
    | fuel + 1, stack, c =>
      match stack with
      | '\x7b' :: _ =>
        let c := c.skipBlank
        match c.peek? with
        | some '"' =>
          match skipString fuel c.bump with
          | .error e => .error e
          | .ok (_, c) =>
            match objectColon c with
            | .error e => .error e
            | .ok (_, c) => go fuel stack c
        | some _ => c.failNext .keyMustBeString
        | none => c.failNext .eofInObject
      | _ => go fuel stack c

mutual
/-- Read any JSON value. -/
def readAny : Nat → Nat → Cursor → Outcome Json
  | 0, _, c => c.failNext .recursionLimit
  | fuel + 1, depth, c =>
    let c := c.skipBlank
    match c.peek? with
    | none => c.failNext .eofInValue
    | some 'n' => (expectWord "ull".toList c.bump).map fun (_, c) => (.null, c)
    | some 't' => (expectWord "rue".toList c.bump).map fun (_, c) => (.bool true, c)
    | some 'f' => (expectWord "alse".toList c.bump).map fun (_, c) => (.bool false, c)
    | some '-' => (readNumber fuel true c.bump).map fun (n, c) => (.num n, c)
    | some '"' => (readString fuel c.bump).map fun (s, c) => (.str s, c)
    | some '[' =>
      if depth + 1 ≥ depthLimit then c.failNext .recursionLimit
      else settle (closeWith (readAnyItems fuel (depth + 1) true [] c.bump) endList)
    | some '\x7b' =>
      if depth + 1 ≥ depthLimit then c.failNext .recursionLimit
      else settle (closeWith (readAnyMembers fuel (depth + 1) true [] c.bump) endObject)
    | some d =>
      if isDigitChar d then (readNumber fuel false c).map fun (n, c) => (.num n, c)
      else c.failNext .expectedValue

/-- The elements of a list of any values. -/
def readAnyItems : Nat → Nat → Bool → List Json → Cursor → Outcome Json
  | 0, _, _, acc, c => .ok (.arr acc.reverse, c)
  | fuel + 1, depth, first, acc, c =>
    match nextElementStart first c with
    | .error e => .error e
    | .ok (false, c) => .ok (.arr acc.reverse, c)
    | .ok (true, c) =>
      match readAny fuel depth c with
      | .error e => .error e
      | .ok (v, c) => readAnyItems fuel depth false (v :: acc) c

/-- The members of an object of any values; a repeated key replaces the
earlier value where it stands. -/
def readAnyMembers : Nat → Nat → Bool → List (String × Json) → Cursor → Outcome Json
  | 0, _, _, acc, c => .ok (.obj acc, c)
  | fuel + 1, depth, first, acc, c =>
    match nextKeyStart first c with
    | .error e => .error e
    | .ok (false, c) => .ok (.obj acc, c)
    | .ok (true, c) =>
      match readString fuel c.bump with
      | .error e => .error e
      | .ok (k, c) =>
        match objectColon c with
        | .error e => .error e
        | .ok (_, c) =>
          match readAny fuel depth c with
          | .error e => .error e
          | .ok (v, c) => readAnyMembers fuel depth false (setField k v acc) c

/-- Read a value through a shape. -/
def readShaped : Nat → Nat → Shape → Cursor → Outcome Json
  | 0, _, _, c => c.failNext .recursionLimit
  | fuel + 1, depth, shape, c =>
    match shape with
    | .any => readAny fuel depth c
    | .fallback _ inner => readShaped fuel depth inner c
    | .opt inner =>
      let c := c.skipBlank
      match c.peek? with
      | some 'n' => (expectWord "ull".toList c.bump).map fun (_, c) => (.null, c)
      | _ => readShaped fuel depth inner c
    | .text =>
      let c := c.skipBlank
      match c.peek? with
      | none => c.failNext .eofInValue
      | some '"' => (readString fuel c.bump).map fun (s, c) => (.str s, c)
      | some _ => invalidTypeAt fuel "a string" c
    | .flag =>
      let c := c.skipBlank
      match c.peek? with
      | none => c.failNext .eofInValue
      | some 't' => (expectWord "rue".toList c.bump).map fun (_, c) => (.bool true, c)
      | some 'f' => (expectWord "alse".toList c.bump).map fun (_, c) => (.bool false, c)
      | some _ => invalidTypeAt fuel "a boolean" c
    | .int64 | .nat32 | .float64 =>
      let c := c.skipBlank
      let accept := fun (r : Outcome Number) =>
        match r with
        | .ok (n, c) => settle (liftDecode c (shape.acceptNumber n))
        | .error e => .error e
      match c.peek? with
      | none => c.failNext .eofInValue
      | some '-' => accept (readNumber fuel true c.bump)
      | some d => if isDigitChar d then accept (readNumber fuel false c)
        else invalidTypeAt fuel shape.expecting c
    | .seq item =>
      let c := c.skipBlank
      match c.peek? with
      | none => c.failNext .eofInValue
      | some '[' =>
        if depth + 1 ≥ depthLimit then c.failNext .recursionLimit
        else settle (closeWith (readItems fuel (depth + 1) item true [] c.bump) endList)
      | some _ => invalidTypeAt fuel "a sequence" c
    | .dict item =>
      let c := c.skipBlank
      match c.peek? with
      | none => c.failNext .eofInValue
      | some '\x7b' =>
        if depth + 1 ≥ depthLimit then c.failNext .recursionLimit
        else settle (closeWith (readEntries fuel (depth + 1) item true [] c.bump) endObject)
      | some _ => invalidTypeAt fuel "a map" c
    | .record name fields =>
      let c := c.skipBlank
      match c.peek? with
      | none => c.failNext .eofInValue
      | some '[' =>
        if depth + 1 ≥ depthLimit then c.failNext .recursionLimit
        else
          let ret := readElements fuel (depth + 1) ("struct " ++ name) fields fields.length 0 true c.bump
          settle (closeWith ret endList)
      | some '\x7b' =>
        if depth + 1 ≥ depthLimit then c.failNext .recursionLimit
        else
          let ret := match readMembers fuel (depth + 1) fields true [] c.bump with
            | .ok (found, c) =>
              match fillRecord fields found with
              | .ok v => .ok (v, c)
              | .error f => c.failDecode f
            | .error e => .error e
          settle (closeWith ret endObject)
      | some _ => invalidTypeAt fuel ("struct " ++ name) c
    | .untagged name alts =>
      match readAny fuel depth c with
      | .error e => .error e
      | .ok (v, c) => liftDecode c (Shape.conformFirst (16 * (weight v + 4)) .buffered name alts v)
    | .tagged name tag variants =>
      let c := c.skipBlank
      let names := variants.map (·.1)
      let expecting := "internally tagged enum " ++ name
      let finish := fun (r : Outcome (String × Json)) =>
        match r with
        | .error e => .error e
        | .ok ((t, content), c) =>
          liftDecode c (Shape.conformVariant (16 * (weight content + 4)) name tag variants t content)
      match c.peek? with
      | none => c.failNext .eofInValue
      | some '\x7b' =>
        if depth + 1 ≥ depthLimit then c.failNext .recursionLimit
        else
          let ret := readTagMembers fuel (depth + 1) tag names true none [] c.bump
          finish (settle (closeWith ret endObject))
      | some '[' =>
        if depth + 1 ≥ depthLimit then c.failNext .recursionLimit
        else
          let ret : Outcome (String × Json) :=
            match nextElementStart true c.bump with
            | .error e => .error e
            | .ok (false, c) => c.failDecode (.missingField tag)
            | .ok (true, c) =>
              match readVariantName fuel names c with
              | .error e => .error e
              | .ok (t, c) =>
                match readAnyItems fuel (depth + 1) false [] c with
                | .error e => .error e
                | .ok (rest, c) =>
                  match t with
                  | .str t => .ok ((t, rest), c)
                  | _ => .ok (("", rest), c)
          finish (settle (closeWith ret endList))
      | some _ =>
        match readAny fuel depth c with
        | .error e => .error e
        | .ok (v, c) => settle (c.failDecode (.invalidType (unexpectedOf v) expecting))
    | .keyword variants =>
      let c := c.skipBlank
      match c.peek? with
      | none => c.failNext .eofInValue
      | some '"' => readVariantName fuel variants c
      | some '\x7b' =>
        if depth + 1 ≥ depthLimit then c.failNext .recursionLimit
        else
          match readVariantName fuel variants c.bump with
          | .error e => .error e
          | .ok (v, c) =>
            match objectColon c with
            | .error e => .error e
            | .ok (_, c) =>
              let c := c.skipBlank
              let unit : Outcome Unit :=
                match c.peek? with
                | none => c.failNext .eofInValue
                | some 'n' => expectWord "ull".toList c.bump
                | some _ =>
                  match invalidTypeAt fuel "unit" c with
                  | .error e => .error e
                  | .ok (_, c) => .ok ((), c)
              match unit with
              | .error e => .error e
              | .ok (_, c) =>
                let c := c.skipBlank
                match c.peek? with
                | some '\x7d' => .ok (v, c.bump)
                | some _ => c.failHere .expectedValue
                | none => c.failHere .eofInObject
      | some _ => c.failNext .expectedValue

/-- The elements of a list through a shape. -/
def readItems : Nat → Nat → Shape → Bool → List Json → Cursor → Outcome Json
  | 0, _, _, _, acc, c => .ok (.arr acc.reverse, c)
  | fuel + 1, depth, item, first, acc, c =>
    match nextElementStart first c with
    | .error e => .error e
    | .ok (false, c) => .ok (.arr acc.reverse, c)
    | .ok (true, c) =>
      match readShaped fuel depth item c with
      | .error e => .error e
      | .ok (v, c) => readItems fuel depth item false (v :: acc) c

/-- The members of a map through a shape. -/
def readEntries : Nat → Nat → Shape → Bool → List (String × Json) → Cursor → Outcome Json
  | 0, _, _, _, acc, c => .ok (.obj acc, c)
  | fuel + 1, depth, item, first, acc, c =>
    match nextKeyStart first c with
    | .error e => .error e
    | .ok (false, c) => .ok (.obj acc, c)
    | .ok (true, c) =>
      match readString fuel c.bump with
      | .error e => .error e
      | .ok (k, c) =>
        match objectColon c with
        | .error e => .error e
        | .ok (_, c) =>
          match readShaped fuel depth item c with
          | .error e => .error e
          | .ok (v, c) => readEntries fuel depth item false (setField k v acc) c

/-- The members of a record given as an object: declared fields found, in the
order found. -/
def readMembers : Nat → Nat → List (String × Shape) → Bool → List (String × Json) → Cursor →
    Outcome (List (String × Json))
  | 0, _, _, _, found, c => .ok (found, c)
  | fuel + 1, depth, fields, first, found, c =>
    match nextKeyStart first c with
    | .error e => .error e
    | .ok (false, c) => .ok (found, c)
    | .ok (true, c) =>
      match readString fuel c.bump with
      | .error e => .error e
      | .ok (k, c) =>
        match fields.lookup k with
        | some shape =>
          if found.any (·.1 == k) then c.failDecode (.duplicateField k)
          else
            match objectColon c with
            | .error e => .error e
            | .ok (_, c) =>
              match readShaped fuel depth shape c with
              | .error e => .error e
              | .ok (v, c) => readMembers fuel depth fields false (found ++ [(k, v)]) c
        | none =>
          match objectColon c with
          | .error e => .error e
          | .ok (_, c) =>
            match skipValue fuel c with
            | .error e => .error e
            | .ok (_, c) => readMembers fuel depth fields false found c

/-- The fields of a record given as a list, one element per declared field. -/
def readElements : Nat → Nat → String → List (String × Shape) → Nat → Nat → Bool → Cursor →
    Outcome Json
  | 0, _, _, _, _, _, _, c => .ok (.obj [], c)
  | fuel + 1, depth, expecting, fields, total, i, first, c =>
    match fields with
    | [] => .ok (.obj [], c)
    | (name, shape) :: more =>
      let rest := fun (v : Json) (first : Bool) (c : Cursor) =>
        match readElements fuel depth expecting more total (i + 1) first c with
        | .ok (.obj members, c) => .ok (.obj ((name, v) :: members), c)
        | other => other
      match nextElementStart first c with
      | .error e => .error e
      | .ok (false, c) =>
        match shape.whenShort with
        | some d => rest d first c
        | none => c.failDecode (.invalidLength i (withElements expecting total))
      | .ok (true, c) =>
        match readShaped fuel depth shape c with
        | .error e => .error e
        | .ok (v, c) => rest v false c

/-- The members of a tagged record: the variant named by the tag and the other
members as buffered content, repeated keys kept. -/
def readTagMembers : Nat → Nat → String → List String → Bool → Option String →
    List (String × Json) → Cursor → Outcome (String × Json)
  | 0, _, _, _, _, _, acc, c => .ok (("", .obj acc), c)
  | fuel + 1, depth, tag, names, first, seen, acc, c =>
    match nextKeyStart first c with
    | .error e => .error e
    | .ok (false, c) =>
      match seen with
      | some t => .ok ((t, .obj acc), c)
      | none => c.failDecode (.missingField tag)
    | .ok (true, c) =>
      match readString fuel c.bump with
      | .error e => .error e
      | .ok (k, c) =>
        if k == tag then
          if seen.isSome then c.failDecode (.duplicateField tag)
          else
            match objectColon c with
            | .error e => .error e
            | .ok (_, c) =>
              match readVariantName fuel names c with
              | .error e => .error e
              | .ok (.str t, c) => readTagMembers fuel depth tag names false (some t) acc c
              | .ok (_, c) => readTagMembers fuel depth tag names false seen acc c
        else
          match objectColon c with
          | .error e => .error e
          | .ok (_, c) =>
            match readAny fuel depth c with
            | .error e => .error e
            | .ok (v, c) => readTagMembers fuel depth tag names false seen (acc ++ [(k, v)]) c
end

/-- Read a whole JSON text through a shape; only blanks may follow the value. -/
def Shape.readText (shape : Shape) (text : String) : Except ReadError Json :=
  let c := Cursor.start text
  let fuel := 4 * (text.length + 16)
  match readShaped fuel 0 shape c with
  | .error (e, _) => .error e
  | .ok (v, c) =>
    let c := c.skipBlank
    if c.rest.isEmpty then .ok v
    else .error ⟨.malformed .trailingCharacters, some c.nextPlace⟩

/-- Read a JSON text as a plain value. -/
def parse (text : String) : Except ReadError Json := Shape.any.readText text

end Json

end Schemata

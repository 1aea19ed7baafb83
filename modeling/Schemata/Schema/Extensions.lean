import Schemata.Text.Unicode.WhiteSpace
import Schemata.Text.Unicode.Case

/-!
# Database extensions

Extension names are compared in normal form: trimmed, unquoted once,
lower-cased, with `uuid_ossp` read as `uuid-ossp`. Only a fixed set of
extensions can be loaded by the sandbox runtime.

`CREATE EXTENSION` statements are found in DDL text by the pattern

    CREATE <blanks> EXTENSION <blanks> [IF <blanks> NOT <blanks> EXISTS <blanks>]
      [quote] name [quote]

with the words matched case-insensitively (a long `ſ` matches `S`), blanks
being Unicode white space, a quote being `"` or `'`, and the name a
non-empty run of characters other than quotes, blanks and `;`. The optional
`IF NOT EXISTS` part is taken when the rest matches after it; occurrences are
found left to right without overlapping.
-/

namespace Schemata

namespace Extensions

open Unicode

/-- Extensions the sandbox runtime can load, in normal form. -/
def supported : List String :=
  ["live", "vector", "amcheck", "auto_explain", "bloom", "btree_gin", "btree_gist", "citext",
   "cube", "earthdistance", "fuzzystrmatch", "hstore", "isn", "lo", "ltree", "pg_ivm",
   "pg_trgm", "seg", "tablefunc", "tcn", "tsm_system_rows", "tsm_system_time", "uuid-ossp"]

/-- The normal form of an extension name. -/
def normalize (name : String) : String :=
  let cs := dropTrailingBlanks (dropBlanks name.toList)
  let cs := match cs with
    | '"' :: rest@(_ :: _) => if rest.getLast? == some '"' then rest.dropLast else cs
    | _ => cs
  let lowered := lowercase (String.ofList cs)
  if lowered == "uuid_ossp" then "uuid-ossp" else lowered

def isSupported (name : String) : Bool := supported.contains (normalize name)

/-- The module name the sandbox runtime loads an extension under. -/
def runtimeName (name : String) : String :=
  let n := normalize name
  if n == "uuid-ossp" then "uuid_ossp"
  else if n == "vector" then "vector"
  else if supported.contains n then n
  else n.replace "_" "-"

/-- Whether `c` matches the ASCII letter `l` (given in upper case) ignoring
case; the long `ſ` and the Kelvin sign fold to `S` and `K`. -/
def foldsTo (l c : Char) : Bool :=
  c == l || c == l.toLower || (l == 'S' && c == '\u017F') || (l == 'K' && c == '\u212A')

/-- Match a word ignoring case at the front of `cs`; the rest after it. -/
def matchWord : List Char → List Char → Option (List Char)
  | [], cs => some cs
  | l :: ls, c :: cs => if foldsTo l c then matchWord ls cs else none
  | _ :: _, [] => none

/-- Match one or more blanks; the rest after all of them. -/
def matchBlanks (cs : List Char) : Option (List Char) :=
  match cs with
  | c :: _ => if isWhiteSpace c then some (dropBlanks cs) else none
  | [] => none

def isQuote (c : Char) : Bool := c == '"' || c == '\''

def isNameChar (c : Char) : Bool := !isQuote c && !isWhiteSpace c && c != ';'

/-- The name at the front of `cs` and the characters after the match, the
closing quote included. -/
def matchName (cs : List Char) : Option (String × List Char) :=
  let run (ds : List Char) : Option (String × List Char) :=
    let name := ds.takeWhile isNameChar
    if name.isEmpty then none
    else
      let rest := ds.dropWhile isNameChar
      match rest with
      | q :: rest' => if isQuote q then some (String.ofList name, rest') else some (String.ofList name, rest)
      | [] => some (String.ofList name, rest)
  match cs with
  | q :: rest => if isQuote q then run rest else run cs
  | [] => none

/-- A `CREATE EXTENSION` statement at the front of `cs`: the name and the
characters after the match. -/
def matchStatement (cs : List Char) : Option (String × List Char) := do
  let cs ← matchWord "CREATE".toList cs
  let cs ← matchBlanks cs
  let cs ← matchWord "EXTENSION".toList cs
  let cs ← matchBlanks cs
  let guarded : Option (List Char) := do
    let ds ← matchWord "IF".toList cs
    let ds ← matchBlanks ds
    let ds ← matchWord "NOT".toList ds
    let ds ← matchBlanks ds
    let ds ← matchWord "EXISTS".toList ds
    matchBlanks ds
  match guarded.bind matchName with
  | some r => some r
  | none => matchName cs

/-- A piece of DDL text: plain text, or a matched statement with its name. -/
inductive Piece where
  | text (cs : List Char)
  | statement (cs : List Char) (name : String)
deriving Repr, Inhabited

/-- Cut a text into pieces at the `CREATE EXTENSION` statements, scanning
left to right. `plain` holds the current plain run reversed. -/
def piecesFrom (fuel : Nat) (plain : List Char) (cs : List Char) : List Piece :=
  match fuel with
  | 0 => [.text (plain.reverse ++ cs)]
  | fuel + 1 =>
    match cs with
    | [] => if plain.isEmpty then [] else [.text plain.reverse]
    | c :: rest =>
      match matchStatement cs with
      | some (name, after) =>
        let stmt := cs.take (cs.length - after.length)
        (if plain.isEmpty then [] else [.text plain.reverse]) ++
          .statement stmt name :: piecesFrom fuel [] after
      | none => piecesFrom fuel (c :: plain) rest

def pieces (sql : String) : List Piece := piecesFrom (sql.length + 1) [] sql.toList

/-- Add `x` unless it is present. -/
def pushNew (xs : List String) (x : String) : List String := if xs.contains x then xs else xs ++ [x]

/-- Supported extensions named by `CREATE EXTENSION` statements, in order of
first appearance. -/
def detect (sql : String) : List String :=
  (pieces sql).foldl (fun found p =>
    match p with
    | .statement _ name =>
      let n := normalize name
      if supported.contains n then pushNew found n else found
    | .text _ => found) []

/-- Comment out the `CREATE EXTENSION` statements of extensions that cannot
be loaded; returns the new text and the supported names kept. -/
def filterDdl (sql : String) : String × List String :=
  (pieces sql).foldl (fun (out, kept) p =>
    match p with
    | .text cs => (out ++ String.ofList cs, kept)
    | .statement cs name =>
      let n := normalize name
      if supported.contains n then (out ++ String.ofList cs, pushNew kept n)
      else (out ++ "-- Excluded (not supported in PGlite): " ++ String.ofList cs, kept))
    ("", [])

end Extensions

end Schemata

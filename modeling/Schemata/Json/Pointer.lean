/-!
# JSON pointers

A pointer names a place in a document by a list of segments: the empty text is
the whole document, every other pointer is `/` followed by the segments joined
by `/`. Inside a segment `~` is written `~0` and `/` is written `~1`; reading
replaces every `~1` by `/` first and then every `~0` by `~`.
-/

namespace Schemata

namespace Pointer

/-- The escaped form of a segment's characters. -/
def escapeChars : List Char → List Char
  | [] => []
  | '~' :: rest => '~' :: '0' :: escapeChars rest
  | '/' :: rest => '~' :: '1' :: escapeChars rest
  | c :: rest => c :: escapeChars rest

/-- Replace every `~1` by `/`, left to right. -/
def unescapeSlash : List Char → List Char
  | [] => []
  | '~' :: '1' :: rest => '/' :: unescapeSlash rest
  | c :: rest => c :: unescapeSlash rest

/-- Replace every `~0` by `~`, left to right. -/
def unescapeTilde : List Char → List Char
  | [] => []
  | '~' :: '0' :: rest => '~' :: unescapeTilde rest
  | c :: rest => c :: unescapeTilde rest

/-- Split characters at every `/`; no slash gives one piece. -/
def splitSlash : List Char → List (List Char)
  | [] => [[]]
  | '/' :: rest => [] :: splitSlash rest
  | c :: rest =>
    match splitSlash rest with
    | [] => [[c]]
    | first :: more => (c :: first) :: more

/-- The escaped form of a segment. -/
def escapeSegment (s : String) : String := String.ofList (escapeChars s.toList)

/-- A segment as it reads back from its escaped form. -/
def unescapeSegment (s : String) : String :=
  String.ofList (unescapeTilde (unescapeSlash s.toList))

/-- The pointer to the place named by `segments`. -/
def ofSegments (segments : List String) : String :=
  String.join (segments.map fun s => "/" ++ escapeSegment s)

/-- The segments a pointer names, or `none` when it is neither empty nor
starts with `/`. -/
def segments? (path : String) : Option (List String) :=
  match path.toList with
  | [] => some []
  | '/' :: rest => some ((splitSlash rest).map fun cs => String.ofList (unescapeTilde (unescapeSlash cs)))
  | _ => none

end Pointer

end Schemata

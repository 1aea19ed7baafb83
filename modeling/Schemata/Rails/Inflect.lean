/-!
# English inflection of table names

Rails names a foreign key column after the singular of the referenced table
(`users` → `user_id`) and a referenced table after the plural of a reference
(`user` → `users`). Only the regular English endings are known: `-ies`/`-y`,
the sibilant endings `-sses`, `-shes`, `-ches`, `-xes`, `-zes` and a final
`-s`; words ending in `ss` or `us` are taken as singular already.
-/

namespace Schemata

namespace Inflect

/-- Whether `s` ends with `suffix`. -/
def endsWith (s suffix : String) : Bool := s.endsWith suffix

/-- `s` without its last `n` characters. -/
def dropLast (s : String) (n : Nat) : String := String.ofList (s.toList.take (s.length - n))

/-- The singular of a table name. -/
def singularize (word : String) : String :=
  if endsWith word "ies" then dropLast word 3 ++ "y"
  else if ["sses", "shes", "ches", "xes", "zes"].any (endsWith word ·) then dropLast word 2
  else if endsWith word "ss" || endsWith word "us" then word
  else if endsWith word "s" then dropLast word 1
  else word

/-- The plural of a word. -/
def pluralize (word : String) : String :=
  let vowelBeforeY := endsWith word "y" &&
    ((dropLast word 1).toList.getLast?).any fun c => "aeiou".toList.contains c
  if endsWith word "y" && !vowelBeforeY then dropLast word 1 ++ "ies"
  else if ["s", "x", "z", "ch", "sh"].any (endsWith word ·) then word ++ "es"
  else word ++ "s"

end Inflect

end Schemata

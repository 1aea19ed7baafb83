/-!
# Maps from names in insertion order

Every collection of a schema maps names to objects and keeps the order in
which names were first inserted: inserting a present name replaces its value
where it stands, erasing one closes the gap. The order is visible in every
text rendered from a schema.
-/

namespace Schemata

/-- A map from names to values, in insertion order. -/
structure NameMap (α : Type) where
  entries : List (String × α)
deriving Repr, Inhabited

namespace NameMap

variable {α : Type}

def empty : NameMap α := ⟨[]⟩

/-- The value stored under a name. -/
def get? (m : NameMap α) (k : String) : Option α := m.entries.lookup k

def contains (m : NameMap α) (k : String) : Bool := m.entries.any (·.1 == k)

/-- Replace the value of a present name in place, or append a new one. -/
def insertEntries (k : String) (v : α) : List (String × α) → List (String × α)
  | [] => [(k, v)]
  | (k', v') :: rest => if k' == k then (k', v) :: rest else (k', v') :: insertEntries k v rest

def insert (m : NameMap α) (k : String) (v : α) : NameMap α := ⟨insertEntries k v m.entries⟩

def erase (m : NameMap α) (k : String) : NameMap α := ⟨m.entries.filter (·.1 != k)⟩

/-- Change the value under a present name. -/
def modify (m : NameMap α) (k : String) (f : α → α) : NameMap α :=
  ⟨m.entries.map fun (k', v) => if k' == k then (k', f v) else (k', v)⟩

def keys (m : NameMap α) : List String := m.entries.map (·.1)

def values (m : NameMap α) : List α := m.entries.map (·.2)

def size (m : NameMap α) : Nat := m.entries.length

def isEmpty (m : NameMap α) : Bool := m.entries.isEmpty

/-- Build a map by inserting the pairs in order. -/
def ofList (pairs : List (String × α)) : NameMap α :=
  pairs.foldl (fun m (k, v) => m.insert k v) empty

/-- Inserting a present name leaves the order of names as it was. -/
theorem keys_insert_of_contains {m : NameMap α} {k : String} (v : α) (h : m.contains k = true) :
    (m.insert k v).keys = m.keys := by
  obtain ⟨es⟩ := m
  unfold insert keys
  unfold contains at h
  induction es with
  | nil => simp at h
  | cons e rest ih =>
    obtain ⟨k', v'⟩ := e
    simp only [insertEntries]
    split
    · simp
    · rename_i hk
      have h' : (rest.any fun x => x.1 == k) = true := by
        simp only [List.any_cons, Bool.or_eq_true] at h
        exact h.resolve_left hk
      simp only [List.map_cons, ih h']

/-- Inserting a fresh name appends it to the order of names. -/
theorem keys_insert_of_contains_eq_false {m : NameMap α} {k : String} (v : α)
    (h : m.contains k = false) : (m.insert k v).keys = m.keys ++ [k] := by
  obtain ⟨es⟩ := m
  unfold insert keys
  unfold contains at h
  induction es with
  | nil => rfl
  | cons e rest ih =>
    obtain ⟨k', v'⟩ := e
    simp only [List.any_cons, Bool.or_eq_false_iff] at h
    simp only [insertEntries]
    split
    · rename_i hk
      exact absurd hk (by simp only [h.1]; decide)
    · simp only [List.map_cons, ih h.2, List.cons_append]

end NameMap

end Schemata

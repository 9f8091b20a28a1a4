/-!
Header fields of a message, in the order they were added. A name may come several times; names are
kept in lower case, so two spellings of a name are the same field.
-/

namespace ReportGateway.Http

/-- Header fields: names in lower case, with their values. -/
abbrev Headers : Type := List (String × String)

namespace Headers

/-- The fields of a list whose names may be spelled in any letter case. -/
def ofList (fields : List (String × String)) : Headers :=
  fields.map fun (name, value) => (name.toLower, value)

/-- The first value of a name. -/
def first? (h : Headers) (name : String) : Option String := h.lookup name

/-- All values of a name, in order. -/
def values (h : Headers) (name : String) : List String :=
  (h.filter fun field => field.1 = name).map Prod.snd

/-- The fields without those of some names. -/
def without (h : Headers) (names : List String) : Headers :=
  h.filter fun field => !names.contains field.1

/-- Adds a field behind those that are there. -/
def add (h : Headers) (name value : String) : Headers := h ++ [(name, value)]

/-- Gives a name one value. -/
def set (h : Headers) (name value : String) : Headers := (h.without [name]).add name value

@[simp] theorem values_add_self (h : Headers) (name value : String) :
    (h.add name value).values name = h.values name ++ [value] := by
  simp [values, add]

theorem values_add_of_ne (h : Headers) {name other : String} (value : String) (hne : name ≠ other) :
    (h.add name value).values other = h.values other := by
  simp [values, add, hne]

@[simp] theorem values_set_self (h : Headers) (name value : String) :
    (h.set name value).values name = [value] := by
  rw [set, values_add_self]
  simp [values, without, List.filter_filter]

end Headers

end ReportGateway.Http

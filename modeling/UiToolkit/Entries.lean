import UiToolkit.Text.Basic

/-!
# Entries

A table from names to values that remembers the order in which the names first came. Giving a name a second value keeps its place.
-/

namespace UiToolkit

abbrev Entries (α : Type) := List (Text × α)

namespace Entries

variable {α β : Type}

def put (name : Text) (value : α) : Entries α → Entries α
  | [] => [(name, value)]
  | (n, v) :: rest => if n == name then (n, value) :: rest else (n, v) :: put name value rest

def get? (name : Text) (entries : Entries α) : Option α := entries.lookup name

def putAll (entries : Entries α) (pairs : List (Text × α)) : Entries α :=
  pairs.foldl (fun es (name, value) => es.put name value) entries

def ofList (pairs : List (Text × α)) : Entries α := putAll [] pairs

def names (entries : Entries α) : List Text := entries.map Prod.fst

/-- The entries under changed names; names that fall together share the first place and the last value. -/
def mapNames (f : Text → Text) (entries : Entries α) : Entries α :=
  ofList (entries.map fun (name, value) => (f name, value))

/-- The names in order of first occurrence. -/
def distinct (names : List Text) : List Text :=
  (ofList (names.map fun name => (name, ()))).names

end Entries

end UiToolkit

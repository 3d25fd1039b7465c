import Questionnaire.Text.Basic

/-!
# Indexes

An index lists entries under names, in ascending order of the names by code
point, each name at most once.  An entry is only ever found, added or changed;
nothing is taken out.

## Main definitions

* `Index β` — the entries, each a name and a value.
* `Index.find? index name` — the value under a name.
* `Index.alter name f index` — the entry under `name` becomes `f` of what was
  there, or is put in its place in the order.
* `Index.ofEntries` — the index of a list of entries, the last one of each name.
-/

namespace Questionnaire

/-- Entries in ascending order of their names. -/
abbrev Index (β : Type) := List (Text × β)

namespace Index

variable {β : Type}

/-- The value under a name. -/
def find? : Index β → Text → Option β
  | [], _ => none
  | (key, value) :: rest, name => if name = key then some value else find? rest name

@[simp] theorem find?_nil (name : Text) : find? ([] : Index β) name = none := rfl

theorem find?_cons (key : Text) (value : β) (rest : Index β) (name : Text) :
    find? ((key, value) :: rest) name = if name = key then some value else find? rest name :=
  rfl

/-- The entry under `name` becomes `f` of what was there.  A new entry is put
before the first one with a greater name. -/
def alter (name : Text) (f : Option β → β) : Index β → Index β
  | [] => [(name, f none)]
  | (key, value) :: rest =>
    if name = key then (key, f (some value)) :: rest
    else if name < key then (name, f none) :: (key, value) :: rest
    else (key, value) :: alter name f rest

@[simp] theorem alter_nil (name : Text) (f : Option β → β) :
    alter name f [] = [(name, f none)] := rfl

theorem alter_cons (name : Text) (f : Option β → β) (key : Text) (value : β) (rest : Index β) :
    alter name f ((key, value) :: rest) =
      if name = key then (key, f (some value)) :: rest
      else if name < key then (name, f none) :: (key, value) :: rest
      else (key, value) :: alter name f rest :=
  rfl

/-- The index of a list of entries; of entries with one name the last counts. -/
def ofEntries (entries : List (Text × β)) : Index β :=
  entries.foldl (fun index entry => alter entry.1 (fun _ => entry.2) index) []

/-- The names in ascending order. -/
def names (index : Index β) : List Text := index.map (·.1)

end Index

end Questionnaire

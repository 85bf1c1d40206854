import QueryBinding.Record.Basic

/-! # Fields gathered by name

A map from names that keeps its entries in order, and what is left of a list of fields that are
entered one after the other. -/

namespace QueryBinding

/-- A map from names that keeps its entries in the order in which their names came. -/
structure NameMap (α : Type) where
  Table : Type
  empty : Table
  /-- Enters a value under a name, unless the name has an entry. -/
  enter : Table → String → α → Table
  entries : Table → List (String × α)
  entries_empty : entries empty = []
  entries_enter_of_mem {t : Table} {name : String} (value : α) :
    name ∈ (entries t).map (·.1) → entries (enter t name value) = entries t
  entries_enter_of_not_mem {t : Table} {name : String} (value : α) :
    name ∉ (entries t).map (·.1) → entries (enter t name value) = entries t ++ [(name, value)]

/-- The map that is the list of its entries. -/
def NameMap.ofEntries (α : Type) : NameMap α where
  Table := List (String × α)
  empty := []
  enter t name value := if name ∈ t.map (·.1) then t else t ++ [(name, value)]
  entries := id
  entries_empty := rfl
  entries_enter_of_mem _ old := if_pos old
  entries_enter_of_not_mem _ new := if_neg new

/-- The fields that are left when each is entered under its name. -/
def NameMap.gathered (m : NameMap Field) (fields : List Field) : List Field :=
  (m.entries (fields.foldl (fun t f => m.enter t f.name f) m.empty)).map (·.2)

end QueryBinding

/-! # Go names

Names that Go reserves cannot name a variable; a trailing underscore makes them ordinary names. -/

namespace QueryBinding.Go

def keywords : List String :=
  ["break", "case", "chan", "const", "continue", "default", "defer", "else", "fallthrough", "for",
   "func", "go", "goto", "if", "import", "interface", "map", "package", "range", "return", "select",
   "struct", "switch", "type", "var"]

def isKeyword (name : String) : Bool := keywords.contains name

/-- A name that is no keyword: keywords get a trailing underscore. -/
def escape (name : String) : String := if isKeyword name then name ++ "_" else name

theorem isKeyword_append_underscore {name : String} (h : isKeyword name = true) :
    isKeyword (name ++ "_") = false := by
  have all : ∀ k ∈ keywords, isKeyword (k ++ "_") = false := by decide
  exact all name (List.contains_iff_mem.1 h)

theorem isKeyword_escape (name : String) : isKeyword (escape name) = false := by
  unfold escape
  split
  · next h => exact isKeyword_append_underscore h
  · next h => exact Bool.eq_false_iff.2 h

end QueryBinding.Go

/-! # Layout of call arguments

Few arguments stand on the line of the call; more stand on lines of their own, each with a comma
after it, so that the closing parenthesis starts a line. A reader of either layout skips line breaks
and takes a comma behind the last argument or none. -/

namespace QueryBinding.Go

/-- The most arguments that stand on one line. -/
def inlineLimit : Nat := 3

/-- The text between the parentheses of a call. -/
def callLayout (entries : List String) : String :=
  if entries.length ≤ inlineLimit then ",".intercalate entries
  else "\n" ++ "".intercalate (entries.map (· ++ ",\n"))

/-- Texts that can stand as one argument of a call. -/
structure IsArgument (text : String) : Prop where
  ne_empty : text ≠ ""
  no_comma : ',' ∉ text.toList
  no_break : '\n' ∉ text.toList

instance (text : String) : Decidable (IsArgument text) :=
  decidable_of_iff (text ≠ "" ∧ ',' ∉ text.toList ∧ '\n' ∉ text.toList)
    ⟨fun h => ⟨h.1, h.2.1, h.2.2⟩, fun h => ⟨h.ne_empty, h.no_comma, h.no_break⟩⟩

/-- The stretches of a text between the places where a character stands. -/
def stretches (sign : Char) (text : String) : List String :=
  (text.toList.splitOn sign).map String.ofList

def readCallLayout (text : String) : List String :=
  let arguments := stretches ',' (String.join (stretches '\n' text))
  if arguments.getLast? = some "" then arguments.dropLast else arguments

/-- A text that stands between the parentheses of a call and hands on these entries. They are read
back from it if they are arguments; one that holds a comma or a line break is only written. -/
structure Lists (text : String) (entries : List String) : Prop where
  inline : entries.length ≤ 3 → text = ",".intercalate entries
  broken : 3 < entries.length → text = "\n" ++ String.join (entries.map (· ++ ",\n"))
  read : (∀ e ∈ entries, IsArgument e) → readCallLayout text = entries

end QueryBinding.Go

import QueryBinding.Text.PrintTable

/-! # Text inside messages

The quoted form in which a message shows a text: between double quotes, with characters that would
not be seen as themselves written as escapes. -/

namespace QueryBinding.Text

/-- A character written by its code point in hexadecimal. -/
def codePointEscape (c : Char) : List Char :=
  ['\\', 'u', '\x7b'] ++ Nat.toDigits 16 c.toNat ++ ['\x7d']

/-- Characters that a reader would not see as themselves: marks that join the character before
them, and characters that a display leaves out or has no shape for. -/
def isHidden (c : Char) : Bool :=
  listed extendingRuns c || listed ignorableRuns c || listed unprintableRuns c

/-- One character of a quoted text. Quotes, backslashes and four controls have short escapes, and
hidden characters show their code point. -/
def quotedChar (c : Char) : List Char :=
  if c = '\x00' then ['\\', '0']
  else if c = '\t' then ['\\', 't']
  else if c = '\r' then ['\\', 'r']
  else if c = '\n' then ['\\', 'n']
  else if c = '\\' then ['\\', '\\']
  else if c = '"' then ['\\', '"']
  else if isHidden c then codePointEscape c
  else [c]

/-- A text between double quotes, unmistakable in a message. -/
def quoted (text : String) : String :=
  "\"" ++ String.ofList (text.toList.flatMap quotedChar) ++ "\""

end QueryBinding.Text

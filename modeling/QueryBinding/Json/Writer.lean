import QueryBinding.Json.Number
import QueryBinding.Decimal.Format

/-! # Writing JSON

A value is written with each item and each member on a line of its own, indented by two blanks for
each bracket around it. Empty arrays and objects take two characters. -/

namespace QueryBinding

def Number.text : Number → String
  | natural n => toString n.toNat
  | negative i => toString i.toInt
  | real x => Decimal.doubleText x

namespace Json

/-- The start of a line inside `depth` brackets. -/
def lineBreak (depth : Nat) : List Char := '\n' :: List.replicate (2 * depth) ' '

mutual

def chars (depth : Nat) : Json → List Char
  | null => "null".toList
  | bool true => "true".toList
  | bool false => "false".toList
  | number n => n.text.toList
  | string text => JsonText.write text.toList
  | array [] => ['[', ']']
  | array (item :: items) =>
    '[' :: lineBreak (depth + 1) ++ item.chars (depth + 1) ++ itemChars (depth + 1) items ++
      lineBreak depth ++ [']']
  | object [] => ['\x7b', '\x7d']
  | object ((key, value) :: members) =>
    '\x7b' :: lineBreak (depth + 1) ++ JsonText.write key.toList ++ [':', ' '] ++
      value.chars (depth + 1) ++ memberChars (depth + 1) members ++ lineBreak depth ++ ['\x7d']

def itemChars (depth : Nat) : List Json → List Char
  | [] => []
  | item :: items => ',' :: lineBreak depth ++ item.chars depth ++ itemChars depth items

def memberChars (depth : Nat) : List (String × Json) → List Char
  | [] => []
  | (key, value) :: members =>
    ',' :: lineBreak depth ++ JsonText.write key.toList ++ [':', ' '] ++ value.chars depth ++
      memberChars depth members

end

def pretty (value : Json) : String := String.ofList (value.chars 0)

end Json

end QueryBinding

import QueryBinding.Text.Prefix
import QueryBinding.Text.Words

/-! # Conditions of Go

A reader for conditions without brackets whose operands test the field `Valid` of a variable, and
their value. Of the two operators `&&` binds more tightly, so that a condition is a list of
alternatives, and each of them a list of tests. -/

namespace QueryBinding.Go

/-- Whether a name may have the character. Beyond ASCII every character is taken for a letter. -/
def isNameChar (c : Char) : Bool := c.isAlphanum || c = '_' || 0x80 ≤ c.toNat

def isName (name : String) : Bool := !name.toList.isEmpty && name.toList.all isNameChar

/-- The alternatives of a condition, each with the variables that it tests. -/
structure Condition where
  alternatives : List (List String)
deriving DecidableEq, Repr

namespace Condition

def tested (c : Condition) : List String := c.alternatives.flatten

def text (c : Condition) : String :=
  " || ".intercalate (c.alternatives.map fun tests => " && ".intercalate (tests.map (· ++ ".Valid")))

/-- The value of a condition, given which variables are valid. -/
def holds (c : Condition) (valid : String → Bool) : Bool := c.alternatives.any (·.all valid)

end Condition

/-- Cuts a text where the sign of an operator stands twice. -/
def cutAt (sign : Char) : List Char → List (List Char)
  | [] => [[]]
  | [c] => [[c]]
  | c :: d :: rest =>
    if c = sign ∧ d = sign then [] :: cutAt sign rest
    else Text.extendFirst c (cutAt sign (d :: rest))

def isSpace (c : Char) : Bool := c = ' ' || c = '\t'

/-- An operand without the blanks around it. -/
def trimmed (cs : List Char) : List Char :=
  ((cs.dropWhile isSpace).reverse.dropWhile isSpace).reverse

/-- The variable whose field `Valid` an operand tests. -/
def readTest? (cs : List Char) : Option String := do
  let name ← Text.dropPrefix? ".Valid".toList.reverse (trimmed cs).reverse
  let name := String.ofList name.reverse
  if isName name then some name else none

def readAlternative? (cs : List Char) : Option (List String) := (cutAt '&' cs).mapM readTest?

def readCondition? (text : String) : Option Condition :=
  ((cutAt '|' text.toList).mapM readAlternative?).map Condition.mk

end QueryBinding.Go

import QueryBinding.Text.CaseTable

/-! # Case of one character

The full mapping of a character to lower and to upper case. It depends on the character alone; a
character without a counterpart stands for itself. -/

namespace QueryBinding.Text

/-- The characters a case mapping puts in place of `c`: its sequence if it has one, else its
shifted counterpart, else `c`. -/
def mapped (sequences : List (Nat × List Nat)) (shifts : List Shift) (c : Char) : List Char :=
  match sequences.lookup c.toNat with
  | some image => image.map Char.ofNat
  | none =>
    match shifts.findSome? (·.image? c.toNat) with
    | some image => [Char.ofNat image]
    | none => [c]

def lowered (c : Char) : List Char := mapped loweringSequences loweringShifts c

def raised (c : Char) : List Char := mapped raisingSequences raisingShifts c

end QueryBinding.Text

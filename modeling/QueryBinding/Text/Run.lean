/-! # Runs of characters

A table of characters is a list of runs, each an arithmetic progression of code points; letters
that alternate in case form runs of step two. -/

namespace QueryBinding.Text

/-- The code points `first`, `first + step`, `first + 2 * step`, … up to `last`. -/
structure Run where
  first : Nat
  last : Nat
  step : Nat
deriving DecidableEq

/-- A run mapped in order onto the run of the same shape that starts at `target`. -/
structure Shift where
  run : Run
  target : Nat
deriving DecidableEq

def Run.contains (r : Run) (n : Nat) : Bool :=
  Nat.ble r.first n && Nat.ble n r.last && (n - r.first) % r.step == 0

def listed (table : List Run) (c : Char) : Bool :=
  table.any (·.contains c.toNat)

/-- The image of a code point under the shift whose run holds it. -/
def Shift.image? (s : Shift) (n : Nat) : Option Nat :=
  if s.run.contains n then some (s.target + (n - s.run.first)) else none

theorem Run.contains_iff {r : Run} {n : Nat} :
    r.contains n = true ↔ r.first ≤ n ∧ n ≤ r.last ∧ (n - r.first) % r.step = 0 := by
  simp only [contains, Bool.and_eq_true, Nat.ble_eq, beq_iff_eq, and_assoc]

theorem listed_iff {table : List Run} {c : Char} :
    listed table c = true ↔ ∃ r ∈ table, r.contains c.toNat = true := by
  simp only [listed, List.any_eq_true]

end QueryBinding.Text

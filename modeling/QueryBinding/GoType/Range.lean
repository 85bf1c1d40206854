import QueryBinding.GoType.Basic

/-! # Ranges of integer types

The integers that values of Go's integer types stand for, and what a conversion between them does:
it keeps a value that the target can hold, and wraps any other around. -/

namespace QueryBinding

/-- The integers from `least` to `greatest`. -/
structure IntRange where
  least : Int
  greatest : Int
deriving DecidableEq, Repr

namespace IntRange

def Contains (r : IntRange) (n : Int) : Prop := r.least ≤ n ∧ n ≤ r.greatest

instance (r : IntRange) (n : Int) : Decidable (r.Contains n) := inferInstanceAs (Decidable (_ ∧ _))

/-- The value of the range that agrees with an integer up to multiples of the range's size. -/
def wrap (r : IntRange) (n : Int) : Int :=
  r.least + (n - r.least) % (r.greatest - r.least + 1)

theorem wrap_of_contains {r : IntRange} {n : Int} (h : r.Contains n) : r.wrap n = n := by
  obtain ⟨low, high⟩ := h
  unfold wrap
  rw [Int.emod_eq_of_lt (by omega) (by omega)]
  omega

end IntRange

/-- The range of an integer type; `int` has 64 bits. Other scalars have none. -/
def Scalar.range? : Scalar → Option IntRange
  | .int8 => some ⟨-0x80, 0x7f⟩
  | .int16 => some ⟨-0x8000, 0x7fff⟩
  | .int32 => some ⟨-0x80000000, 0x7fffffff⟩
  | .int | .int64 => some ⟨-0x8000000000000000, 0x7fffffffffffffff⟩
  | .uint8 => some ⟨0, 0xff⟩
  | .uint16 => some ⟨0, 0xffff⟩
  | .uint32 => some ⟨0, 0xffffffff⟩
  | .uint64 => some ⟨0, 0xffffffffffffffff⟩
  | .string | .float32 | .float64 | .bool | .time => none

end QueryBinding

import QueryBinding.Proofs.Row.Extraction

/-! # Integers in scratch variables

A column of an integer type is scanned into a wrapper whose payload may have another width, and is
converted back to its own. The wrapper and the conversion are chosen by two tables. What a payload
cannot hold is refused by the scan, so that it is never converted. Main statement:
`wrapper_keeps_iff`, which integers come back as they were. -/

namespace QueryBinding

/-- The integers that a variable of a type can hold, itself or in its payload. -/
def GoType.range? : GoType → Option IntRange
  | .scalar s => s.range?
  | .wrapper w => w.payloadType.range?
  | _ => none

def GoType.scanned? (t : GoType) (n : Int) : Option Int :=
  t.range?.bind fun range => if range.Contains n then some n else none

/-- The integer that an expression gives over a scratch variable with an integer for its payload.
The variable itself is no integer. -/
def Extraction.valueOver (payload : Int) : Extraction → Option Int
  | whole => none
  | .payload _ => some payload
  | converted target _ => target.range?.map (·.wrap payload)

def GoType.readThrough? (column : GoType) (n : Int) : Option Int :=
  (column.toNullable.scanned? n).bind fun payload => column.extraction.valueOver payload

structure Scalar.Keeps (s : Scalar) (n : Int) : Prop where
  fits : ∃ payload, s.nullable.payloadType.range? = some payload ∧ payload.Contains n
  converted : (GoType.scalar s).extraction.valueOver n = some n
  /-- In Go, the expression that is written has the integer for its value. -/
  written (name : String) :
    Go.Gives name (GoType.scalar s).toNullable n ((GoType.scalar s).extraction.text name) n
  /-- It is read as it would be without a scratch variable. -/
  direct : (GoType.scalar s).readThrough? n = (GoType.scalar s).scanned? n

def int32Range : IntRange := ⟨-0x80000000, 0x7fffffff⟩

theorem GoType.scanned?_of_contains {t : GoType} {range : IntRange} (ranged : t.range? = some range)
    {n : Int} (inside : range.Contains n) : t.scanned? n = some n := by
  rw [scanned?, ranged, Option.bind_some, if_pos inside]

namespace Scalar

variable {s : Scalar} {range : IntRange} {n : Int}

theorem gives_extraction (name : String) {value : Int}
    (told : (GoType.scalar s).extraction.valueOver n = some value) :
    Go.Gives name (GoType.scalar s).toNullable n ((GoType.scalar s).extraction.text name)
      value := by
  have declared := s.nullable.mem_nullStructs
  rw [GoType.extraction] at told ⊢
  split at told
  · next converts =>
      obtain ⟨range, ranged, rfl⟩ := Option.map_eq_some_iff.mp told
      rw [if_pos converts, Extraction.text_converted]
      exact .convert (.field declared) ranged
  · next keeps =>
      cases told
      rw [if_neg keeps, Extraction.text_payload]
      exact .field declared

/-- No conversion changes an integer of the column's own type, whatever the payload's type is. -/
theorem valueOver_extraction (ranged : s.range? = some range) (inside : range.Contains n) :
    (GoType.scalar s).extraction.valueOver n = some n := by
  rw [GoType.extraction]
  split
  · rw [Extraction.valueOver, ranged, Option.map_some, IntRange.wrap_of_contains inside]
  · rfl

theorem keeps_iff_fits (ranged : s.range? = some range) (inside : range.Contains n) :
    s.Keeps n ↔ ∃ payload, s.nullable.payloadType.range? = some payload ∧ payload.Contains n := by
  constructor
  · intro kept
    exact kept.fits
  · rintro ⟨payload, wrapped, fits⟩
    have converted := valueOver_extraction ranged inside
    refine ⟨⟨payload, wrapped, fits⟩, converted, fun name => gives_extraction name converted, ?_⟩
    have held : (GoType.scalar s).toNullable.scanned? n = some n :=
      GoType.scanned?_of_contains (t := .wrapper s.nullable) wrapped fits
    have direct : (GoType.scalar s).scanned? n = some n :=
      GoType.scanned?_of_contains (t := .scalar s) ranged inside
    rw [GoType.readThrough?, held, Option.bind_some, converted, direct]

theorem exists_payload_iff (ranged : s.range? = some range) (inside : range.Contains n) :
    (∃ payload, s.nullable.payloadType.range? = some payload ∧ payload.Contains n) ↔
      (s = .int → int32Range.Contains n) ∧ (s = .uint64 → n ≤ 0x7fffffffffffffff) := by
  cases s <;> cases ranged <;>
    simp only [nullable, Wrapper.payloadType, range?, IntRange.Contains, int32Range,
      Option.some.injEq, exists_eq_left', reduceCtorEq, false_implies, true_implies, and_true,
      true_and, iff_true] at inside ⊢ <;> omega

/-- The integers that a wrapper keeps: of `int`, which shares the wrapper of `int32`, those of
`int32`, of `uint64` those of `int64`, and of all other scalars every one. -/
theorem keeps_iff (ranged : s.range? = some range) (inside : range.Contains n) :
    s.Keeps n ↔
      (s = .int → int32Range.Contains n) ∧ (s = .uint64 → n ≤ 0x7fffffffffffffff) := by
  rw [keeps_iff_fits ranged inside, exists_payload_iff ranged inside]

end Scalar

/-- Every integer of a scalar's range fits the payload of its wrapper and comes back unchanged: of
`int`, which shares the wrapper of `int32`, exactly the integers of `int32`, and of `uint64` those
that are in the range of `int64`. -/
theorem Scalar.wrapper_keeps_iff {s : Scalar} {range : IntRange} (ranged : s.range? = some range)
    {n : Int} (inside : range.Contains n) (signed : s = .uint64 → n ≤ 0x7fffffffffffffff) :
    s.Keeps n ↔ (s = .int → int32Range.Contains n) := by
  rw [keeps_iff ranged inside, and_iff_left signed]

theorem Scalar.wrapper_keeps_iff_greatest :
    (IntRange.Contains ⟨-0x8000000000000000, 0x7fffffffffffffff⟩ 0x7fffffff ∧
      Scalar.int.Keeps 0x7fffffff) ∧
    (IntRange.Contains ⟨0, 0xffffffff⟩ 0xffffffff ∧ Scalar.uint32.Keeps 0xffffffff) ∧
    (IntRange.Contains ⟨0, 0xffffffffffffffff⟩ 0x7fffffffffffffff ∧
      Scalar.uint64.Keeps 0x7fffffffffffffff) := by
  have ofInt : IntRange.Contains ⟨-0x8000000000000000, 0x7fffffffffffffff⟩ 0x7fffffff := by decide
  have ofUint32 : IntRange.Contains ⟨0, 0xffffffff⟩ 0xffffffff := by decide
  have ofUint64 : IntRange.Contains ⟨0, 0xffffffffffffffff⟩ 0x7fffffffffffffff := by decide
  refine ⟨⟨ofInt, ?_⟩, ⟨ofUint32, ?_⟩, ⟨ofUint64, ?_⟩⟩
  · exact (wrapper_keeps_iff (s := .int) rfl ofInt nofun).mpr fun _ => by decide
  · exact (wrapper_keeps_iff (s := .uint32) rfl ofUint32 nofun).mpr nofun
  · exact (wrapper_keeps_iff (s := .uint64) rfl ofUint64 fun _ => Int.le_refl _).mpr nofun

/-- The least integer beyond `int32` has no place in the wrapper of `int`, nor has the least beyond
`int64` in that of `uint64`. -/
theorem Scalar.wrapper_loses_integers :
    (∃ range, Scalar.int.range? = some range ∧ range.Contains 0x80000000 ∧
      ¬ Scalar.int.Keeps 0x80000000) ∧
    ∃ range, Scalar.uint64.range? = some range ∧ range.Contains 0x8000000000000000 ∧
      ¬ Scalar.uint64.Keeps 0x8000000000000000 := by
  refine ⟨⟨_, rfl, by decide, ?_⟩, ⟨_, rfl, by decide, ?_⟩⟩
  · intro kept
    obtain ⟨payload, ⟨⟩, fits⟩ := kept.fits
    exact absurd fits (by decide)
  · intro kept
    obtain ⟨payload, ⟨⟩, fits⟩ := kept.fits
    exact absurd fits (by decide)

end QueryBinding

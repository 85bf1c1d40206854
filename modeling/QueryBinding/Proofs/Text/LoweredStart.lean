import Mathlib.Data.List.TakeWhile
import QueryBinding.Proofs.Text.FirstWord
import QueryBinding.Proofs.Text.SmallImages

/-! # Names that are lowered twice

Lowering may keep some capitals and may make a name longer, so that the capitals at its start are
others than before. All the same nothing changes if only a beginning of them is ever lowered. Main
statement: `lowerFirst_lowers_start`. -/

namespace QueryBinding.Text

section

variable {upper : Char → Bool} {lower : Char → List Char} {cs out again start rest : List Char}

/-- A capital in lower case is itself or begins with a character that is no capital. -/
def Settling (upper : Char → Bool) (lower : Char → List Char) : Prop :=
  ∀ c, upper c = true → lower c = [c] ∨ ∃ d rest, lower c = d :: rest ∧ upper d = false

/-- A text is respelled by lowering a beginning of the capitals it starts with. -/
def LowersStart (upper : Char → Bool) (lower : Char → List Char) (cs out : List Char) : Prop :=
  ∃ start rest, cs = start ++ rest ∧ out = start.flatMap lower ++ rest ∧
    start <+: cs.takeWhile upper

/-- Capitals that are lowered stay as they are up to the first that gives something else, and that
is no capital. -/
theorem flatMap_lower_cases (settles : Settling upper lower)
    (capitals : ∀ c ∈ start, upper c = true) :
    start.flatMap lower = start ∨ ∃ kept d tail, start.flatMap lower = kept ++ d :: tail ∧
      (∀ c ∈ kept, upper c = true ∧ lower c = [c]) ∧ upper d = false := by
  induction start with
  | nil => exact .inl rfl
  | cons c start ih =>
      obtain ⟨capital, capitals⟩ := List.forall_mem_cons.mp capitals
      rw [List.flatMap_cons]
      rcases settles c capital with same | ⟨d, tail, changed, small⟩
      · rw [same]
        rcases ih capitals with unchanged | ⟨kept, d, tail, changed, fixed, small⟩
        · exact .inl (congrArg (c :: ·) unchanged)
        · exact .inr ⟨c :: kept, d, tail, congrArg (c :: ·) changed,
            List.forall_mem_cons.mpr ⟨⟨capital, same⟩, fixed⟩, small⟩
      · exact .inr ⟨[], d, tail ++ start.flatMap lower, by rw [changed]; rfl, nofun, small⟩

/-- Whatever has been lowered once is not changed by lowering again. -/
theorem LowersStart.eq_of_twice (settles : Settling upper lower)
    (once : LowersStart upper lower cs out) (twice : LowersStart upper lower out again)
    (changed : out ≠ cs) : again = out := by
  obtain ⟨start, rest, rfl, rfl, capitals⟩ := once
  have all_upper : ∀ c ∈ start, upper c = true := by
    intro c member
    exact List.mem_takeWhile_imp (capitals.subset member)
  rcases flatMap_lower_cases settles all_upper with same | ⟨kept, d, tail, split, fixed, small⟩
  · exact absurd (by rw [same]) changed
  · -- All capitals that the second lowering meets have stayed as they are under the first.
    have met : (start.flatMap lower ++ rest).takeWhile upper = kept := by
      rw [split, List.append_assoc, List.cons_append,
        List.takeWhile_append_of_pos fun c member => (fixed c member).1,
        List.takeWhile_cons_of_neg (by rw [small]; exact Bool.false_ne_true), List.append_nil]
    obtain ⟨start', rest', cut, rfl, again_capitals⟩ := twice
    rw [met] at again_capitals
    have still : start'.flatMap lower = start' := by
      rw [List.flatMap_congr fun c member => (fixed c (again_capitals.subset member)).2,
        List.flatMap_singleton']
    rw [still, cut]

end

theorem take_firstWordLength (cs : List Char) :
    cs.take (firstWordLength cs) = (cs.takeWhile isUpper).take (firstWordLength cs) := by
  have within : firstWordLength cs ≤ (cs.takeWhile isUpper).length := by
    have := firstWordLength_cases cs
    omega
  calc cs.take (firstWordLength cs)
    _ = (cs.takeWhile isUpper ++ cs.dropWhile isUpper).take (firstWordLength cs) := by
        rw [List.takeWhile_append_dropWhile]
    _ = (cs.takeWhile isUpper).take (firstWordLength cs) := List.take_append_of_le_length within

theorem lowersStart_lowerFirstChars (cs : List Char) :
    LowersStart isUpper lowered cs (lowerFirstChars cs) := by
  refine ⟨_, _, (cs.take_append_drop (firstWordLength cs)).symm, rfl, ?_⟩
  rw [take_firstWordLength]
  exact List.take_prefix _ _

theorem lowerFirstChars_lowerFirstChars (cs : List Char) :
    lowerFirstChars (lowerFirstChars cs) = lowerFirstChars cs := by
  by_cases same : lowerFirstChars cs = cs
  · rw [same, same]
  · exact (lowersStart_lowerFirstChars cs).eq_of_twice (fun c _ => lowered_settles c)
      (lowersStart_lowerFirstChars _) same

/-- A name is respelled by lowering the beginning of the capitals that it starts with: all of them
or all but the last, and some if there are any. Respelling it again changes nothing. -/
theorem lowerFirst_lowers_start (name : String) :
    (∃ start rest, name.toList = start ++ rest ∧
      (lowerFirst name).toList = start.flatMap lowered ++ rest ∧
      start <+: name.toList.takeWhile isUpper ∧
      (start = [] ↔ name.toList.takeWhile isUpper = []) ∧
      (name.toList.takeWhile isUpper).length ≤ start.length + 1) ∧
    lowerFirst (lowerFirst name) = lowerFirst name := by
  have cut := firstWordLength_cases name.toList
  have start_eq := take_firstWordLength name.toList
  constructor
  · refine ⟨name.toList.take (firstWordLength name.toList),
      name.toList.drop (firstWordLength name.toList), (List.take_append_drop _ _).symm,
      String.toList_ofList, ?_, ?_, ?_⟩
    · rw [start_eq]
      exact List.take_prefix _ _
    · rw [start_eq, List.take_eq_nil_iff, ← List.length_eq_zero_iff]
      omega
    · rw [start_eq, List.length_take]
      omega
  · rw [lowerFirst, lowerFirst, String.toList_ofList, lowerFirstChars_lowerFirstChars]

end QueryBinding.Text

/-! # Beginnings of texts

Taking a known beginning off a text. -/

namespace QueryBinding.Text

/-- What follows a given beginning, if a text starts with it. -/
def dropPrefix? : (beginning cs : List Char) → Option (List Char)
  | [], cs => some cs
  | _ :: _, [] => none
  | b :: beginning, c :: cs => if b = c then dropPrefix? beginning cs else none

theorem dropPrefix?_eq_some_iff {beginning cs rest : List Char} :
    dropPrefix? beginning cs = some rest ↔ cs = beginning ++ rest := by
  induction beginning generalizing cs with
  | nil => simp only [dropPrefix?, Option.some.injEq, List.nil_append]
  | cons b beginning ih =>
    cases cs with
    | nil => simp only [dropPrefix?, reduceCtorEq, List.cons_append]
    | cons c cs =>
      simp only [dropPrefix?, List.cons_append, List.cons.injEq]
      by_cases h : b = c
      · simp only [h, if_true, ih, true_and]
      · simp only [h, if_false, reduceCtorEq, Ne.symm h, false_and]

end QueryBinding.Text

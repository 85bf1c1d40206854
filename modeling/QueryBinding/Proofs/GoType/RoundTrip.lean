import QueryBinding.Proofs.GoType.ListText

/-! # Types and their texts

The reader takes a type apart from the outside: a slice, then `sql.Null[T]`, then a name. Each layer
is told here by the text it is read from. Main statement: `parse_verbatim`, that a type is written
as it was read, whatever the text. -/

namespace QueryBinding

theorem Scalar.ofText?_eq_none_iff {text : String} :
    Scalar.ofText? text = none ↔ ∀ s : Scalar, s.text ≠ text := by
  unfold Scalar.ofText?
  rw [List.find?_eq_none]
  simp only [beq_iff_eq]
  exact ⟨fun absent s => absent s s.mem_all, fun absent s _ => absent s⟩

theorem Wrapper.ofText?_eq_none_iff {text : String} :
    Wrapper.ofText? text = none ↔ ∀ w : Wrapper, "sql.Null" ++ w.payload ≠ text := by
  unfold Wrapper.ofText?
  rw [List.find?_eq_none]
  simp only [beq_iff_eq]
  exact ⟨fun absent w => absent w w.mem_all, fun absent w _ => absent w⟩

namespace GoType

theorem nullArgument?_eq_none_iff {cs : List Char} :
    nullArgument? cs = none ↔ ∀ inner, "sql.Null[".toList ++ inner ++ [']'] ≠ cs := by
  rw [Option.eq_none_iff_forall_not_mem]
  constructor
  · intro absent inner same
    exact absent inner (nullArgument?_eq_some_iff.mpr same.symm)
  · intro absent inner found
    exact absent inner (nullArgument?_eq_some_iff.mp found).symm

/-- A slice of what follows its brackets, or bytes. -/
theorem ofChars_slice (item : List Char) :
    ofChars ('[' :: ']' :: item) =
      if item = "byte".toList then bytes else list (ofChars item) := by
  rw [ofChars]
  by_cases spelled : item = "byte".toList
  · rw [if_pos spelled, spelled]
    rfl
  · have other : '[' :: ']' :: item ≠ "[]byte".toList := by
      intro same
      change '[' :: ']' :: item = '[' :: ']' :: "byte".toList at same
      simp only [List.cons.injEq, true_and] at same
      exact spelled same
    rw [if_neg spelled, if_neg other]
    split
    · next inside found =>
        rw [listItem?_eq_some_iff] at found
        cases found
        rfl
    · next absent => cases absent

theorem ofChars_null (inner : List Char) :
    ofChars ("sql.Null[".toList ++ inner ++ [']']) = null (ofChars inner) := by
  have layered := nullArgument?_eq_some_iff.mpr (Eq.refl ("sql.Null[".toList ++ inner ++ [']']))
  rw [ofChars]
  split
  · next bytes => cases bytes
  · split
    · next found => cases found
    · split
      · next other found =>
          cases layered.symm.trans found
          rfl
      · next absent => cases layered.symm.trans absent

theorem ofChars_name {cs : List Char} (slice : ¬ ['[', ']'] <+: cs)
    (absent : nullArgument? cs = none) : ofChars cs = ofName (String.ofList cs) := by
  have plain := listItem?_eq_none_iff.mpr slice
  rw [ofChars]
  split
  · next bytes =>
      subst bytes
      exact absurd (by decide) slice
  · split
    · next found => cases plain.symm.trans found
    · split
      · next found => cases absent.symm.trans found
      · rfl

theorem parse_slice (text : String) :
    parse ("[]" ++ text) = if text = "byte" then bytes else list (parse text) := by
  have spelled : text.toList = "byte".toList ↔ text = "byte" := String.toList_inj
  rw [parse, String.toList_append]
  change ofChars ('[' :: ']' :: text.toList) = _
  rw [ofChars_slice]
  simp only [spelled]
  rfl

theorem parse_null (text : String) : parse ("sql.Null[" ++ text ++ "]") = null (parse text) := by
  rw [parse, String.toList_append, String.toList_append]
  exact ofChars_null text.toList

theorem parse_name {name : String} (slice : ¬ ['[', ']'] <+: name.toList)
    (null : ∀ inner : String, "sql.Null[" ++ inner ++ "]" ≠ name) : parse name = ofName name := by
  have absent : nullArgument? name.toList = none := by
    rw [nullArgument?_eq_none_iff]
    intro inner same
    apply null (String.ofList inner)
    rw [← String.toList_inj, ← same]
    simp only [String.toList_append, String.toList_ofList]
    rfl
  rw [parse, ofChars_name slice absent, String.ofList_toList]

theorem text_parse (text : String) : (parse text).text = text := by
  rw [parse, text_ofChars, String.ofList_toList]

/-- Every text is read as a type that is written as the text. Nothing is lost in between: a slice
and `sql.Null[T]` are read as layers around the type of what they enclose, and bytes are the one
slice that is not. -/
theorem parse_verbatim (text : String) :
    (parse text).text = text ∧
    parse ("[]" ++ text) = (if text = "byte" then bytes else list (parse text)) ∧
    parse ("sql.Null[" ++ text ++ "]") = null (parse text) :=
  ⟨text_parse text, parse_slice text, parse_null text⟩

end GoType

end QueryBinding

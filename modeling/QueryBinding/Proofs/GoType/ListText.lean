import QueryBinding.GoType.Parser

/-! # Texts of list types

Whether a type is a list shows in the first characters of its text. -/

namespace QueryBinding

/-- Whether a text spells a list: a slice of anything but bytes. -/
def IsListText (text : String) : Prop := ['[', ']'] <+: text.toList ∧ text ≠ "[]byte"

instance (text : String) : Decidable (IsListText text) := inferInstanceAs (Decidable (_ ∧ _))

namespace GoType

theorem listItem?_eq_none_iff {cs : List Char} : listItem? cs = none ↔ ¬ ['[', ']'] <+: cs := by
  constructor
  · rintro absent ⟨item, rfl⟩
    have found : listItem? ('[' :: ']' :: item) = some item := listItem?_eq_some_iff.mpr rfl
    cases absent.symm.trans found
  · intro h
    cases found : listItem? cs with
    | none => rfl
    | some item => exact absurd ⟨item, (listItem?_eq_some_iff.mp found).symm⟩ h

theorem isList_ofName (name : String) : (ofName name).isList = false := by
  unfold ofName
  split <;> rfl

/-- A text is read as a list exactly if it spells one. -/
theorem isList_parse (text : String) : (parse text).isList = true ↔ IsListText text := by
  have bytes_iff : text.toList = "[]byte".toList ↔ text = "[]byte" := String.toList_inj
  rw [parse, ofChars, IsListText]
  split
  · next spelled =>
      have spelled : text = "[]byte" := bytes_iff.mp spelled
      exact iff_of_false Bool.false_ne_true fun h => h.2 spelled
  · next other =>
      have other : text ≠ "[]byte" := fun h => other (bytes_iff.mpr h)
      split
      · next item found =>
          exact iff_of_true rfl ⟨⟨item, (listItem?_eq_some_iff.mp found).symm⟩, other⟩
      · next absent =>
          have no_slice := listItem?_eq_none_iff.mp absent
          split
          · exact iff_of_false Bool.false_ne_true fun h => no_slice h.1
          · rw [isList_ofName]
            exact iff_of_false Bool.false_ne_true fun h => no_slice h.1

end GoType

end QueryBinding

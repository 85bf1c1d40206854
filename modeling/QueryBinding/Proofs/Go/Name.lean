import QueryBinding.Go.Name

/-! # Escaped names

Escaping keeps a name unless it is a keyword, and the name it gives a keyword may be one that is in
use already. Main statement: `escape_eq_iff`, which names it does not keep apart. -/

namespace QueryBinding.Go

theorem eq_escape_iff {name : String} : name = escape name ↔ isKeyword name = false := by
  constructor
  · intro same
    rw [same]
    exact isKeyword_escape name
  · intro free
    rw [escape, if_neg (Bool.eq_false_iff.mp free)]

/-- A path into a struct is no keyword. -/
theorem escape_path (owner field : String) :
    escape (owner ++ "." ++ field) = owner ++ "." ++ field := by
  have undotted : ∀ k ∈ keywords, '.' ∉ k.toList := by decide
  have dotted : '.' ∈ (owner ++ "." ++ field).toList := by
    rw [String.toList_append, String.toList_append]
    exact List.mem_append_left _ (List.mem_append_right _ (List.mem_singleton.mpr rfl))
  rw [escape, if_neg]
  intro keyword
  exact undotted _ (List.contains_iff_mem.mp keyword) dotted

/-- Whether the second name is the first with the underscore that marks a keyword. -/
def Marks (keyword marked : String) : Prop := isKeyword keyword = true ∧ marked = keyword ++ "_"

instance (keyword marked : String) : Decidable (Marks keyword marked) :=
  inferInstanceAs (Decidable (_ ∧ _))

theorem escape_of_marks {keyword marked : String} (marks : Marks keyword marked) :
    escape keyword = escape marked := by
  obtain ⟨reserved, rfl⟩ := marks
  rw [← eq_escape_iff.mpr (isKeyword_append_underscore reserved)]
  exact if_pos reserved

theorem marks_of_escape {keyword marked : String} (reserved : isKeyword keyword = true)
    (free : isKeyword marked = false) (same : escape keyword = escape marked) :
    Marks keyword marked := by
  rw [← eq_escape_iff.mpr free, escape, if_pos reserved] at same
  exact ⟨reserved, same.symm⟩

theorem escape_eq_iff {x y : String} : escape x = escape y ↔ x = y ∨ Marks x y ∨ Marks y x := by
  constructor
  · intro same
    cases first : isKeyword x with
    | true =>
        cases second : isKeyword y with
        | true =>
            rw [escape, escape, if_pos first, if_pos second, String.append_left_inj] at same
            exact .inl same
        | false => exact .inr (.inl (marks_of_escape first second same))
    | false =>
        cases second : isKeyword y with
        | true => exact .inr (.inr (marks_of_escape second first same.symm))
        | false =>
            rw [← eq_escape_iff.mpr first, ← eq_escape_iff.mpr second] at same
            exact .inl same
  · rintro (rfl | marks | marks)
    · rfl
    · exact escape_of_marks marks
    · exact (escape_of_marks marks).symm

end QueryBinding.Go

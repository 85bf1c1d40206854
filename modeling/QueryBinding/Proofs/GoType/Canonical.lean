import QueryBinding.GoType.Canonical
import QueryBinding.Proofs.GoType.RoundTrip

/-! # Canonical types are those that are read

A type that is written and read again comes back if its text tells what it is. Main statement:
`parse_text_iff_canonical`. -/

namespace QueryBinding.GoType

theorem ofName_eq_named {name : String} (noScalar : ∀ s : Scalar, s.text ≠ name)
    (noWrapper : ∀ w : Wrapper, "sql.Null" ++ w.payload ≠ name) : ofName name = named name := by
  rw [ofName, Scalar.ofText?_eq_none_iff.mpr noScalar, Wrapper.ofText?_eq_none_iff.mpr noWrapper]

theorem ofName_scalar (s : Scalar) : ofName s.text = scalar s := by
  rw [ofName, Scalar.ofText?_text]

theorem ofName_wrapper (w : Wrapper) : ofName ("sql.Null" ++ w.payload) = wrapper w := by
  have noScalar : Scalar.ofText? ("sql.Null" ++ w.payload) = none := by
    cases w <;> decide
  rw [ofName, noScalar, Wrapper.ofText?_text]

theorem parse_scalar (s : Scalar) : parse s.text = scalar s := by
  have slice : ¬ ['[', ']'] <+: s.text.toList := by
    cases s <;> decide
  have absent : nullArgument? s.text.toList = none := by
    cases s <;> decide
  rw [parse, ofChars_name slice absent, String.ofList_toList, ofName_scalar]

theorem parse_wrapper (w : Wrapper) : parse ("sql.Null" ++ w.payload) = wrapper w := by
  have slice : ¬ ['[', ']'] <+: ("sql.Null" ++ w.payload).toList := by
    cases w <;> decide
  have absent : nullArgument? ("sql.Null" ++ w.payload).toList = none := by
    cases w <;> decide
  rw [parse, ofChars_name slice absent, String.ofList_toList, ofName_wrapper]

theorem parse_named {name : String} (plain : IsPlainName name) : parse name = named name := by
  obtain ⟨slice, noScalar, noWrapper, noNull⟩ := plain
  rw [parse_name slice noNull, ofName_eq_named noScalar noWrapper]

/-- The reader does not know which names are those of structs. -/
theorem ofChars_ne_record (cs : List Char) (name : String) : ofChars cs ≠ record name := by
  intro read
  rw [ofChars] at read
  split at read
  · cases read
  · split at read
    · cases read
    · split at read
      · cases read
      · unfold ofName at read
        split at read <;> cases read

/-- A name that comes back as a name spells nothing else. -/
theorem isPlainName_of_parse {name : String} (read : parse name = named name) :
    IsPlainName name := by
  refine ⟨?_, ?_, ?_, ?_⟩
  · rintro ⟨item, spelled⟩
    have layered : name = "[]" ++ String.ofList item := by
      rw [← String.toList_inj, ← spelled]
      simp only [String.toList_append, String.toList_ofList]
      rfl
    rw [layered, parse_slice] at read
    split at read <;> cases read
  · rintro s rfl
    cases (parse_scalar s).symm.trans read
  · rintro w rfl
    cases (parse_wrapper w).symm.trans read
  · rintro inner rfl
    cases (parse_null inner).symm.trans read

theorem parse_byte : parse "byte" = named "byte" := by
  have absent : nullArgument? "byte".toList = none := by decide
  rw [parse, ofChars_name (by decide) absent]
  decide

theorem parse_text_of_canonical {t : GoType} (h : t.Canonical) : parse t.text = t := by
  induction t with
  | scalar s => exact parse_scalar s
  | bytes => exact parse_slice "byte"
  | list item ih =>
      obtain ⟨inside, other⟩ := h
      have spelled : item.text ≠ "byte" := by
        intro same
        have read := ih inside
        rw [same, parse_byte] at read
        exact other read.symm
      rw [text, parse_slice, if_neg spelled, ih inside]
  | wrapper w => exact parse_wrapper w
  | null inner ih => rw [text, parse_null, ih h]
  | record name => exact h.elim
  | named name => exact parse_named h

theorem canonical_of_parse_text {t : GoType} (h : parse t.text = t) : t.Canonical := by
  induction t with
  | scalar s => trivial
  | bytes => trivial
  | list item ih =>
      rw [text, parse_slice] at h
      split at h
      · cases h
      · next other =>
          refine ⟨ih (list.inj h), ?_⟩
          rintro rfl
          exact other rfl
  | wrapper w => trivial
  | null inner ih =>
      rw [text, parse_null] at h
      exact ih (null.inj h)
  | record name => exact ofChars_ne_record _ name h
  | named name => exact isPlainName_of_parse h

/-- Canonical types come back from their texts, and no others do. Hence every type that is read is
canonical, and the text of a canonical type is that of no other canonical type. -/
theorem parse_text_iff_canonical :
    (∀ t : GoType, parse t.text = t ↔ t.Canonical) ∧
    (∀ text : String, (parse text).Canonical) ∧
    ∀ t u : GoType, t.Canonical → u.Canonical → t.text = u.text → t = u := by
  refine ⟨fun t => ⟨canonical_of_parse_text, parse_text_of_canonical⟩, ?_, ?_⟩
  · intro text
    apply canonical_of_parse_text
    rw [text_parse]
  · intro t u ht hu same
    rw [← parse_text_of_canonical ht, ← parse_text_of_canonical hu, same]

/-- Bytes inside a slice, inside `sql.Null[T]`, inside a slice: the one canonical type of this text
is the one that is read. -/
theorem parse_text_iff_canonical_nested :
    let text := "[]sql.Null[[][]byte]"
    let t : GoType := .list (.null (.list .bytes))
    t.Canonical ∧ (parse text).Canonical ∧ t.text = (parse text).text ∧ t = parse text := by
  intro text t
  obtain ⟨-, read, injective⟩ := parse_text_iff_canonical
  have canonical : t.Canonical := ⟨⟨trivial, nofun⟩, nofun⟩
  have same : t.text = (parse text).text := (text_parse text).symm
  exact ⟨canonical, read text, same, injective t (parse text) canonical (read text) same⟩

end QueryBinding.GoType

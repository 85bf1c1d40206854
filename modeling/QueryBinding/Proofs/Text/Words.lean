import QueryBinding.Text.Words

/-! # Names made of words

A name in upper camel case is put together from the words of a text. The words hold the letters and
numbers of the text in order and nothing else. Main statement: `upperCamel_eq_empty_iff`, that a
text gives no name exactly if it has neither letter nor number. -/

namespace QueryBinding.Text

theorem flatten_extendFirst (c : Char) (words : List (List Char)) :
    (extendFirst c words).flatten = c :: words.flatten := by
  cases words with
  | nil => rfl
  | cons word words => rfl

/-- Cutting a piece into words loses nothing of it. -/
theorem flatten_pieceWords (mode : CaseMode) (piece : List Char) :
    (pieceWords mode piece).flatten = piece := by
  fun_induction pieceWords mode piece with
  | case1 => rfl
  | case2 => rfl
  | case3 mode c d rest ends ih =>
      rw [List.flatten_cons, ih, List.singleton_append]
  | case4 mode c d rest goes_on starts ih =>
      rw [List.flatten_cons, flatten_extendFirst, ih, List.nil_append]
  | case5 mode c d rest goes_on inside ih =>
      rw [flatten_extendFirst, ih]

theorem flatten_pieces (cs : List Char) : (pieces cs).flatten = cs.filter isAlphanumeric := by
  induction cs with
  | nil => rfl
  | cons c cs ih =>
      rw [pieces, List.filter_cons]
      split
      · rw [flatten_extendFirst, ih]
      · rw [List.flatten_cons, ih, List.nil_append]

theorem flatten_words (cs : List Char) : (words cs).flatten = cs.filter isAlphanumeric := by
  have kept : List.flatten ∘ pieceWords .boundary = id := by
    funext piece
    exact flatten_pieceWords .boundary piece
  rw [words, List.flatMap_def, List.flatten_flatten, List.map_map, kept, List.map_id,
    flatten_pieces]

theorem raised_ne_nil (c : Char) : raised c ≠ [] := by
  have images : ∀ entry ∈ raisingSequences, entry.2 ≠ [] := by decide
  rw [raised, mapped]
  split
  · next image found =>
      obtain ⟨before, behind, table, -⟩ := List.lookup_eq_some_iff.mp found
      have listed : (c.toNat, image) ∈ raisingSequences := by
        rw [table]
        exact List.mem_append_right _ List.mem_cons_self
      intro empty
      exact images _ listed (List.map_eq_nil_iff.mp empty)
  · split
    · exact List.cons_ne_nil _ _
    · exact List.cons_ne_nil _ _

theorem capitalized_eq_nil_iff {word : List Char} : capitalized word = [] ↔ word = [] := by
  cases word with
  | nil => exact ⟨fun _ => rfl, fun _ => rfl⟩
  | cons c rest =>
      rw [capitalized, List.append_eq_nil_iff]
      constructor
      · rintro ⟨head, -⟩
        exact absurd head (raised_ne_nil c)
      · intro empty
        cases empty

theorem upperCamel_eq_empty_iff {text : String} :
    upperCamel text = "" ↔ ∀ c ∈ text.toList, isAlphanumeric c = false := by
  calc upperCamel text = ""
    _ ↔ (words text.toList).flatMap capitalized = [] := by
        rw [upperCamel, ← String.toList_inj, String.toList_ofList]
        rfl
    _ ↔ (words text.toList).flatten = [] := by
        rw [List.flatMap_eq_nil_iff, List.flatten_eq_nil_iff]
        exact forall₂_congr fun word _ => capitalized_eq_nil_iff
    _ ↔ ∀ c ∈ text.toList, isAlphanumeric c = false := by
        rw [flatten_words, List.filter_eq_nil_iff]
        exact forall₂_congr fun c _ => by rw [Bool.not_eq_true]

end QueryBinding.Text

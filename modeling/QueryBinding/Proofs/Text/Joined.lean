/-! # Joined texts

Texts that are joined by a separator, seen from the first of them: each further text stands behind
a separator of its own. In what is joined they stand in their order (`standIn_intercalate`). -/

namespace QueryBinding.Text

theorem intercalate_cons_eq {α : Type} (separator : List α) (first : List α)
    (rest : List (List α)) :
    separator.intercalate (first :: rest) = first ++ rest.flatMap (separator ++ ·) := by
  induction rest generalizing first with
  | nil => rw [List.intercalate_singleton, List.flatMap_nil, List.append_nil]
  | cons second rest ih =>
      rw [List.intercalate_cons_cons, ih, List.flatMap_cons, List.append_assoc, List.append_assoc]

theorem toList_intercalate_map (separator : String) (spell : String → String) (first : String)
    (rest : List String) :
    (separator.intercalate ((first :: rest).map spell)).toList =
      (spell first).toList ++ rest.flatMap fun text => separator.toList ++ (spell text).toList := by
  rw [String.toList_intercalate, List.map_map, List.map_cons, intercalate_cons_eq, List.flatMap_map]
  rfl

theorem mem_of_mem_intercalate {α : Type} {x : α} {separator : List α} {pieces : List (List α)}
    (member : x ∈ separator.intercalate pieces) : x ∈ separator ∨ ∃ piece ∈ pieces, x ∈ piece := by
  cases pieces with
  | nil => cases member
  | cons first rest =>
      rw [intercalate_cons_eq, List.mem_append, List.mem_flatMap] at member
      rcases member with inFirst | ⟨piece, further, inside⟩
      · exact .inr ⟨first, List.mem_cons_self, inFirst⟩
      · rcases List.mem_append.mp inside with inSeparator | inPiece
        · exact .inl inSeparator
        · exact .inr ⟨piece, List.mem_cons_of_mem _ further, inPiece⟩

theorem intercalate_empty (texts : List String) : "".intercalate texts = String.join texts := by
  induction texts with
  | nil => rfl
  | cons first rest ih =>
      cases rest with
      | nil =>
          rw [String.intercalate_singleton, String.join_cons, String.join_nil, String.append_empty]
      | cons second rest =>
          rw [String.intercalate_cons_cons, String.append_empty, ih, String.join_cons (s := first)]

/-- With an empty text behind them, joined texts have a separator behind each. -/
theorem intercalate_concat_empty (separator : String) (texts : List String) :
    separator.intercalate (texts ++ [""]) = String.join (texts.map (· ++ separator)) := by
  induction texts with
  | nil => rfl
  | cons first rest ih =>
      have further : rest ++ [""] ≠ [] := by simp
      rw [List.cons_append, String.intercalate_cons_of_ne_nil further, ih, List.map_cons,
        String.join_cons]

theorem length_le_flatMap {α β : Type} (spell : α → List β) (some_char : ∀ x, spell x ≠ [])
    (xs : List α) : xs.length ≤ (xs.flatMap spell).length := by
  induction xs with
  | nil => exact Nat.zero_le _
  | cons x xs ih =>
      rw [List.flatMap_cons, List.length_append, List.length_cons, Nat.add_comm]
      exact Nat.add_le_add (List.length_pos_iff.mpr (some_char x)) ih

/-! ## Texts inside a text -/

/-- Texts that stand in a text in their order, each behind the one before it. -/
def StandIn : List String → String → Prop
  | [], _ => True
  | t :: rest, text => ∃ before behind, text = before ++ t ++ behind ∧ StandIn rest behind

variable {texts others : List String} {first text : String}

theorem StandIn.prepend (inside : StandIn texts text) (before : String) :
    StandIn texts (before ++ text) := by
  cases texts with
  | nil => trivial
  | cons first rest =>
      obtain ⟨ahead, behind, rfl, later⟩ := inside
      exact ⟨before ++ ahead, behind, by simp only [String.append_assoc], later⟩

/-- Some of the texts, in their order, stand there as well. -/
theorem StandIn.sublist (inside : StandIn texts text) (fewer : others.Sublist texts) :
    StandIn others text := by
  induction fewer generalizing text with
  | slnil => trivial
  | cons first fewer ih =>
      obtain ⟨ahead, behind, rfl, later⟩ := inside
      exact (ih later).prepend (ahead ++ first)
  | cons_cons first fewer ih =>
      obtain ⟨ahead, behind, rfl, later⟩ := inside
      exact ⟨ahead, behind, rfl, ih later⟩

theorem StandIn.length_le (inside : StandIn texts text) :
    (texts.flatMap String.toList).length ≤ text.length := by
  induction texts generalizing text with
  | nil => exact Nat.zero_le _
  | cons first rest ih =>
      obtain ⟨ahead, behind, rfl, later⟩ := inside
      have shorter := ih later
      rw [List.flatMap_cons, List.length_append, String.length_toList, String.length_append,
        String.length_append]
      omega

theorem standIn_cons_append_iff :
    StandIn (first :: texts) (first ++ text) ↔ StandIn texts text := by
  constructor
  · rintro ⟨ahead, behind, same, later⟩
    have chars := congrArg String.toList same
    simp only [String.toList_append] at chars
    -- Wherever the first text is found, what is left of the others stands behind its own place.
    have suffix : behind.toList <:+ text.toList := by
      refine List.suffix_of_suffix_length_le ⟨_, chars.symm⟩ (List.suffix_append _ _) ?_
      have lengths := congrArg List.length chars
      simp only [List.length_append] at lengths
      omega
    obtain ⟨skipped, split⟩ := suffix
    have text_eq : text = String.ofList skipped ++ behind := by
      rw [← String.toList_inj, String.toList_append, String.toList_ofList, split]
    rw [text_eq]
    exact later.prepend _
  · intro inside
    exact ⟨"", text, by rw [String.empty_append], inside⟩

theorem standIn_intercalate (separator : String) (texts : List String) :
    StandIn texts (separator.intercalate texts) := by
  induction texts with
  | nil => trivial
  | cons first rest ih =>
      cases rest with
      | nil =>
          rw [String.intercalate_singleton]
          exact ⟨"", "", by rw [String.empty_append, String.append_empty], trivial⟩
      | cons second rest =>
          rw [String.intercalate_cons_cons, String.append_assoc]
          exact standIn_cons_append_iff.mpr (ih.prepend separator)

theorem length_intercalate (separator : String) (nonempty : texts ≠ []) :
    separator.length + (separator.intercalate texts).length =
      (texts.flatMap String.toList).length + separator.length * texts.length := by
  induction texts with
  | nil => exact absurd rfl nonempty
  | cons first rest ih =>
      rw [List.flatMap_cons, List.length_append, String.length_toList, List.length_cons,
        Nat.mul_succ]
      cases rest with
      | nil =>
          rw [String.intercalate_singleton, List.flatMap_nil, List.length_nil, List.length_nil]
          omega
      | cons second rest =>
          have tail := ih (List.cons_ne_nil second rest)
          rw [String.intercalate_cons_cons, String.length_append, String.length_append]
          omega

end QueryBinding.Text

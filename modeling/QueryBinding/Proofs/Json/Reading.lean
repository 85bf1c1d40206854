import QueryBinding.Proofs.Json.Scanning

/-! # What is spelled is read

The reader goes through whatever the grammar spells and makes of it what the spelling says, with
enough fuel for every character. Main statement: `document_text`. -/

namespace QueryBinding

/-- What a value may start with; nothing else between brackets does. -/
def StartsValue (c : Char) : Prop :=
  JsonReader.isBlank c = false ∧ c ≠ ',' ∧ c ≠ ']' ∧ c ≠ '\x7d'

instance (c : Char) : Decidable (StartsValue c) := inferInstanceAs (Decidable (_ ∧ _))

theorem ne_of_isDigit {c d : Char} (digit : c.isDigit = true) (other : d.isDigit = false) :
    c ≠ d := by
  rintro rfl
  rw [digit] at other
  cases other

theorem startsValue_of_isDigit {c : Char} (digit : c.isDigit = true) : StartsValue c := by
  have other {d : Char} (h : d.isDigit = false) : c ≠ d := ne_of_isDigit digit h
  refine ⟨?_, other rfl, other rfl, other rfl⟩
  simp [JsonReader.isBlank, other]

theorem Spelling.head_chars (s : Spelling) :
    ∃ c more, s.chars = c :: more ∧ StartsValue c := by
  cases s with
  | null => exact ⟨'n', _, by rw [chars], by decide⟩
  | bool value =>
      cases value with
      | true => exact ⟨'t', _, by rw [chars], by decide⟩
      | false => exact ⟨'f', _, by rw [chars], by decide⟩
  | number n =>
      obtain ⟨c, more, start, rfl | digit⟩ := n.head_chars
      · exact ⟨'-', more, by rw [chars, start], by decide⟩
      · exact ⟨c, more, by rw [chars, start], startsValue_of_isDigit digit⟩
  | string t => exact ⟨'"', t.body, by rw [chars]; rfl, by decide⟩
  | array items closing => exact ⟨'[', _, by rw [chars], by decide⟩
  | object members closing => exact ⟨'\x7b', _, by rw [chars], by decide⟩

/-! ### What follows a value -/

theorem endsNumber_cons {c : Char} (rest : List Char)
    (h : c = ',' ∨ c = ']' ∨ c = '\x7d' ∨ JsonReader.isBlank c = true) :
    EndsNumber (c :: rest) := by
  rintro _ ⟨⟩
  simp only [JsonReader.isBlank, Bool.or_eq_true, decide_eq_true_eq] at h
  obtain rfl | rfl | rfl | ((rfl | rfl) | rfl) | rfl := h <;> decide

theorem endsNumber_append (b : Blanks) {rest : List Char} (h : EndsNumber rest) :
    EndsNumber (b.chars ++ rest) := by
  obtain ⟨chars, blank⟩ := b
  cases chars with
  | nil => exact h
  | cons c chars => exact endsNumber_cons _ (.inr (.inr (.inr (blank c List.mem_cons_self))))

namespace Spelling

theorem endsNumber_itemChars (items : List (Placed Spelling)) (closing : Blanks)
    (rest : List Char) : EndsNumber (itemChars false items closing ++ rest) := by
  cases items with
  | nil =>
      rw [itemChars, List.append_assoc]
      exact endsNumber_append closing (endsNumber_cons _ (.inr (.inl rfl)))
  | cons item items =>
      simp only [itemChars, leadChars, Bool.false_eq_true, if_false, List.append_assoc]
      exact endsNumber_append item.gap (endsNumber_cons _ (.inl rfl))

theorem endsNumber_memberChars (members : List (Placed (SpelledMember Spelling)))
    (closing : Blanks) (rest : List Char) :
    EndsNumber (memberChars false members closing ++ rest) := by
  cases members with
  | nil =>
      rw [memberChars, List.append_assoc]
      exact endsNumber_append closing (endsNumber_cons _ (.inr (.inr (.inl rfl))))
  | cons member members =>
      simp only [memberChars, leadChars, Bool.false_eq_true, if_false, List.append_assoc]
      exact endsNumber_append member.gap (endsNumber_cons _ (.inl rfl))

end Spelling

/-! ### What is spelled is read -/

namespace JsonReader

theorem value_append (fuel depth : Nat) (b : Blanks) (cs : List Char) :
    value fuel depth (b.chars ++ cs) = value fuel depth cs := by
  cases fuel with
  | zero => simp only [value]
  | succ fuel => simp only [value, skipBlanks_append]

theorem value_number (fuel depth : Nat) (n : SpelledNumber) {rest : List Char}
    (follows : EndsNumber rest) :
    value (fuel + 1) depth (n.chars ++ rest) = (n.reading, some rest) := by
  obtain ⟨c, more, start, sign⟩ := n.head_chars
  have read := n.number_chars follows
  rw [start, List.cons_append] at read ⊢
  obtain rfl | digit := sign
  · rw [value, skipBlanks_cons _ rfl]
    exact read
  · have other {d : Char} (h : d.isDigit = false) : c ≠ d := ne_of_isDigit digit h
    rw [value, skipBlanks_cons _ (startsValue_of_isDigit digit).1]
    simp [other, digit, read]

theorem items_closing (fuel depth : Nat) (first : Bool) (closing : Blanks) (rest : List Char) :
    items (fuel + 1) depth first (closing.chars ++ ']' :: rest) = ([], none, some rest) := by
  unfold items
  rw [skipBlanks_append, skipBlanks_cons rest rfl]
  cases first <;> rfl

theorem members_closing (fuel depth : Nat) (first : Bool) (closing : Blanks) (rest : List Char) :
    members (fuel + 1) depth first (closing.chars ++ '\x7d' :: rest) = ([], none, some rest) := by
  unfold members
  rw [skipBlanks_append, skipBlanks_cons rest rfl]
  cases first <;> rfl

theorem items_item {fuel depth : Nat} (first : Bool) (gap indent : Blanks) {s : Spelling}
    {r : Reading} {cs : List Char} (read : value fuel depth (s.chars ++ cs) = (r, some cs)) :
    items (fuel + 1) depth first (leadChars first gap indent ++ (s.chars ++ cs)) =
      consItem r (items fuel depth false cs) := by
  conv_lhs => unfold items leadChars
  cases first with
  | true =>
      obtain ⟨c, more, start, blank, comma, bracket, -⟩ := s.head_chars
      rw [start, List.cons_append] at read ⊢
      simp [skipBlanks_append, skipBlanks_cons _ blank, read]
  | false =>
      simp [skipBlanks_append, skipBlanks_cons (c := ',') _ rfl, value_append, read]

theorem members_member (fuel depth : Nat) (first : Bool) (gap indent : Blanks) (t : SpelledText)
    (cs : List Char) :
    members (fuel + 1) depth first (leadChars first gap indent ++ (t.chars ++ cs)) =
      member fuel depth (t.chars ++ cs) := by
  unfold members leadChars SpelledText.chars
  cases first with
  | true => simp [skipBlanks_append, skipBlanks_cons (c := '"') _ rfl]
  | false =>
      simp [skipBlanks_append, skipBlanks_cons (c := ',') _ rfl, skipBlanks_cons (c := '"') _ rfl]

theorem member_value {fuel depth : Nat} (t : SpelledText) (beforeColon afterColon : Blanks)
    {s : Spelling} {r : Reading} {cs : List Char}
    (read : value fuel depth (s.chars ++ cs) = (r, some cs)) :
    member (fuel + 1) depth
        (t.chars ++ (beforeColon.chars ++ ':' :: (afterColon.chars ++ (s.chars ++ cs)))) =
      consMember t.key r (members fuel depth false cs) := by
  rw [SpelledText.chars, List.cons_append, member]
  simp [t.key_body, skipBlanks_append, skipBlanks_cons (c := ':') _ rfl, value_append, read]

end JsonReader

namespace Spelling

theorem length_itemChars_pos (items : List (Placed Spelling)) (closing : Blanks) :
    0 < (itemChars false items closing).length := by
  cases items with
  | nil => simp [itemChars]
  | cons item items =>
      simp only [itemChars, leadChars, Bool.false_eq_true, if_false, List.length_append,
        List.length_cons]
      omega

mutual

/-- The reader takes a spelling for what it says and stops behind it. Three steps for a character
are enough: a member takes three, and has more characters than its value and what follows it. -/
theorem value_chars (s : Spelling) (fuel depth : Nat) (rest : List Char)
    (enough : 3 * s.chars.length ≤ fuel) (follows : EndsNumber rest) :
    JsonReader.value fuel depth (s.chars ++ rest) = (s.reading depth, some rest) := by
  obtain ⟨c, more, start, blank, -⟩ := s.head_chars
  obtain ⟨fuel, rfl⟩ : ∃ n, fuel = n + 1 := by
    rw [start, List.length_cons] at enough
    exact ⟨fuel - 1, by omega⟩
  cases s with
  | null =>
      rw [chars, JsonReader.value]
      exact JsonReader.word_append 'n' .null ['u', 'l', 'l'] rest
  | bool value =>
      cases value with
      | true =>
          rw [chars, JsonReader.value]
          exact JsonReader.word_append 't' (.bool true) ['r', 'u', 'e'] rest
      | false =>
          rw [chars, JsonReader.value]
          exact JsonReader.word_append 'f' (.bool false) ['a', 'l', 's', 'e'] rest
  | number n =>
      rw [chars, reading]
      exact JsonReader.value_number fuel depth n follows
  | string t =>
      rw [chars, JsonReader.value]
      exact t.string_body rest
  | array items closing =>
      rw [chars, List.length_cons] at enough
      have read := items_chars items closing true fuel (depth + 1) rest (by omega)
      rw [chars, List.cons_append, JsonReader.value, JsonReader.skipBlanks_cons _ rfl, reading]
      simp only [read]
  | object members closing =>
      rw [chars, List.length_cons] at enough
      have read := members_chars members closing true fuel (depth + 1) rest (by omega)
      rw [chars, List.cons_append, JsonReader.value, JsonReader.skipBlanks_cons _ rfl, reading]
      simp only [read]

theorem items_chars (items : List (Placed Spelling)) (closing : Blanks) (first : Bool)
    (fuel depth : Nat) (rest : List Char)
    (enough : 3 * (itemChars first items closing).length ≤ fuel) :
    JsonReader.items fuel depth first (itemChars first items closing ++ rest) =
      (itemReadings depth items, none, some rest) := by
  match items with
  | [] =>
      obtain ⟨fuel, rfl⟩ : ∃ n, fuel = n + 1 := by
        rw [itemChars, List.length_append, List.length_singleton] at enough
        exact ⟨fuel - 1, by omega⟩
      rw [itemChars, List.append_assoc]
      exact JsonReader.items_closing fuel depth first closing rest
  | ⟨gap, indent, value⟩ :: items =>
      obtain ⟨c, more, start, -⟩ := value.head_chars
      have some_char : 1 ≤ value.chars.length := by rw [start, List.length_cons]; omega
      rw [itemChars, List.length_append, List.length_append] at enough
      obtain ⟨fuel, rfl⟩ : ∃ n, fuel = n + 1 := ⟨fuel - 1, by omega⟩
      have some_behind := length_itemChars_pos items closing
      have others := items_chars items closing false fuel depth rest (by omega)
      have read := value_chars value fuel depth (itemChars false items closing ++ rest)
        (by omega) (endsNumber_itemChars items closing rest)
      rw [itemChars, List.append_assoc, List.append_assoc,
        JsonReader.items_item first gap indent read, others, itemReadings]
      rfl

theorem members_chars (members : List (Placed (SpelledMember Spelling))) (closing : Blanks)
    (first : Bool) (fuel depth : Nat) (rest : List Char)
    (enough : 3 * (memberChars first members closing).length ≤ fuel) :
    JsonReader.members fuel depth first (memberChars first members closing ++ rest) =
      (memberReadings depth members, none, some rest) := by
  match members with
  | [] =>
      obtain ⟨fuel, rfl⟩ : ∃ n, fuel = n + 1 := by
        rw [memberChars, List.length_append, List.length_singleton] at enough
        exact ⟨fuel - 1, by omega⟩
      rw [memberChars, List.append_assoc]
      exact JsonReader.members_closing fuel depth first closing rest
  | ⟨gap, indent, key, beforeColon, afterColon, value⟩ :: members =>
      simp only [memberChars, SpelledText.chars, List.length_append, List.length_cons] at enough
      obtain ⟨fuel, rfl⟩ : ∃ n, fuel = n + 2 := ⟨fuel - 2, by omega⟩
      have others := members_chars members closing false fuel depth rest (by omega)
      have read := value_chars value fuel depth (memberChars false members closing ++ rest)
        (by omega) (endsNumber_memberChars members closing rest)
      simp only [memberChars, List.append_assoc, List.cons_append]
      rw [JsonReader.members_member (fuel + 1) depth first gap indent key,
        JsonReader.member_value key beforeColon afterColon read, others, memberReadings]
      rfl

end

end Spelling

theorem JsonReader.document_text (d : Document) : document d.text = (d.value.reading 0, none) := by
  have chars : d.text.toList = d.before.chars ++ (d.value.chars ++ d.after.chars) := by
    rw [Document.text, String.toList_ofList, List.append_assoc]
  have enough : 3 * d.value.chars.length ≤ 3 * d.text.length + 3 := by
    rw [← String.length_toList, chars, List.length_append, List.length_append]
    omega
  have follows : EndsNumber d.after.chars := by
    have nothing : EndsNumber [] := nofun
    simpa using endsNumber_append d.after nothing
  have read := d.value.value_chars (3 * d.text.length + 3) 0 d.after.chars enough follows
  unfold document
  rw [chars, value_append, read]
  simp only [endFault?, skipBlanks_chars, List.isEmpty_nil, if_true]

end QueryBinding

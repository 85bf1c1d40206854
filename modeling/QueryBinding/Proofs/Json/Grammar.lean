import QueryBinding.Proofs.Json.Reading

/-! # What is read is spelled

Whatever the reader goes through without a fault is spelled by the grammar, so that the texts it
goes through are those of the grammar and no others. Main statement: `goes_through_iff`. -/

namespace QueryBinding

namespace Reading

theorem skipFault?_arrayAt (depth : Nat) (items : List Reading) (ending : Option Fault) :
    (JsonReader.arrayAt depth items ending).skipFault? = (itemsFault? items).or ending := by
  unfold JsonReader.arrayAt
  split
  · rw [skipFault?]
  · simp [skipFault?, itemsFault?]

theorem skipFault?_objectAt (depth : Nat) (members : List (Key × Reading))
    (ending : Option Fault) :
    (JsonReader.objectAt depth members ending).skipFault? = (membersFault? members).or ending := by
  unfold JsonReader.objectAt
  split
  · rw [skipFault?]
  · simp [skipFault?, membersFault?, keyFault?]

end Reading

theorem SpelledText.keyFault?_key (t : SpelledText) : Reading.keyFault? t.key = none := by
  unfold key
  cases t.joined <;> rfl

namespace Spelling

mutual

/-- Nothing that is spelled stops those who pass over it. -/
theorem skipFault?_reading (s : Spelling) (depth : Nat) : (s.reading depth).skipFault? = none := by
  cases s with
  | null => rw [reading, Reading.skipFault?.eq_def]
  | bool value => rw [reading, Reading.skipFault?.eq_def]
  | number n =>
      rw [reading, SpelledNumber.reading]
      cases n.digits.value? <;> rfl
  | string t =>
      rw [reading, SpelledText.reading]
      cases t.joined <;> rfl
  | array items closing =>
      rw [reading, Reading.skipFault?_arrayAt, itemsFault?_readings items (depth + 1)]
      rfl
  | object members closing =>
      rw [reading, Reading.skipFault?_objectAt, membersFault?_readings members (depth + 1)]
      rfl

theorem itemsFault?_readings (items : List (Placed Spelling)) (depth : Nat) :
    Reading.itemsFault? (itemReadings depth items) = none := by
  match items with
  | [] => rfl
  | ⟨gap, indent, value⟩ :: items =>
      rw [itemReadings, Reading.itemsFault?, skipFault?_reading value depth,
        itemsFault?_readings items depth]
      rfl

theorem membersFault?_readings (members : List (Placed (SpelledMember Spelling))) (depth : Nat) :
    Reading.membersFault? (memberReadings depth members) = none := by
  match members with
  | [] => rfl
  | ⟨gap, indent, key, beforeColon, afterColon, value⟩ :: members =>
      rw [memberReadings, Reading.membersFault?, key.keyFault?_key, skipFault?_reading value depth,
        membersFault?_readings members depth]
      rfl

end

end Spelling

namespace JsonReader

/-- The text starts with a spelled value, which is read as `r`. -/
abbrev SpellsValue (depth : Nat) (cs : List Char) (r : Reading) (after : Option (List Char)) :
    Prop :=
  ∃ (b : Blanks) (s : Spelling) (rest : List Char),
    cs = b.chars ++ (s.chars ++ rest) ∧ r = s.reading depth ∧ after = some rest

/-- The text starts with the items of an array up to its closing bracket. -/
abbrev SpellsItems (depth : Nat) (first : Bool) (cs : List Char) (rs : List Reading)
    (ending : Option Fault) (after : Option (List Char)) : Prop :=
  ∃ (items : List (Placed Spelling)) (closing : Blanks) (rest : List Char),
    cs = Spelling.itemChars first items closing ++ rest ∧
      rs = Spelling.itemReadings depth items ∧ ending = none ∧ after = some rest

/-- The text starts with the members of an object up to its closing brace. -/
abbrev SpellsMembers (depth : Nat) (first : Bool) (cs : List Char) (rs : List (Key × Reading))
    (ending : Option Fault) (after : Option (List Char)) : Prop :=
  ∃ (members : List (Placed (SpelledMember Spelling))) (closing : Blanks) (rest : List Char),
    cs = Spelling.memberChars first members closing ++ rest ∧
      rs = Spelling.memberReadings depth members ∧ ending = none ∧ after = some rest

/-- The text starts with the first of several members. -/
abbrev SpellsMember (depth : Nat) (cs : List Char) (rs : List (Key × Reading))
    (ending : Option Fault) (after : Option (List Char)) : Prop :=
  ∃ (m : SpelledMember Spelling) (members : List (Placed (SpelledMember Spelling)))
    (closing : Blanks) (rest : List Char),
    cs = m.key.chars ++ m.beforeColon.chars ++ ':' :: m.afterColon.chars ++ m.value.chars ++
      Spelling.memberChars false members closing ++ rest ∧
      rs = (m.key.key, m.value.reading depth) :: Spelling.memberReadings depth members ∧
      ending = none ∧ after = some rest

variable {fuel depth : Nat} {first : Bool} {cs : List Char} {ending : Option Fault}
variable {after : Option (List Char)}

/-- Whatever the reader gets through with this much fuel is spelled. -/
structure GetsThrough (fuel : Nat) : Prop where
  value {depth : Nat} {cs : List Char} {r : Reading} {after : Option (List Char)} :
    value fuel depth cs = (r, after) → r.skipFault? = none → SpellsValue depth cs r after
  items {depth : Nat} {first : Bool} {cs : List Char} {rs : List Reading} {ending : Option Fault}
      {after : Option (List Char)} :
    items fuel depth first cs = (rs, ending, after) →
      (Reading.itemsFault? rs).or ending = none → SpellsItems depth first cs rs ending after
  members {depth : Nat} {first : Bool} {cs : List Char} {rs : List (Key × Reading)}
      {ending : Option Fault} {after : Option (List Char)} :
    members fuel depth first cs = (rs, ending, after) →
      (Reading.membersFault? rs).or ending = none → SpellsMembers depth first cs rs ending after
  member {depth : Nat} {cs : List Char} {rs : List (Key × Reading)} {ending : Option Fault}
      {after : Option (List Char)} :
    member fuel depth cs = (rs, ending, after) →
      (Reading.membersFault? rs).or ending = none → SpellsMember depth cs rs ending after

theorem getsThrough_zero : GetsThrough 0 where
  value h faultless := by
    rw [value] at h
    cases h
    cases faultless
  items h faultless := by
    rw [items] at h
    cases h
    cases faultless
  members h faultless := by
    rw [members] at h
    cases h
    cases faultless
  member h faultless := by
    rw [member] at h
    cases h
    cases faultless

theorem GetsThrough.value_succ (ih : GetsThrough fuel) {r : Reading}
    (h : JsonReader.value (fuel + 1) depth cs = (r, after)) (faultless : r.skipFault? = none) :
    SpellsValue depth cs r after := by
  obtain ⟨b, spelled⟩ := exists_blanks cs
  suffices found : ∃ (s : Spelling) (rest : List Char),
      skipBlanks cs = s.chars ++ rest ∧ r = s.reading depth ∧ after = some rest by
    obtain ⟨s, rest, start, read, behind⟩ := found
    exact ⟨b, s, rest, by rw [← start, ← spelled], read, behind⟩
  rw [JsonReader.value] at h
  clear spelled
  generalize skipBlanks cs = cs at h ⊢
  split at h
  · cases h
    cases faultless
  · obtain ⟨rest, rfl, rfl, rfl⟩ := exists_of_word h faultless
    exact ⟨.null, rest, by rw [Spelling.chars]; rfl, by rw [Spelling.reading], rfl⟩
  · obtain ⟨rest, rfl, rfl, rfl⟩ := exists_of_word h faultless
    exact ⟨.bool true, rest, by rw [Spelling.chars]; rfl, by rw [Spelling.reading], rfl⟩
  · obtain ⟨rest, rfl, rfl, rfl⟩ := exists_of_word h faultless
    exact ⟨.bool false, rest, by rw [Spelling.chars]; rfl, by rw [Spelling.reading], rfl⟩
  · obtain ⟨t, rest, rfl, rfl, rfl⟩ := SpelledText.exists_of_string h faultless
    exact ⟨.string t, rest, by rw [Spelling.chars]; rfl, by rw [Spelling.reading], rfl⟩
  · next behind =>
      cases read : JsonReader.items fuel (depth + 1) true behind with
      | mk items others =>
          obtain ⟨ending, rest⟩ := others
          rw [read] at h
          cases h
          rw [Reading.skipFault?_arrayAt] at faultless
          obtain ⟨items, closing, rest, rfl, rfl, rfl, rfl⟩ := ih.items read faultless
          exact ⟨.array items closing, rest, by rw [Spelling.chars]; rfl,
            by rw [Spelling.reading], rfl⟩
  · next behind =>
      cases read : JsonReader.members fuel (depth + 1) true behind with
      | mk members others =>
          obtain ⟨ending, rest⟩ := others
          rw [read] at h
          cases h
          rw [Reading.skipFault?_objectAt] at faultless
          obtain ⟨members, closing, rest, rfl, rfl, rfl, rfl⟩ := ih.members read faultless
          exact ⟨.object members closing, rest, by rw [Spelling.chars]; rfl,
            by rw [Spelling.reading], rfl⟩
  · split at h
    · obtain ⟨n, rest, start, rfl, rfl⟩ := SpelledNumber.exists_of_number h faultless
      exact ⟨.number n, rest, by rw [Spelling.chars]; exact start, by rw [Spelling.reading], rfl⟩
    · cases h
      cases faultless

theorem GetsThrough.item (ih : GetsThrough fuel) {rs : List Reading}
    (h : (match JsonReader.value fuel depth cs with
      | (item, none) => ([item], none, none)
      | (item, some rest) => consItem item (JsonReader.items fuel depth false rest)) =
        (rs, ending, after))
    (faultless : (Reading.itemsFault? rs).or ending = none) :
    ∃ (b : Blanks) (s : Spelling) (items : List (Placed Spelling)) (closing : Blanks)
      (rest : List Char),
      cs = b.chars ++ (s.chars ++ (Spelling.itemChars false items closing ++ rest)) ∧
        rs = s.reading depth :: Spelling.itemReadings depth items ∧ ending = none ∧
        after = some rest := by
  cases read : JsonReader.value fuel depth cs with
  | mk r behind =>
      rw [read] at h
      cases behind with
      | none =>
          cases h
          simp only [Reading.itemsFault?, Option.or_none] at faultless
          obtain ⟨-, -, -, -, -, ⟨⟩⟩ := ih.value read faultless
      | some behind =>
          cases others : JsonReader.items fuel depth false behind with
          | mk rs others' =>
              dsimp only at h
              rw [others] at h
              cases h
              simp only [Reading.itemsFault?, Option.or_eq_none_iff] at faultless
              obtain ⟨⟨first, further⟩, last⟩ := faultless
              obtain ⟨b, s, rest, rfl, rfl, ⟨⟩⟩ := ih.value read first
              obtain ⟨items, closing, rest, rfl, rfl, rfl, rfl⟩ := ih.items others (by
                rw [further, last]
                rfl)
              exact ⟨b, s, items, closing, rest, rfl, rfl, rfl, rfl⟩

theorem GetsThrough.items_succ (ih : GetsThrough fuel) {rs : List Reading}
    (h : JsonReader.items (fuel + 1) depth first cs = (rs, ending, after))
    (faultless : (Reading.itemsFault? rs).or ending = none) :
    SpellsItems depth first cs rs ending after := by
  obtain ⟨gap, spelled⟩ := exists_blanks cs
  unfold JsonReader.items at h
  -- The text ends, the array ends, a comma stands there, something stands where a comma should,
  -- or the first item does.
  split at h
  · cases h
    cases faultless
  · next rest start =>
      cases h
      rw [start] at spelled
      exact ⟨[], gap, rest, by simp [Spelling.itemChars, spelled], rfl, rfl, rfl⟩
  · next behind start =>
      rw [start] at spelled
      obtain ⟨indent, s, items, closing, rest, rfl, rfl, rfl, rfl⟩ := ih.item h faultless
      exact ⟨⟨gap, indent, s⟩ :: items, closing, rest,
        by simp [Spelling.itemChars, leadChars, spelled], rfl, rfl, rfl⟩
  · cases h
    cases faultless
  · next c behind _ start =>
      rw [start] at spelled
      obtain ⟨indent, s, items, closing, rest, found, rfl, rfl, rfl⟩ := ih.item h faultless
      rw [found] at spelled
      exact ⟨⟨gap, indent, s⟩ :: items, closing, rest,
        by simp [Spelling.itemChars, leadChars, spelled], rfl, rfl, rfl⟩

theorem GetsThrough.members_succ (ih : GetsThrough fuel) {rs : List (Key × Reading)}
    (h : JsonReader.members (fuel + 1) depth first cs = (rs, ending, after))
    (faultless : (Reading.membersFault? rs).or ending = none) :
    SpellsMembers depth first cs rs ending after := by
  obtain ⟨gap, spelled⟩ := exists_blanks cs
  unfold JsonReader.members at h
  split at h
  · cases h
    cases faultless
  · next rest start =>
      cases h
      rw [start] at spelled
      exact ⟨[], gap, rest, by simp [Spelling.memberChars, spelled], rfl, rfl, rfl⟩
  · next behind start =>
      rw [start] at spelled
      obtain ⟨indent, before⟩ := exists_blanks behind
      obtain ⟨m, members, closing, rest, found, rfl, rfl, rfl⟩ := ih.member h faultless
      rw [before, found] at spelled
      exact ⟨⟨gap, indent, m⟩ :: members, closing, rest,
        by simp [Spelling.memberChars, leadChars, spelled], rfl, rfl, rfl⟩
  · cases h
    cases faultless
  · next c behind _ start =>
      rw [start] at spelled
      obtain ⟨m, members, closing, rest, found, rfl, rfl, rfl⟩ := ih.member h faultless
      rw [found] at spelled
      exact ⟨⟨gap, .none, m⟩ :: members, closing, rest,
        by simp [Spelling.memberChars, leadChars, spelled, Blanks.none], rfl, rfl, rfl⟩

theorem GetsThrough.keyed (ih : GetsThrough fuel) {k : Key} (sound : Reading.keyFault? k = none)
    {rs : List (Key × Reading)}
    (h : (match JsonReader.value fuel depth cs with
      | (v, none) => ([(k, v)], none, none)
      | (v, some rest) => consMember k v (JsonReader.members fuel depth false rest)) =
        (rs, ending, after))
    (faultless : (Reading.membersFault? rs).or ending = none) :
    ∃ (b : Blanks) (s : Spelling) (members : List (Placed (SpelledMember Spelling)))
      (closing : Blanks) (rest : List Char),
      cs = b.chars ++ (s.chars ++ (Spelling.memberChars false members closing ++ rest)) ∧
        rs = (k, s.reading depth) :: Spelling.memberReadings depth members ∧ ending = none ∧
        after = some rest := by
  cases read : JsonReader.value fuel depth cs with
  | mk r behind =>
      rw [read] at h
      cases behind with
      | none =>
          cases h
          simp only [Reading.membersFault?, sound, Option.none_or, Option.or_none] at faultless
          obtain ⟨-, -, -, -, -, ⟨⟩⟩ := ih.value read faultless
      | some behind =>
          cases others : JsonReader.members fuel depth false behind with
          | mk rs others' =>
              dsimp only at h
              rw [others] at h
              cases h
              simp only [Reading.membersFault?, sound, Option.none_or, Option.or_eq_none_iff]
                at faultless
              obtain ⟨⟨first, further⟩, last⟩ := faultless
              obtain ⟨b, s, rest, rfl, rfl, ⟨⟩⟩ := ih.value read first
              obtain ⟨members, closing, rest, rfl, rfl, rfl, rfl⟩ := ih.members others (by
                rw [further, last]
                rfl)
              exact ⟨b, s, members, closing, rest, rfl, rfl, rfl, rfl⟩

theorem GetsThrough.member_succ (ih : GetsThrough fuel) {rs : List (Key × Reading)}
    (h : JsonReader.member (fuel + 1) depth cs = (rs, ending, after))
    (faultless : (Reading.membersFault? rs).or ending = none) :
    SpellsMember depth cs rs ending after := by
  unfold JsonReader.member at h
  split at h
  · cases h
    cases faultless
  · next behind =>
      cases scanned : key behind with
      | mk k behindKey =>
          rw [scanned] at h
          cases behindKey with
          | error f =>
              -- The key may have no fault of its own, but what is cut behind it has one.
              cases h
              cases unread : Reading.keyFault? k <;>
                simp [Reading.membersFault?, Reading.skipFault?, unread] at faultless
          | ok behindKey =>
              obtain ⟨key, rfl, rfl⟩ := SpelledText.exists_of_key scanned
              obtain ⟨beforeColon, spelled⟩ := exists_blanks behindKey
              dsimp only at h
              split at h
              · cases h
                simp [Reading.membersFault?, Reading.skipFault?] at faultless
              · next behindColon colon =>
                  rw [colon] at spelled
                  obtain ⟨afterColon, s, members, closing, rest, rfl, rfl, rfl, rfl⟩ :=
                    ih.keyed key.keyFault?_key h faultless
                  exact ⟨⟨key, beforeColon, afterColon, s⟩, members, closing, rest,
                    by simp [SpelledText.chars, spelled], rfl, rfl, rfl⟩
              · cases h
                simp [Reading.membersFault?, Reading.skipFault?] at faultless
  · cases h
    cases faultless

theorem getsThrough (fuel : Nat) : GetsThrough fuel := by
  induction fuel with
  | zero => exact getsThrough_zero
  | succ fuel ih => exact ⟨ih.value_succ, ih.items_succ, ih.members_succ, ih.member_succ⟩

/-- A text without a fault is spelled by the grammar, and its reading is that of the spelling. -/
theorem exists_of_document {text : String} {r : Reading} (read : document text = (r, none))
    (faultless : r.skipFault? = none) :
    ∃ d : Document, d.text = text ∧ r = d.value.reading 0 := by
  unfold document at read
  cases found : value (3 * text.length + 3) 0 text.toList with
  | mk r' after =>
      rw [found] at read
      obtain ⟨rfl, ended⟩ := Prod.mk.inj read
      obtain ⟨before, s, rest, spelled, rfl, rfl⟩ := (getsThrough _).value found faultless
      obtain ⟨behind, trailing⟩ := exists_blanks rest
      have blank : skipBlanks rest = [] := by
        simpa [endFault?] using ended
      rw [blank, List.append_nil] at trailing
      refine ⟨⟨before, s, behind⟩, ?_, rfl⟩
      rw [Document.text, ← trailing, List.append_assoc, ← spelled, String.ofList_toList]

theorem goes_through_iff {text : String} :
    (∃ r, document text = (r, none) ∧ r.skipFault? = none) ↔ ∃ d : Document, d.text = text := by
  constructor
  · rintro ⟨r, read, faultless⟩
    obtain ⟨d, spelled, -⟩ := exists_of_document read faultless
    exact ⟨d, spelled⟩
  · rintro ⟨d, rfl⟩
    exact ⟨d.value.reading 0, document_text d, d.value.skipFault?_reading 0⟩

end JsonReader

end QueryBinding

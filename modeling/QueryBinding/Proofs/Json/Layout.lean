import QueryBinding.Json.Faultless
import QueryBinding.Json.Writer
import QueryBinding.Proofs.Json.Reading

/-! # Written values are read back

The writer spells a value by the grammar, with line breaks for blanks and few escapes, and the
spelling stands for the value. Main statement: `document_pretty`, that reading what was written
comes out at the reading without faults. -/

namespace QueryBinding

namespace JsonText

theorem hexQuad?_control : ∀ n < 0x20,
    hexQuad? '0' '0' (Nat.digitChar (n / 16)) (Nat.digitChar (n % 16)) = some n := by
  decide

theorem exists_written (c : Char) :
    ∃ u : SpelledUnit, u.chars = written c ∧
      ∀ units ending, join (u.unit :: units) ending = (join units ending).map (c :: ·) := by
  unfold written
  split
  · next quote => exact ⟨.short '"' c (by rw [quote]; rfl), rfl, fun _ _ => rfl⟩
  split
  · next slash => exact ⟨.short '\\' c (by rw [slash]; rfl), rfl, fun _ _ => rfl⟩
  split
  · next back => exact ⟨.short 'b' c (by rw [back]; rfl), rfl, fun _ _ => rfl⟩
  split
  · next tab => exact ⟨.short 't' c (by rw [tab]; rfl), rfl, fun _ _ => rfl⟩
  split
  · next line => exact ⟨.short 'n' c (by rw [line]; rfl), rfl, fun _ _ => rfl⟩
  split
  · next feed => exact ⟨.short 'f' c (by rw [feed]; rfl), rfl, fun _ _ => rfl⟩
  split
  · next carriage => exact ⟨.short 'r' c (by rw [carriage]; rfl), rfl, fun _ _ => rfl⟩
  split
  · next control =>
      have quad := hexQuad?_control c.toNat control
      refine ⟨.hex _ _ _ _ _ quad, rfl, fun units ending => ?_⟩
      have trailing : ¬ isTrailing c.toNat := by unfold isTrailing; omega
      have leading : ¬ isLeading c.toNat := by unfold isLeading; omega
      rw [SpelledUnit.unit, join.eq_def]
      simp only [trailing, leading, if_false, Char.ofNat_toNat]
  · next quote slash _ _ _ _ _ control =>
      exact ⟨.plain c ⟨quote, slash, Nat.not_lt.mp control⟩, rfl, fun _ _ => rfl⟩

theorem exists_joined (text : List Char) :
    ∃ t : SpelledText, t.chars = write text ∧ t.joined = .ok text := by
  induction text with
  | nil => exact ⟨⟨[]⟩, rfl, rfl⟩
  | cons c text ih =>
      obtain ⟨u, spelled, stands⟩ := exists_written c
      obtain ⟨t, chars, joined⟩ := ih
      refine ⟨t.cons u, ?_, ?_⟩
      · simp only [SpelledText.chars, write, List.cons_append, List.cons.injEq, true_and] at chars ⊢
        rw [t.body_cons, spelled, chars, List.flatMap_cons, List.append_assoc]
      · rw [SpelledText.joined] at joined ⊢
        rw [SpelledText.cons, List.map_cons, stands, joined]
        rfl

/-- Written text is a spelled string that stands for it. -/
theorem exists_write (text : String) :
    ∃ t : SpelledText, t.chars = write text.toList ∧ t.text? = some text := by
  obtain ⟨t, written, joined⟩ := exists_joined text.toList
  refine ⟨t, written, ?_⟩
  rw [SpelledText.text?, joined, Except.toOption, Option.map_some, String.ofList_toList]

end JsonText

namespace JsonNumber

theorem accumulate_concat {bound n k : Nat} {cs : List Char} {c : Char}
    (taken : accumulate bound n cs = (k, []))
    (small : 10 * k + (c.toNat - '0'.toNat) < bound) :
    accumulate bound n (cs ++ [c]) = (10 * k + (c.toNat - '0'.toNat), []) := by
  induction cs generalizing n with
  | nil =>
      cases taken
      rw [List.nil_append, accumulate, if_pos small, accumulate]
  | cons d cs ih =>
      rw [accumulate] at taken
      split at taken
      · next within =>
          rw [List.cons_append, accumulate, if_pos within]
          exact ih taken
      · cases taken

theorem accumulate_toDigits {bound n : Nat} (small : n < bound) :
    accumulate bound 0 (Nat.toDigits 10 n) = (n, []) := by
  have value {d : Nat} (h : d < 10) : (Nat.digitChar d).toNat - '0'.toNat = d := by
    rw [Nat.toNat_digitChar_of_lt_ten h]
    exact Nat.add_sub_cancel_left _ _
  induction n using Nat.strong_induction_on with
  | _ n ih =>
      rw [Nat.toDigits_eq_if (by decide)]
      split
      · next single =>
          rw [accumulate, value single, Nat.mul_zero, Nat.zero_add, if_pos small, accumulate]
      · next several =>
          have last := value (Nat.mod_lt n (by decide : 0 < 10))
          have whole : 10 * (n / 10) + n % 10 = n := Nat.div_add_mod n 10
          have taken := ih (n / 10) (by omega) (by omega)
          rw [accumulate_concat taken (by rw [last, whole]; exact small), last, whole]

theorem toDigits_ne_zero_cons (n : Nat) (c : Char) (rest : List Char) :
    Nat.toDigits 10 n ≠ '0' :: c :: rest := by
  induction n using Nat.strong_induction_on generalizing c rest with
  | _ n ih =>
      rw [Nat.toDigits_eq_if (by decide)]
      split
      · exact fun h => List.cons_ne_nil c rest (List.cons.inj h).2.symm
      · next several =>
          have whole := accumulate_toDigits (Nat.lt_succ_self (n / 10))
          have zeros := ih (n / 10) (by omega)
          intro h
          -- What stands before the last digit starts with a zero, and is neither zero alone nor
          -- a zero with more behind it.
          match digits : Nat.toDigits 10 (n / 10) with
          | [] => exact Nat.toDigits_ne_nil digits
          | d :: d' :: more =>
              rw [digits, List.cons_append] at h
              exact zeros d' more (by rw [digits, (List.cons.inj h).1])
          | [d] =>
              rw [digits] at h whole
              rw [(List.cons.inj h).1] at whole
              have zero : 0 = n / 10 := congrArg Prod.fst whole
              omega

theorem exists_natural (n : UInt64) :
    ∃ m : SpelledNumber, m.chars = (Number.natural n).text.toList ∧
      m.digits.value? = some (.natural n) := by
  have areDigits : AreDigits (Nat.toDigits 10 n.toNat) :=
    ⟨Nat.toDigits_ne_nil, fun c => Nat.isDigit_of_mem_toDigits (by decide) (by decide)⟩
  refine ⟨⟨false, Nat.toDigits 10 n.toNat, none, none, areDigits, toDigits_ne_zero_cons _, nofun⟩,
    ?_, ?_⟩
  · simp [SpelledNumber.chars, SpelledNumber.sign, SpelledNumber.fractionChars,
      SpelledNumber.exponentChars, Number.text]
  · have taken := accumulate_toDigits n.toNat_lt
    simp [SpelledNumber.digits, Digits.value?, Digits.integer?, wordBound, taken]

end JsonNumber

namespace Json

mutual

/-- Whether all numbers in a value are naturals. -/
def IsWhole : Json → Prop
  | number (.natural _) => True
  | number _ => False
  | array items => AreWhole items
  | object members => MembersAreWhole members
  | _ => True

def AreWhole : List Json → Prop
  | [] => True
  | item :: items => item.IsWhole ∧ AreWhole items

def MembersAreWhole : List (String × Json) → Prop
  | [] => True
  | (_, value) :: members => value.IsWhole ∧ MembersAreWhole members

end

theorem areWhole_iff {items : List Json} : AreWhole items ↔ ∀ item ∈ items, item.IsWhole := by
  induction items with
  | nil => simp [AreWhole]
  | cons item items ih => simp [AreWhole, ih]

theorem membersAreWhole_iff {members : List (String × Json)} :
    MembersAreWhole members ↔ ∀ m ∈ members, m.2.IsWhole := by
  induction members with
  | nil => simp [MembersAreWhole]
  | cons m members ih => simp [MembersAreWhole, ih]

theorem itemReadings_eq_map (items : List Json) : itemReadings items = items.map reading := by
  induction items with
  | nil => rfl
  | cons item items ih => rw [itemReadings, ih, List.map_cons]

theorem itemsDepth_le_iff {items : List Json} {n : Nat} :
    itemsDepth items ≤ n ↔ ∀ item ∈ items, item.depth ≤ n := by
  induction items with
  | nil => simp [itemsDepth]
  | cons item items ih => rw [itemsDepth, Nat.max_le, ih, List.forall_mem_cons]

theorem membersDepth_le_iff {members : List (String × Json)} {n : Nat} :
    membersDepth members ≤ n ↔ ∀ m ∈ members, m.2.depth ≤ n := by
  induction members with
  | nil => simp [membersDepth]
  | cons m members ih => rw [membersDepth, Nat.max_le, ih, List.forall_mem_cons]

/-- The line break in front of an item. -/
def lineBlanks (depth : Nat) : Blanks where
  chars := lineBreak depth
  blank c member := by
    obtain rfl | indent := List.mem_cons.mp member
    · rfl
    · rw [(List.mem_replicate.mp indent).2]
      rfl

mutual

/-- A written value is spelled by the grammar and stands for the value. -/
theorem exists_spelling (j : Json) (whole : j.IsWhole) (depth : Nat) :
    ∃ s : Spelling, s.chars = j.chars depth ∧ s.value? = some j := by
  match j with
  | null => exact ⟨.null, by rw [Spelling.chars, chars]; rfl, rfl⟩
  | bool true => exact ⟨.bool true, by rw [Spelling.chars, chars]; rfl, rfl⟩
  | bool false => exact ⟨.bool false, by rw [Spelling.chars, chars]; rfl, rfl⟩
  | number (.natural n) =>
      obtain ⟨m, written, value⟩ := JsonNumber.exists_natural n
      exact ⟨.number m, by rw [Spelling.chars, chars, written], by rw [Spelling.value?, value]; rfl⟩
  | string text =>
      obtain ⟨t, written, value⟩ := JsonText.exists_write text
      exact ⟨.string t, by rw [Spelling.chars, chars, written], by rw [Spelling.value?, value]; rfl⟩
  | array [] => exact ⟨.array [] .none, by rw [Spelling.chars, Spelling.itemChars, chars]; rfl, rfl⟩
  | array (item :: items) =>
      rw [IsWhole, AreWhole] at whole
      obtain ⟨s, written, value⟩ := exists_spelling item whole.1 (depth + 1)
      obtain ⟨placed, others, values⟩ :=
        exists_itemSpellings items whole.2 (depth + 1) (lineBlanks depth)
      refine ⟨.array (⟨.none, lineBlanks (depth + 1), s⟩ :: placed) (lineBlanks depth), ?_, ?_⟩
      · rw [Spelling.chars, Spelling.itemChars, others, written, chars]
        simp [leadChars, Blanks.none, lineBlanks]
      · rw [Spelling.value?, Spelling.itemValues?, value, values]
        rfl
  | object [] =>
      exact ⟨.object [] .none, by rw [Spelling.chars, Spelling.memberChars, chars]; rfl, rfl⟩
  | object ((key, member) :: members) =>
      rw [IsWhole, MembersAreWhole] at whole
      obtain ⟨t, writtenKey, name⟩ := JsonText.exists_write key
      obtain ⟨s, written, value⟩ := exists_spelling member whole.1 (depth + 1)
      obtain ⟨placed, others, values⟩ :=
        exists_memberSpellings members whole.2 (depth + 1) (lineBlanks depth)
      refine ⟨.object (⟨.none, lineBlanks (depth + 1), t, .none, .space, s⟩ :: placed)
        (lineBlanks depth), ?_, ?_⟩
      · rw [Spelling.chars, Spelling.memberChars, others, written, writtenKey, chars]
        simp [leadChars, Blanks.none, Blanks.space, lineBlanks]
      · rw [Spelling.value?, Spelling.memberValues?, name, value, values]
        rfl

theorem exists_itemSpellings (items : List Json) (whole : AreWhole items) (depth : Nat)
    (closing : Blanks) :
    ∃ placed : List (Placed Spelling),
      Spelling.itemChars false placed closing = itemChars depth items ++ closing.chars ++ [']'] ∧
      Spelling.itemValues? placed = some items := by
  match items with
  | [] => exact ⟨[], by rw [Spelling.itemChars, itemChars, List.nil_append], rfl⟩
  | item :: items =>
      rw [AreWhole] at whole
      obtain ⟨s, written, value⟩ := exists_spelling item whole.1 depth
      obtain ⟨placed, others, values⟩ := exists_itemSpellings items whole.2 depth closing
      refine ⟨⟨.none, lineBlanks depth, s⟩ :: placed, ?_, ?_⟩
      · rw [Spelling.itemChars, others, written, itemChars]
        simp [leadChars, Blanks.none, lineBlanks]
      · rw [Spelling.itemValues?, value, values]
        rfl

theorem exists_memberSpellings (members : List (String × Json)) (whole : MembersAreWhole members)
    (depth : Nat) (closing : Blanks) :
    ∃ placed : List (Placed (SpelledMember Spelling)),
      Spelling.memberChars false placed closing =
        memberChars depth members ++ closing.chars ++ ['\x7d'] ∧
      Spelling.memberValues? placed = some members := by
  match members with
  | [] => exact ⟨[], by rw [Spelling.memberChars, memberChars, List.nil_append], rfl⟩
  | (key, member) :: members =>
      rw [MembersAreWhole] at whole
      obtain ⟨t, writtenKey, name⟩ := JsonText.exists_write key
      obtain ⟨s, written, value⟩ := exists_spelling member whole.1 depth
      obtain ⟨placed, others, values⟩ := exists_memberSpellings members whole.2 depth closing
      refine ⟨⟨.none, lineBlanks depth, t, .none, .space, s⟩ :: placed, ?_, ?_⟩
      · rw [Spelling.memberChars, others, written, writtenKey, memberChars]
        simp [leadChars, Blanks.none, Blanks.space, lineBlanks]
      · rw [Spelling.memberValues?, name, value, values]
        rfl

end

end Json

/-! ### The reading of what stands for a value -/

theorem SpelledText.reading_of_text? {t : SpelledText} {text : String} (h : t.text? = some text) :
    t.reading = .string text ∧ t.key = .name text := by
  unfold reading key
  unfold text? at h
  cases joined : t.joined with
  | ok chars =>
      rw [joined] at h
      cases h
      exact ⟨rfl, rfl⟩
  | error f =>
      rw [joined] at h
      cases h

namespace Spelling

mutual

/-- A spelling that stands for a value is read as the value, unless its brackets go too deep. -/
theorem reading_of_value? (s : Spelling) {j : Json} {depth : Nat} (h : s.value? = some j)
    (shallow : depth + j.depth ≤ JsonReader.deepest) : s.reading depth = j.reading := by
  match s with
  | null =>
      rw [value?] at h
      cases h
      rfl
  | bool value =>
      rw [value?] at h
      cases h
      rfl
  | number n =>
      rw [value?] at h
      obtain ⟨v, taken, rfl⟩ := Option.map_eq_some_iff.mp h
      rw [reading, SpelledNumber.reading, taken]
      rfl
  | string t =>
      rw [value?] at h
      obtain ⟨text, taken, rfl⟩ := Option.map_eq_some_iff.mp h
      exact (t.reading_of_text? taken).1
  | array items closing =>
      rw [value?] at h
      obtain ⟨js, taken, rfl⟩ := Option.map_eq_some_iff.mp h
      rw [Json.depth] at shallow
      have inside : depth < JsonReader.deepest := by omega
      rw [reading, JsonReader.arrayAt, if_pos inside, Json.reading,
        itemReadings_of_value? items taken (by omega)]
  | object members closing =>
      rw [value?] at h
      obtain ⟨js, taken, rfl⟩ := Option.map_eq_some_iff.mp h
      rw [Json.depth] at shallow
      have inside : depth < JsonReader.deepest := by omega
      rw [reading, JsonReader.objectAt, if_pos inside, Json.reading,
        memberReadings_of_value? members taken (by omega)]

theorem itemReadings_of_value? (items : List (Placed Spelling)) {js : List Json} {depth : Nat}
    (h : itemValues? items = some js) (shallow : depth + Json.itemsDepth js ≤ JsonReader.deepest) :
    itemReadings depth items = Json.itemReadings js := by
  match items with
  | [] =>
      cases h
      rfl
  | ⟨gap, indent, item⟩ :: items =>
      simp only [itemValues?, Option.bind_eq_bind, Option.bind_eq_some_iff, Option.some.injEq] at h
      obtain ⟨value, first, values, others, rfl⟩ := h
      rw [Json.itemsDepth] at shallow
      rw [itemReadings, Json.itemReadings, reading_of_value? item first (by omega),
        itemReadings_of_value? items others (by omega)]

theorem memberReadings_of_value? (members : List (Placed (SpelledMember Spelling)))
    {js : List (String × Json)} {depth : Nat} (h : memberValues? members = some js)
    (shallow : depth + Json.membersDepth js ≤ JsonReader.deepest) :
    memberReadings depth members = Json.memberReadings js := by
  match members with
  | [] =>
      cases h
      rfl
  | ⟨gap, indent, key, beforeColon, afterColon, member⟩ :: members =>
      simp only [memberValues?, Option.bind_eq_bind, Option.bind_eq_some_iff,
        Option.some.injEq] at h
      obtain ⟨name, named, value, first, values, others, rfl⟩ := h
      rw [Json.membersDepth] at shallow
      rw [memberReadings, Json.memberReadings, (key.reading_of_text? named).2,
        reading_of_value? member first (by omega),
        memberReadings_of_value? members others (by omega)]

end

end Spelling

/-- A text that stands for a value is read without a fault, however it is spelled. -/
theorem JsonReader.document_of_value? {d : Document} {j : Json} (stands : d.value.value? = some j)
    (shallow : j.depth ≤ deepest) : document d.text = (j.reading, none) := by
  rw [document_text, d.value.reading_of_value? stands (by omega)]

theorem Json.exists_document (j : Json) (whole : j.IsWhole) :
    ∃ d : Document, d.text = j.pretty ∧ d.value.value? = some j := by
  obtain ⟨s, written, value⟩ := j.exists_spelling whole 0
  refine ⟨⟨.none, s, .none⟩, ?_, value⟩
  simp [Document.text, Blanks.none, written, pretty]

theorem JsonReader.document_pretty {j : Json} (whole : j.IsWhole) (shallow : j.depth ≤ deepest) :
    document j.pretty = (j.reading, none) := by
  obtain ⟨d, written, stands⟩ := j.exists_document whole
  rw [← written]
  exact document_of_value? stands shallow

end QueryBinding

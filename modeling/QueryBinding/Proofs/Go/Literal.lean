import QueryBinding.Binding.Struct
import QueryBinding.Table
import QueryBinding.Proofs.Text.Joined

/-! # Slice literals are read back

A character is spelled in one of three ways between the quotes, and the reader comes out at the
character whatever follows. Main statement: `slice_literals_exact`, that the spelling of a list of
texts is read as that list, which holds for the columns of a bulk insert and for the parts of its
table. -/

namespace QueryBinding.Go

theorem hexEscapeValue?_digits : ∀ n < 0x80,
    hexEscapeValue? (Nat.digitChar (n / 16)) (Nat.digitChar (n % 16)) = some (Char.ofNat n) := by
  decide

/-- How a character may be spelled between quotes: as itself, by the letter of its escape, or by its
digits. -/
inductive Spells (c : Char) : List Char → Prop
  | plain : c ≠ '"' → c ≠ '\\' → c ≠ '\n' → Spells c [c]
  | letter {letter : Char} : escapeValue? letter = some c → Spells c ['\\', letter]
  | digits {high low : Char} : hexEscapeValue? high low = some c → Spells c ['\\', 'x', high, low]

theorem spells_literalChar (c : Char) : Spells c (literalChar c) := by
  fun_cases literalChar c with
  | case1 quote => exact .letter (congrArg some quote.symm)
  | case2 _ slash => exact .letter (congrArg some slash.symm)
  | case3 _ _ line => exact .letter (congrArg some line.symm)
  | case4 _ _ _ carriage => exact .letter (congrArg some carriage.symm)
  | case5 _ _ _ _ tab => exact .letter (congrArg some tab.symm)
  | case6 _ _ _ _ _ bell => exact .letter (congrArg some bell.symm)
  | case7 _ _ _ _ _ _ back => exact .letter (congrArg some back.symm)
  | case8 _ _ _ _ _ _ _ vertical => exact .letter (congrArg some vertical.symm)
  | case9 _ _ _ _ _ _ _ _ feed => exact .letter (congrArg some feed.symm)
  | case10 _ _ _ _ _ _ _ _ _ control =>
      have small : c.toNat < 0x80 := by
        rcases control with below | rfl
        · omega
        · decide
      apply Spells.digits
      rw [hexEscapeValue?_digits c.toNat small, Char.ofNat_toNat]
  | case11 quote slash line => exact .plain quote slash line

theorem readLiteralBody_plain {c : Char} (quote : c ≠ '"') (slash : c ≠ '\\') (line : c ≠ '\n')
    (rest : List Char) :
    readLiteralBody (c :: rest) = (readLiteralBody rest).map fun p => (c :: p.1, p.2) := by
  rw [readLiteralBody.eq_def]
  split
  · next empty => cases empty
  · next same => exact absurd (List.cons.inj same).1 quote
  · next same => exact absurd (List.cons.inj same).1 slash
  · next same => exact absurd (List.cons.inj same).1 slash
  · next same =>
      cases same
      rw [if_neg (not_or.mpr ⟨slash, line⟩)]
      cases readLiteralBody rest with
      | none => rfl
      | some p => rfl

theorem readLiteralBody_letter {letter c : Char} (escape : escapeValue? letter = some c)
    (rest : List Char) :
    readLiteralBody ('\\' :: letter :: rest) =
      (readLiteralBody rest).map fun p => (c :: p.1, p.2) := by
  have no_digits : letter ≠ 'x' := by
    rintro rfl
    cases escape
  rw [readLiteralBody.eq_def]
  split
  · next empty => cases empty
  · next same => exact absurd (List.cons.inj same).1 (by decide)
  · next same => exact absurd (List.cons.inj (List.cons.inj same).2).1 no_digits
  · next same =>
      cases same
      rw [escape]
      cases readLiteralBody rest with
      | none => rfl
      | some p => rfl
  · next no_letter same =>
      -- The last row of the reader is for what the row of the letters refuses.
      cases same
      exact absurd rfl (no_letter letter rest rfl)

theorem readLiteralBody_digits {high low c : Char} (escape : hexEscapeValue? high low = some c)
    (rest : List Char) :
    readLiteralBody ('\\' :: 'x' :: high :: low :: rest) =
      (readLiteralBody rest).map fun p => (c :: p.1, p.2) := by
  rw [readLiteralBody, escape]
  cases readLiteralBody rest with
  | none => rfl
  | some p => rfl

theorem Spells.read {c : Char} {chars : List Char} (spells : Spells c chars) (rest : List Char) :
    readLiteralBody (chars ++ rest) = (readLiteralBody rest).map fun p => (c :: p.1, p.2) := by
  cases spells with
  | plain quote slash line => exact readLiteralBody_plain quote slash line rest
  | letter escape => exact readLiteralBody_letter escape rest
  | digits escape => exact readLiteralBody_digits escape rest

/-- The literal of a text ends at its own closing quote, whatever stands in it or behind it. -/
theorem readLiteralBody_literal (text rest : List Char) :
    readLiteralBody (text.flatMap literalChar ++ '"' :: rest) = some (text, rest) := by
  induction text with
  | nil => rfl
  | cons c text ih =>
      rw [List.flatMap_cons, List.append_assoc, (spells_literalChar c).read, ih]
      rfl

theorem literalChars_append (text rest : List Char) :
    literalChars text ++ rest = '"' :: (text.flatMap literalChar ++ '"' :: rest) := by
  rw [literalChars, List.append_assoc]
  rfl

theorem readElements_last (fuel : Nat) (text : List Char) :
    readElements (fuel + 1) (literalChars text ++ ['\x7d']) = some [text] := by
  rw [literalChars_append, readElements]
  change (readLiteralBody (text.flatMap literalChar ++ ['"', '\x7d'])).bind _ = _
  rw [readLiteralBody_literal]
  rfl

theorem readElements_more (fuel : Nat) (text rest : List Char) :
    readElements (fuel + 1) (literalChars text ++ ',' :: rest) =
      (readElements fuel rest).map (text :: ·) := by
  rw [literalChars_append, readElements]
  change (readLiteralBody (text.flatMap literalChar ++ '"' :: ',' :: rest)).bind _ = _
  rw [readLiteralBody_literal]
  change (readElements fuel rest).bind (fun texts => some (text :: texts)) = _
  cases readElements fuel rest with
  | none => rfl
  | some texts => rfl

theorem readElements_blank (fuel : Nat) (cs : List Char) :
    readElements fuel (' ' :: cs) = readElements fuel cs := by
  cases fuel with
  | zero => rfl
  | succ fuel => rfl

/-- How a further element of a slice literal is spelled. -/
def furtherChars (text : List Char) : List Char := [',', ' '] ++ literalChars text

theorem readElements_literals {text : List Char} {texts : List (List Char)} {fuel : Nat}
    (enough : texts.length < fuel) :
    readElements fuel (literalChars text ++ (texts.flatMap furtherChars ++ ['\x7d'])) =
      some (text :: texts) := by
  induction texts generalizing text fuel with
  | nil =>
      obtain ⟨fuel, rfl⟩ := Nat.exists_eq_succ_of_ne_zero (Nat.ne_zero_of_lt enough)
      exact readElements_last fuel text
  | cons second texts ih =>
      obtain ⟨fuel, rfl⟩ := Nat.exists_eq_succ_of_ne_zero (Nat.ne_zero_of_lt enough)
      rw [List.flatMap_cons, furtherChars, List.append_assoc, List.append_assoc, List.cons_append,
        List.cons_append, List.nil_append, readElements_more, readElements_blank,
        ih (Nat.lt_of_succ_lt_succ enough)]
      rfl

theorem toList_stringSlice_cons (first : String) (rest : List String) :
    (stringSlice (first :: rest)).toList =
      "[]string\x7b".toList ++
        (literalChars first.toList ++
          ((rest.map String.toList).flatMap furtherChars ++ ['\x7d'])) := by
  rw [stringSlice, String.toList_append, String.toList_append, Text.toList_intercalate_map,
    List.append_assoc, List.append_assoc, List.flatMap_map]
  simp only [literal, String.toList_ofList]
  rfl

theorem readStringSlice_stringSlice (texts : List String) :
    readStringSlice (stringSlice texts) = some texts := by
  cases texts with
  | nil => decide
  | cons first rest =>
      -- Each literal has a quote, so the characters left are fuel enough for the literals left.
      have enough : (rest.map String.toList).length <
          (literalChars first.toList ++
            ((rest.map String.toList).flatMap furtherChars ++ ['\x7d'])).length := by
        rw [List.length_append, List.length_append]
        exact Nat.lt_add_left _ (Nat.lt_succ_of_le
          (Text.length_le_flatMap furtherChars (fun _ => List.cons_ne_nil _ _) _))
      rw [readStringSlice, Text.dropPrefix?_eq_some_iff.mpr (toList_stringSlice_cons first rest),
        Option.bind_eq_bind, Option.bind_some, readElements_literals enough]
      simp only [Option.bind_eq_bind, Option.bind_some, List.map_cons, List.map_map,
        Function.comp_def, String.ofList_toList, List.map_id']

theorem stringSlice_inj {texts others : List String} :
    stringSlice texts = stringSlice others ↔ texts = others := by
  constructor
  · intro same
    have read := congrArg readStringSlice same
    rw [readStringSlice_stringSlice, readStringSlice_stringSlice] at read
    exact Option.some.inj read
  · intro same
    exact congrArg stringSlice same

/-- The slice literal of a list of texts denotes that list and no other. So the list of columns of a
bulk insert denotes the names of its columns, which of a record are those of its fields in order,
and the table of a bulk insert denotes the parts of its name that are there. -/
theorem slice_literals_exact :
    (∀ texts, readStringSlice (stringSlice texts) = some texts) ∧
    (∀ texts others, stringSlice texts = stringSlice others ↔ texts = others) ∧
    (∀ b : Binding, readStringSlice b.listedNamesText = some b.listedNames) ∧
    (∀ owner r asStruct byPointer arrays,
      readStringSlice (Binding.listedNamesText ⟨.record owner r, asStruct, byPointer, arrays⟩) =
        some (r.fields.map (·.listedName))) ∧
    ∀ t : TableName, readStringSlice (t.spelled .postgresql) = some t.parts := by
  refine ⟨readStringSlice_stringSlice, fun _ _ => stringSlice_inj, ?_, ?_, ?_⟩
  · intro b
    exact readStringSlice_stringSlice b.listedNames
  · intro owner r asStruct byPointer arrays
    exact readStringSlice_stringSlice _
  · intro t
    exact readStringSlice_stringSlice t.parts

end QueryBinding.Go

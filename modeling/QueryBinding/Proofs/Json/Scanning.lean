import Mathlib.Data.List.TakeWhile
import QueryBinding.Json.Spelling
import QueryBinding.Proofs.Query.Checks

/-! # Scanning what is spelled

Blanks, literals, strings and numbers are scanned off the front of a text. A scanner stops right
behind what is spelled there, and it gets through only where something is spelled; so what a scan
goes over and what can be spelled are the same. -/

namespace QueryBinding

namespace JsonReader

theorem skipBlanks_append (b : Blanks) (cs : List Char) :
    skipBlanks (b.chars ++ cs) = skipBlanks cs :=
  List.dropWhile_append_of_pos b.blank

theorem skipBlanks_cons {c : Char} (rest : List Char) (h : isBlank c = false) :
    skipBlanks (c :: rest) = c :: rest :=
  List.dropWhile_cons_of_neg (by simp [h])

theorem skipBlanks_chars (b : Blanks) : skipBlanks b.chars = [] :=
  List.dropWhile_eq_nil_iff.mpr b.blank

theorem exists_blanks (cs : List Char) : ∃ b : Blanks, cs = b.chars ++ skipBlanks cs :=
  ⟨⟨cs.takeWhile isBlank, fun _ => List.mem_takeWhile_imp⟩, List.takeWhile_append_dropWhile.symm⟩

theorem word_append (start : Char) (value : Reading) (letters rest : List Char) :
    word start value letters (letters ++ rest) = (value, some rest) := by
  induction letters with
  | nil => rfl
  | cons c letters ih => simpa [word] using ih

theorem exists_of_word {start : Char} {value r : Reading} {letters cs : List Char}
    {after : Option (List Char)} (h : word start value letters cs = (r, after))
    (faultless : r.skipFault? = none) :
    ∃ rest, cs = letters ++ rest ∧ r = value ∧ after = some rest := by
  induction letters generalizing cs with
  | nil =>
      cases h
      exact ⟨cs, rfl, rfl, rfl⟩
  | cons c letters ih =>
      cases cs with
      | nil =>
          cases h
          cases faultless
      | cons d cs =>
          rw [word] at h
          split at h
          · next same =>
              obtain ⟨rest, rfl, read⟩ := ih h
              exact ⟨rest, by rw [same, List.cons_append], read⟩
          · cases h
            cases faultless

end JsonReader

namespace JsonText

theorem cons_eq_iff {u : TextUnit} {scanned : List TextUnit × Except Fault (List Char)}
    {units : List TextUnit} {after : Except Fault (List Char)} :
    cons u scanned = (units, after) ↔
      ∃ others, scanned = (others, after) ∧ u :: others = units := by
  obtain ⟨others, behind⟩ := scanned
  simp [cons, and_comm]

/-- A string that is cut short has no text. -/
theorem join_cut (units : List TextUnit) (f : Fault) (text : List Char) :
    join units (some f) ≠ .ok text := by
  generalize cut : some f = ending
  intro joined
  fun_induction join units ending generalizing text with
  | case1 => cases cut
  | case3 c units ending ih =>
      obtain ⟨text, joined, -⟩ := map_eq_ok_iff.mp joined
      exact ih text cut joined
  | case5 n ending _ _ m units _ ih =>
      obtain ⟨text, joined, -⟩ := map_eq_ok_iff.mp joined
      exact ih text cut joined
  | case9 n units ending _ _ ih =>
      obtain ⟨text, joined, -⟩ := map_eq_ok_iff.mp joined
      exact ih text cut joined
  | _ => cases joined

end JsonText

namespace SpelledUnit

theorem scan_chars (u : SpelledUnit) (rest : List Char) :
    JsonText.scan (u.chars ++ rest) = JsonText.cons u.unit (JsonText.scan rest) := by
  cases u with
  | plain c unescaped =>
      obtain ⟨-, backslash, visible⟩ := unescaped
      have high : ¬ c.toNat < 0x20 := Nat.not_lt.mpr visible
      simp [chars, unit, JsonText.scan, backslash, high]
  | short letter value escape =>
      have other : letter ≠ 'u' := by
        rintro rfl
        cases escape
      simp [chars, unit, JsonText.scan, escape]
  | hex a b c d n quad => simp [chars, unit, JsonText.scan, quad]

end SpelledUnit

namespace SpelledText

theorem scan_body (t : SpelledText) (rest : List Char) :
    JsonText.scan (t.body ++ rest) = (t.units.map SpelledUnit.unit, .ok rest) := by
  obtain ⟨units⟩ := t
  induction units with
  | nil => rfl
  | cons u units ih =>
      simp only [body, List.flatMap_cons, List.append_assoc, SpelledUnit.scan_chars] at ih ⊢
      rw [ih]
      rfl

/-- One more unit in front of a string. -/
def cons (u : SpelledUnit) (t : SpelledText) : SpelledText := ⟨u :: t.units⟩

theorem body_cons (u : SpelledUnit) (t : SpelledText) : (t.cons u).body = u.chars ++ t.body := by
  simp [cons, body]

/-- A scan that comes to a closing quote has gone over a spelled string. -/
theorem exists_of_scan {cs rest : List Char} {units : List JsonText.TextUnit}
    (h : JsonText.scan cs = (units, .ok rest)) :
    ∃ t : SpelledText, cs = t.body ++ rest ∧ t.units.map SpelledUnit.unit = units := by
  have prepend {u : SpelledUnit} {behind : List Char} {units : List JsonText.TextUnit}
      (whole : JsonText.cons u.unit (JsonText.scan behind) = (units, .ok rest))
      (ih : ∀ {units}, JsonText.scan behind = (units, .ok rest) →
        ∃ t : SpelledText, behind = t.body ++ rest ∧ t.units.map SpelledUnit.unit = units) :
      ∃ t : SpelledText, u.chars ++ behind = t.body ++ rest ∧
        t.units.map SpelledUnit.unit = units := by
    obtain ⟨others, scanned, rfl⟩ := JsonText.cons_eq_iff.mp whole
    obtain ⟨t, rfl, rfl⟩ := ih scanned
    exact ⟨t.cons u, by rw [body_cons, List.append_assoc], rfl⟩
  fun_induction JsonText.scan cs generalizing units with
  | case1 => cases h
  | case2 =>
      cases h
      exact ⟨⟨[]⟩, rfl, rfl⟩
  | case3 => cases h
  | case4 a b c d behind n quad ih => exact prepend (u := .hex a b c d n quad) h ih
  | case5 => cases h
  | case6 => cases h
  | case7 letter behind _ c escape ih => exact prepend (u := .short letter c escape) h ih
  | case8 => cases h
  | case9 => cases h
  | case10 c behind quote cut hex short visible ih =>
      have unescaped : c ≠ '"' ∧ c ≠ '\\' ∧ 0x20 ≤ c.toNat := by
        refine ⟨quote, fun backslash => ?_, Nat.not_lt.mp visible⟩
        cases behind with
        | nil => exact cut backslash rfl
        | cons letter behind => exact short letter behind backslash rfl
      exact prepend (u := .plain c unescaped) h ih

theorem string_body (t : SpelledText) (rest : List Char) :
    JsonReader.string (t.body ++ rest) = (t.reading, some rest) := by
  unfold JsonReader.string reading joined
  simp only [scan_body, faultOf]
  cases JsonText.join (t.units.map SpelledUnit.unit) none with
  | ok text => rfl
  | error f => rfl

theorem key_body (t : SpelledText) (rest : List Char) :
    JsonReader.key (t.body ++ rest) = (t.key, .ok rest) := by
  unfold JsonReader.key key joined
  simp only [scan_body, faultOf]
  cases JsonText.join (t.units.map SpelledUnit.unit) none with
  | ok text => rfl
  | error f => rfl

theorem exists_of_string {cs : List Char} {r : Reading} {after : Option (List Char)}
    (h : JsonReader.string cs = (r, after)) (faultless : r.skipFault? = none) :
    ∃ (t : SpelledText) (rest : List Char),
      cs = t.body ++ rest ∧ r = t.reading ∧ after = some rest := by
  cases scanned : JsonText.scan cs with
  | mk units behind =>
      cases behind with
      | ok rest =>
          obtain ⟨t, rfl, -⟩ := exists_of_scan scanned
          rw [string_body] at h
          cases h
          exact ⟨t, rest, rfl, rfl, rfl⟩
      | error f =>
          unfold JsonReader.string at h
          simp only [scanned, faultOf] at h
          cases joined : JsonText.join units (some f) with
          | ok text => exact (JsonText.join_cut units f text joined).elim
          | error f' =>
              rw [joined] at h
              cases h
              cases faultless

theorem exists_of_key {cs rest : List Char} {k : Key} (h : JsonReader.key cs = (k, .ok rest)) :
    ∃ t : SpelledText, cs = t.body ++ rest ∧ k = t.key := by
  cases scanned : JsonText.scan cs with
  | mk units behind =>
      have found : behind = .ok rest := by
        unfold JsonReader.key at h
        simp only [scanned] at h
        split at h <;> exact (Prod.mk.inj h).2
      obtain ⟨t, rfl, -⟩ := exists_of_scan (found ▸ scanned)
      rw [key_body] at h
      cases h
      exact ⟨t, rfl, rfl⟩

end SpelledText

namespace JsonNumber

/-- Digits end where another character or nothing follows. -/
theorem scanDigits_append {digits rest : List Char} (areDigits : AreDigits digits)
    (follows : ∀ c ∈ rest.head?, c.isDigit = false) :
    scanDigits (digits ++ rest) = .ok (digits, rest) := by
  have stops : rest.takeWhile Char.isDigit = [] ∧ rest.dropWhile Char.isDigit = rest := by
    cases rest with
    | nil => exact ⟨rfl, rfl⟩
    | cons c rest =>
        have other : ¬ c.isDigit = true := by simpa using follows c rfl
        exact ⟨List.takeWhile_cons_of_neg other, List.dropWhile_cons_of_neg other⟩
  obtain ⟨some_digit, all_digits⟩ := areDigits
  rw [scanDigits, List.takeWhile_append_of_pos all_digits, List.dropWhile_append_of_pos all_digits,
    stops.1, stops.2, List.append_nil]
  cases digits with
  | nil => exact absurd rfl some_digit
  | cons d digits => rfl

theorem areDigits_of_scanDigits {cs digits rest : List Char}
    (h : scanDigits cs = .ok (digits, rest)) : AreDigits digits ∧ cs = digits ++ rest := by
  unfold scanDigits at h
  split at h
  · cases h
  · cases h
  · next none_left some_left =>
      cases h
      have some_digit : cs.takeWhile Char.isDigit ≠ [] := by
        intro no_digit
        cases behind : cs.dropWhile Char.isDigit with
        | nil => exact none_left no_digit behind
        | cons c rest => exact some_left c rest no_digit behind
      exact ⟨⟨some_digit, fun _ => List.mem_takeWhile_imp⟩,
        List.takeWhile_append_dropWhile.symm⟩

theorem scanWhole_eq_ok_iff {cs whole rest : List Char} :
    scanWhole cs = .ok (whole, rest) ↔
      scanDigits cs = .ok (whole, rest) ∧ ∀ c more, whole ≠ '0' :: c :: more := by
  rw [scanWhole, bind_eq_ok_iff]
  constructor
  · rintro ⟨⟨digits, behind⟩, scanned, h⟩
    dsimp only at h
    split at h
    · cases h
    · next single =>
        cases h
        exact ⟨scanned, fun c more => single c more⟩
  · rintro ⟨scanned, single⟩
    refine ⟨(whole, rest), scanned, ?_⟩
    dsimp only
    split
    · next c more => exact absurd rfl (single c more)
    · rfl

theorem parts_of_scan {cs rest : List Char} {d : Digits} (h : scan cs = .ok (d, rest)) :
    ∃ unsigned behindWhole behindFraction,
      cs = (if d.negative then ['-'] else []) ++ unsigned ∧
        scanWhole unsigned = .ok (d.whole, behindWhole) ∧
        scanFraction behindWhole = .ok (d.fraction, behindFraction) ∧
        scanExponent behindFraction = .ok (d.exponent, rest) := by
  unfold scan at h
  split at h
  next negative unsigned sign =>
    obtain ⟨⟨whole, behindWhole⟩, first, h⟩ := bind_eq_ok_iff.mp h
    obtain ⟨⟨fraction, behindFraction⟩, second, h⟩ := bind_eq_ok_iff.mp h
    obtain ⟨⟨exponent, _⟩, third, ⟨⟩⟩ := bind_eq_ok_iff.mp h
    refine ⟨unsigned, behindWhole, behindFraction, ?_, first, second, third⟩
    split at sign <;> cases sign <;> rfl

theorem scan_of_parts {d : Digits} {unsigned behindWhole behindFraction rest : List Char}
    (no_sign : unsigned.head? ≠ some '-')
    (whole : scanWhole unsigned = .ok (d.whole, behindWhole))
    (fraction : scanFraction behindWhole = .ok (d.fraction, behindFraction))
    (exponent : scanExponent behindFraction = .ok (d.exponent, rest)) :
    scan ((if d.negative then ['-'] else []) ++ unsigned) = .ok (d, rest) := by
  obtain ⟨negative, _, _, _⟩ := d
  cases negative with
  | true =>
      exact bind_eq_ok_iff.mpr ⟨_, whole, bind_eq_ok_iff.mpr ⟨_, fraction,
        bind_eq_ok_iff.mpr ⟨_, exponent, rfl⟩⟩⟩
  | false =>
      unfold scan
      split
      next negative unsigned sign =>
        split at sign
        · next more start => exact absurd (congrArg List.head? start) no_sign
        · cases sign
          exact bind_eq_ok_iff.mpr ⟨_, whole, bind_eq_ok_iff.mpr ⟨_, fraction,
            bind_eq_ok_iff.mpr ⟨_, exponent, rfl⟩⟩⟩

theorem exists_of_scanFraction {cs rest : List Char} {fraction : Option (List Char)}
    (h : scanFraction cs = .ok (fraction, rest)) :
    (∀ digits ∈ fraction, AreDigits digits) ∧
      cs = (fraction.elim [] ('.' :: ·)) ++ rest := by
  unfold scanFraction at h
  split at h
  · obtain ⟨⟨digits, behind⟩, scanned, ⟨⟩⟩ := bind_eq_ok_iff.mp h
    obtain ⟨areDigits, rfl⟩ := areDigits_of_scanDigits scanned
    refine ⟨?_, rfl⟩
    rintro _ ⟨⟩
    exact areDigits
  · cases h
    exact ⟨nofun, rfl⟩

theorem exists_of_scanSign {cs rest : List Char} {negative : Bool}
    (h : scanSign cs = (negative, rest)) :
    ∃ sign, cs = sign ++ rest ∧ (sign = [] ∨ sign = ['+'] ∨ sign = ['-']) ∧
      negative = decide (sign = ['-']) := by
  unfold scanSign at h
  split at h
  · cases h
    exact ⟨['+'], rfl, by simp, rfl⟩
  · cases h
    exact ⟨['-'], rfl, by simp, rfl⟩
  · cases h
    exact ⟨[], rfl, by simp, rfl⟩

theorem exists_of_scanExponent {cs rest : List Char} {exponent : Option (Bool × List Char)}
    (h : scanExponent cs = .ok (exponent, rest)) :
    ∃ e : Option SpelledExponent, cs = e.elim [] SpelledExponent.chars ++ rest ∧
      e.map (fun e => (e.negative, e.digits)) = exponent := by
  unfold scanExponent at h
  split at h
  · next letter behind =>
      split at h
      · next letter_eq =>
          cases signed : scanSign behind with
          | mk negative unsigned =>
              rw [signed] at h
              obtain ⟨⟨digits, behind⟩, scanned, ⟨⟩⟩ := bind_eq_ok_iff.mp h
              obtain ⟨sign, rfl, sign_eq, rfl⟩ := exists_of_scanSign signed
              obtain ⟨areDigits, rfl⟩ := areDigits_of_scanDigits scanned
              refine ⟨some ⟨letter, sign, digits, letter_eq, sign_eq, areDigits⟩, ?_, rfl⟩
              simp [SpelledExponent.chars]
      · cases h
        exact ⟨none, rfl, rfl⟩
  · cases h
    exact ⟨none, rfl, rfl⟩

end JsonNumber

namespace SpelledNumber

theorem scanFraction_chars (n : SpelledNumber) {rest : List Char}
    (follows : ∀ c ∈ rest.head?, c.isDigit = false ∧ c ≠ '.') :
    JsonNumber.scanFraction (n.fractionChars ++ rest) = .ok (n.fraction, rest) := by
  unfold fractionChars
  cases fraction : n.fraction with
  | none =>
      cases rest with
      | nil => rfl
      | cons c rest =>
          have point : c ≠ '.' := (follows c rfl).2
          simp [JsonNumber.scanFraction, point]
  | some digits =>
      have areDigits : AreDigits digits := n.fraction_areDigits digits fraction
      have scanned := JsonNumber.scanDigits_append areDigits fun c h => (follows c h).1
      simp only [Option.elim_some, List.cons_append, JsonNumber.scanFraction, scanned]
      rfl

end SpelledNumber

theorem SpelledExponent.scanSign_chars (e : SpelledExponent) (rest : List Char) :
    JsonNumber.scanSign (e.sign ++ (e.digits ++ rest)) = (e.negative, e.digits ++ rest) := by
  obtain ⟨letter, sign, digits, -, rfl | rfl | rfl, areDigits⟩ := e
  · obtain ⟨d, digits, rfl⟩ := List.exists_cons_of_ne_nil areDigits.1
    have digit : d.isDigit = true := areDigits.2 d List.mem_cons_self
    have plus : d ≠ '+' := by
      rintro rfl
      cases digit
    have minus : d ≠ '-' := by
      rintro rfl
      cases digit
    simp [JsonNumber.scanSign, negative, plus, minus]
  · rfl
  · rfl

/-- What may follow a number without being taken for a part of it. -/
def EndsNumber (rest : List Char) : Prop :=
  ∀ c ∈ rest.head?, c.isDigit = false ∧ c ≠ '.' ∧ c ≠ 'e' ∧ c ≠ 'E'

namespace SpelledNumber

theorem scanExponent_chars (n : SpelledNumber) {rest : List Char} (follows : EndsNumber rest) :
    JsonNumber.scanExponent (n.exponentChars ++ rest) =
      .ok (n.exponent.map fun e => (e.negative, e.digits), rest) := by
  unfold exponentChars
  cases n.exponent with
  | none =>
      cases rest with
      | nil => rfl
      | cons c rest =>
          obtain ⟨-, -, small, great⟩ := follows c rfl
          simp [JsonNumber.scanExponent, small, great]
  | some e =>
      have scanned := JsonNumber.scanDigits_append e.areDigits fun c h => (follows c h).1
      simp only [Option.elim_some, SpelledExponent.chars, List.cons_append, List.append_assoc,
        JsonNumber.scanExponent, e.letter_eq, if_true, e.scanSign_chars, scanned]
      rfl

theorem head_whole (n : SpelledNumber) : ∃ d more, n.whole = d :: more ∧ d.isDigit = true := by
  obtain ⟨d, more, whole⟩ := List.exists_cons_of_ne_nil n.areDigits.1
  exact ⟨d, more, whole, n.areDigits.2 d (whole ▸ List.mem_cons_self)⟩

theorem head_chars (n : SpelledNumber) :
    ∃ c more, n.chars = c :: more ∧ (c = '-' ∨ c.isDigit = true) := by
  obtain ⟨d, more, whole, digit⟩ := n.head_whole
  unfold chars sign
  cases n.negative with
  | true => exact ⟨'-', _, rfl, .inl rfl⟩
  | false => exact ⟨d, more ++ n.fractionChars ++ n.exponentChars, by simp [whole], .inr digit⟩

theorem head_exponentChars (n : SpelledNumber) {rest : List Char} (follows : EndsNumber rest) :
    ∀ c ∈ (n.exponentChars ++ rest).head?, c.isDigit = false ∧ c ≠ '.' := by
  unfold exponentChars
  cases n.exponent with
  | none => exact fun c h => ⟨(follows c h).1, (follows c h).2.1⟩
  | some e =>
      rintro c ⟨⟩
      obtain small | great := e.letter_eq
      · simp [small]
      · simp [great]

theorem head_fractionChars (n : SpelledNumber) {rest : List Char}
    (follows : ∀ c ∈ rest.head?, c.isDigit = false) :
    ∀ c ∈ (n.fractionChars ++ rest).head?, c.isDigit = false := by
  unfold fractionChars
  cases n.fraction with
  | none => exact follows
  | some digits =>
      rintro c ⟨⟩
      rfl

theorem scan_chars (n : SpelledNumber) {rest : List Char} (follows : EndsNumber rest) :
    JsonNumber.scan (n.chars ++ rest) = .ok (n.digits, rest) := by
  have behind_fraction := n.head_exponentChars follows
  have behind_whole := n.head_fractionChars fun c h => (behind_fraction c h).1
  have whole := JsonNumber.scanWhole_eq_ok_iff.mpr
    ⟨JsonNumber.scanDigits_append n.areDigits behind_whole, n.no_zero⟩
  have fraction := n.scanFraction_chars behind_fraction
  have exponent := n.scanExponent_chars follows
  obtain ⟨d, more, first, digit⟩ := n.head_whole
  have minus : d ≠ '-' := by
    rintro rfl
    cases digit
  have no_sign : (n.whole ++ (n.fractionChars ++ (n.exponentChars ++ rest))).head? ≠ some '-' := by
    simpa [first] using minus
  rw [chars, List.append_assoc, List.append_assoc, List.append_assoc]
  exact JsonNumber.scan_of_parts (d := n.digits) no_sign whole fraction exponent

theorem exists_of_scan {cs rest : List Char} {d : JsonNumber.Digits}
    (h : JsonNumber.scan cs = .ok (d, rest)) :
    ∃ n : SpelledNumber, cs = n.chars ++ rest ∧ n.digits = d := by
  obtain ⟨unsigned, behindWhole, behindFraction, rfl, scannedWhole, scannedFraction,
    scannedExponent⟩ := JsonNumber.parts_of_scan h
  obtain ⟨scannedDigits, no_zero⟩ := JsonNumber.scanWhole_eq_ok_iff.mp scannedWhole
  obtain ⟨areDigits, rfl⟩ := JsonNumber.areDigits_of_scanDigits scannedDigits
  obtain ⟨fraction_areDigits, rfl⟩ := JsonNumber.exists_of_scanFraction scannedFraction
  obtain ⟨exponent, rfl, found⟩ := JsonNumber.exists_of_scanExponent scannedExponent
  refine ⟨⟨d.negative, d.whole, d.fraction, exponent, areDigits, no_zero, fraction_areDigits⟩,
    ?_, ?_⟩
  · simp only [chars, sign, fractionChars, exponentChars, List.append_assoc]
  · rw [digits, found]

theorem number_chars (n : SpelledNumber) {rest : List Char} (follows : EndsNumber rest) :
    JsonReader.number (n.chars ++ rest) = (n.reading, some rest) := by
  obtain ⟨c, more, start, -⟩ := n.head_chars
  have head : (n.chars ++ rest).head? = n.chars.head? := by simp [start]
  unfold JsonReader.number reading
  simp only [n.scan_chars follows, head]
  cases n.digits.value? with
  | some value => rfl
  | none => rfl

theorem exists_of_number {cs : List Char} {r : Reading} {after : Option (List Char)}
    (h : JsonReader.number cs = (r, after)) (faultless : r.skipFault? = none) :
    ∃ (n : SpelledNumber) (rest : List Char),
      cs = n.chars ++ rest ∧ r = n.reading ∧ after = some rest := by
  unfold JsonReader.number at h
  split at h
  · cases h
    cases faultless
  · next d rest scanned =>
      obtain ⟨n, rfl, rfl⟩ := exists_of_scan scanned
      refine ⟨n, rest, rfl, ?_⟩
      obtain ⟨c, more, start, -⟩ := n.head_chars
      unfold reading
      split at h <;> cases h <;> simp_all

end SpelledNumber

end QueryBinding

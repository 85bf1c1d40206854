import QueryBinding.Json.Reading

/-! # JSON as it is spelled

A text of JSON with each blank, escape and digit as it stands. A spelling holds to the grammar and
to nothing more: its strings may have half of a surrogate pair, its numbers may be too large for a
double, and its brackets may go as deep as they like. What it stands for, if it stands for a value,
and what a reader makes of it are told beside its characters. -/

namespace QueryBinding

/-- What may stand between the parts of a text. -/
structure Blanks where
  chars : List Char
  blank : ∀ c ∈ chars, JsonReader.isBlank c = true

namespace Blanks

def none : Blanks := ⟨[], by simp⟩

def space : Blanks := ⟨[' '], by simp [JsonReader.isBlank]⟩

end Blanks

/-- A character of a string or a code unit of it, as it is spelled. -/
inductive SpelledUnit where
  | plain (c : Char) (unescaped : c ≠ '"' ∧ c ≠ '\\' ∧ 0x20 ≤ c.toNat)
  | short (letter value : Char) (escape : JsonText.escapeValue? letter = some value)
  | hex (a b c d : Char) (n : Nat) (quad : JsonText.hexQuad? a b c d = some n)

namespace SpelledUnit

def chars : SpelledUnit → List Char
  | plain c _ => [c]
  | short letter _ _ => ['\\', letter]
  | hex a b c d _ _ => ['\\', 'u', a, b, c, d]

def unit : SpelledUnit → JsonText.TextUnit
  | plain c _ => .plain c
  | short _ value _ => .plain value
  | hex _ _ _ _ n _ => .code n

end SpelledUnit

structure SpelledText where
  units : List SpelledUnit

namespace SpelledText

/-- The characters behind the opening quote. -/
def body (t : SpelledText) : List Char := t.units.flatMap SpelledUnit.chars ++ ['"']

def chars (t : SpelledText) : List Char := '"' :: t.body

/-- Its characters, unless a surrogate lacks its other half. -/
def joined (t : SpelledText) : Except Fault (List Char) :=
  JsonText.join (t.units.map SpelledUnit.unit) none

def text? (t : SpelledText) : Option String := t.joined.toOption.map String.ofList

def key (t : SpelledText) : Key :=
  match t.joined with
  | .ok text => .name (String.ofList text)
  | .error f => .unread f none

def reading (t : SpelledText) : Reading :=
  match t.joined with
  | .ok text => .string (String.ofList text)
  | .error f => .bad '"' f none

end SpelledText

/-- One digit or more. -/
def AreDigits (cs : List Char) : Prop := cs ≠ [] ∧ ∀ c ∈ cs, c.isDigit = true

structure SpelledExponent where
  letter : Char
  sign : List Char
  digits : List Char
  letter_eq : letter = 'e' ∨ letter = 'E'
  sign_eq : sign = [] ∨ sign = ['+'] ∨ sign = ['-']
  areDigits : AreDigits digits

namespace SpelledExponent

def chars (e : SpelledExponent) : List Char := e.letter :: (e.sign ++ e.digits)

def negative (e : SpelledExponent) : Bool := e.sign = ['-']

end SpelledExponent

structure SpelledNumber where
  negative : Bool
  whole : List Char
  fraction : Option (List Char)
  exponent : Option SpelledExponent
  areDigits : AreDigits whole
  /-- Only a zero that stands alone may come first. -/
  no_zero : ∀ c rest, whole ≠ '0' :: c :: rest
  fraction_areDigits : ∀ digits ∈ fraction, AreDigits digits

namespace SpelledNumber

def sign (n : SpelledNumber) : List Char := if n.negative then ['-'] else []

def fractionChars (n : SpelledNumber) : List Char := n.fraction.elim [] ('.' :: ·)

def exponentChars (n : SpelledNumber) : List Char := n.exponent.elim [] SpelledExponent.chars

def chars (n : SpelledNumber) : List Char := n.sign ++ n.whole ++ n.fractionChars ++ n.exponentChars

def digits (n : SpelledNumber) : JsonNumber.Digits :=
  ⟨n.negative, n.whole, n.fraction, n.exponent.map fun e => (e.negative, e.digits)⟩

def reading (n : SpelledNumber) : Reading :=
  match n.digits.value? with
  | some value => .number value
  | none => .bad n.chars.head? .malformed none

end SpelledNumber

/-- Something between brackets, with the blanks before the comma in front of it and behind that
comma. The first one has no comma. -/
structure Placed (β : Type) where
  gap : Blanks
  indent : Blanks
  body : β

structure SpelledMember (σ : Type) where
  key : SpelledText
  beforeColon : Blanks
  afterColon : Blanks
  value : σ

/-- A value as it is spelled. -/
inductive Spelling where
  | null
  | bool (value : Bool)
  | number (n : SpelledNumber)
  | string (t : SpelledText)
  /-- The items of an array and the blanks before its closing bracket. -/
  | array (items : List (Placed Spelling)) (closing : Blanks)
  | object (members : List (Placed (SpelledMember Spelling))) (closing : Blanks)

/-- The characters in front of something between brackets. -/
def leadChars (first : Bool) (gap indent : Blanks) : List Char :=
  if first then gap.chars ++ indent.chars else gap.chars ++ ',' :: indent.chars

namespace Spelling

mutual

def chars : Spelling → List Char
  | null => ['n', 'u', 'l', 'l']
  | bool true => ['t', 'r', 'u', 'e']
  | bool false => ['f', 'a', 'l', 's', 'e']
  | number n => n.chars
  | string t => t.chars
  | array items closing => '[' :: itemChars true items closing
  | object members closing => '\x7b' :: memberChars true members closing

/-- The characters of items and of the bracket that closes them. -/
def itemChars (first : Bool) : List (Placed Spelling) → Blanks → List Char
  | [], closing => closing.chars ++ [']']
  | ⟨gap, indent, value⟩ :: rest, closing =>
    leadChars first gap indent ++ value.chars ++ itemChars false rest closing

/-- The characters of members and of the brace that closes them. -/
def memberChars (first : Bool) : List (Placed (SpelledMember Spelling)) → Blanks → List Char
  | [], closing => closing.chars ++ ['\x7d']
  | ⟨gap, indent, key, beforeColon, afterColon, value⟩ :: rest, closing =>
    leadChars first gap indent ++ key.chars ++ beforeColon.chars ++ ':' :: afterColon.chars ++
      value.chars ++ memberChars false rest closing

end

mutual

/-- What a reader makes of a spelling inside `depth` open brackets. -/
def reading (depth : Nat) : Spelling → Reading
  | null => .null
  | bool value => .bool value
  | number n => n.reading
  | string t => t.reading
  | array items _ => JsonReader.arrayAt depth (itemReadings (depth + 1) items) none
  | object members _ => JsonReader.objectAt depth (memberReadings (depth + 1) members) none

def itemReadings (depth : Nat) : List (Placed Spelling) → List Reading
  | [] => []
  | ⟨_, _, value⟩ :: rest => value.reading depth :: itemReadings depth rest

def memberReadings (depth : Nat) : List (Placed (SpelledMember Spelling)) → List (Key × Reading)
  | [] => []
  | ⟨_, _, key, _, _, value⟩ :: rest =>
    (key.key, value.reading depth) :: memberReadings depth rest

end

mutual

/-- The value that a spelling stands for, if it stands for one. -/
def value? : Spelling → Option Json
  | null => some .null
  | bool value => some (.bool value)
  | number n => n.digits.value?.map .number
  | string t => t.text?.map .string
  | array items _ => (itemValues? items).map .array
  | object members _ => (memberValues? members).map .object

def itemValues? : List (Placed Spelling) → Option (List Json)
  | [] => some []
  | ⟨_, _, item⟩ :: rest => do
    let value ← item.value?
    let values ← itemValues? rest
    some (value :: values)

def memberValues? : List (Placed (SpelledMember Spelling)) → Option (List (String × Json))
  | [] => some []
  | ⟨_, _, key, _, _, member⟩ :: rest => do
    let name ← key.text?
    let value ← member.value?
    let values ← memberValues? rest
    some ((name, value) :: values)

end

end Spelling

/-- A text of JSON: a value, with blanks around it. -/
structure Document where
  before : Blanks
  value : Spelling
  after : Blanks

def Document.text (d : Document) : String :=
  String.ofList (d.before.chars ++ d.value.chars ++ d.after.chars)

end QueryBinding

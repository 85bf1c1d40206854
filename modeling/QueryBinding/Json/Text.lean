import QueryBinding.Text.Hex

/-! # Strings of JSON

A string is scanned into units: characters, and code units written in hexadecimal. Scanning meets
all faults of spelling. Joining the units into characters meets one more, a surrogate without its
other half; whoever has no use for the text skips that step. Beside the reader stands the writer. -/

namespace QueryBinding

/-- What stops a reading: the text ends inside a value, or it is no JSON. -/
inductive Fault where
  | ended
  | malformed
deriving DecidableEq, Repr

/-- The fault of a result, if there is one. -/
def faultOf {α : Type} : Except Fault α → Option Fault
  | .error f => some f
  | .ok _ => none

namespace JsonText

/-- A character of a string, or a code unit written as an escape. -/
inductive TextUnit where
  | plain (c : Char)
  | code (n : Nat)
deriving DecidableEq, Repr

def hexQuad? (a b c d : Char) : Option Nat := do
  let high := (← Text.hexDigit? a) * 16 + (← Text.hexDigit? b)
  let low := (← Text.hexDigit? c) * 16 + (← Text.hexDigit? d)
  some (high * 256 + low)

def byteLength : List Char → Nat
  | [] => 0
  | c :: rest => c.utf8Size + byteLength rest

def escapeValue? : Char → Option Char
  | '"' => some '"'
  | '\\' => some '\\'
  | '/' => some '/'
  | 'b' => some '\x08'
  | 'f' => some '\x0c'
  | 'n' => some '\n'
  | 'r' => some '\r'
  | 't' => some '\t'
  | _ => none

def cons (u : TextUnit) :
    List TextUnit × Except Fault (List Char) → List TextUnit × Except Fault (List Char)
  | (units, after) => (u :: units, after)

/-- Scans a string behind its opening quote: its units, and what follows the closing quote or the
fault before it. A hexadecimal escape takes four bytes; the text ends in it if fewer are left. -/
def scan : List Char → List TextUnit × Except Fault (List Char)
  | [] => ([], .error .ended)
  | '"' :: rest => ([], .ok rest)
  | ['\\'] => ([], .error .ended)
  | '\\' :: 'u' :: rest =>
    match rest with
    | a :: b :: c :: d :: rest =>
      match hexQuad? a b c d with
      | some n => cons (.code n) (scan rest)
      | none => ([], .error .malformed)
    | short => ([], .error (if byteLength short < 4 then .ended else .malformed))
  | '\\' :: letter :: rest =>
    match escapeValue? letter with
    | some c => cons (.plain c) (scan rest)
    | none => ([], .error .malformed)
  | c :: rest => if c.toNat < 0x20 then ([], .error .malformed) else cons (.plain c) (scan rest)

def isLeading (n : Nat) : Prop := 0xD800 ≤ n ∧ n ≤ 0xDBFF

def isTrailing (n : Nat) : Prop := 0xDC00 ≤ n ∧ n ≤ 0xDFFF

instance (n : Nat) : Decidable (isLeading n) := inferInstanceAs (Decidable (_ ∧ _))

instance (n : Nat) : Decidable (isTrailing n) := inferInstanceAs (Decidable (_ ∧ _))

def pairChar (leading trailing : Nat) : Char :=
  Char.ofNat (0x10000 + (leading - 0xD800) * 0x400 + (trailing - 0xDC00))

/-- The characters of scanned units. Surrogates have to stand in pairs; a fault of scanning counts
once all units before it are joined. -/
def join : List TextUnit → Option Fault → Except Fault (List Char)
  | [], none => .ok []
  | [], some f => .error f
  | .plain c :: units, ending => (join units ending).map (c :: ·)
  | .code n :: units, ending =>
    if isTrailing n then .error .malformed
    else if isLeading n then
      match units with
      | .code m :: units =>
        if isTrailing m then (join units ending).map (pairChar n m :: ·) else .error .malformed
      | .plain _ :: _ => .error .malformed
      | [] => .error (ending.getD .malformed)
    else (join units ending).map (Char.ofNat n :: ·)

/-- The four hexadecimal digits of a control character. -/
def controlEscape (c : Char) : List Char :=
  ['\\', 'u', '0', '0'] ++ Text.hexByte c.toNat

/-- One character between the quotes of a written string. -/
def written (c : Char) : List Char :=
  if c = '"' then ['\\', '"']
  else if c = '\\' then ['\\', '\\']
  else if c = '\x08' then ['\\', 'b']
  else if c = '\t' then ['\\', 't']
  else if c = '\n' then ['\\', 'n']
  else if c = '\x0c' then ['\\', 'f']
  else if c = '\r' then ['\\', 'r']
  else if c.toNat < 0x20 then controlEscape c
  else [c]

def write (text : List Char) : List Char := '"' :: text.flatMap written ++ ['"']

end JsonText

end QueryBinding

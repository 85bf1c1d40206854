import QueryBinding.Json.Number

/-! # Reading JSON

A text is read into a value as far as it goes. A reading keeps the place of each fault, so that
whoever takes a value out of it meets the first fault in the order of the text, and none that lies
in a part that is passed over. Strings and numbers that only fail as values, and nesting that is
too deep, are faults for those who want the value and not for those who pass over it. -/

namespace QueryBinding

inductive Key where
  | name (text : String)
  /-- A key with a fault, and the fault that remains for whoever passes over it. -/
  | unread (wanted : Fault) (skipped : Option Fault)
deriving DecidableEq, Repr

inductive Reading where
  | null
  | bool (value : Bool)
  | number (value : Number)
  | string (text : String)
  /-- The items of an array and the fault where its closing bracket should stand. -/
  | array (items : List Reading) (ending : Option Fault)
  /-- The members of an object and the fault where its closing brace should stand. -/
  | object (members : List (Key × Reading)) (ending : Option Fault)
  /-- A value with a fault, and the fault that remains for whoever passes over it. The value's first
  character, if there is one, shows what it set out to be. -/
  | bad (start : Option Char) (wanted : Fault) (skipped : Option Fault)

namespace Reading

/-- The fault of a key for whoever passes over its member. -/
def keyFault? : Key → Option Fault
  | .name _ => none
  | .unread _ skipped => skipped

mutual

def skipFault? : Reading → Option Fault
  | array items ending => (itemsFault? items).or ending
  | object members ending => (membersFault? members).or ending
  | bad _ _ skipped => skipped
  | _ => none

def itemsFault? : List Reading → Option Fault
  | [] => none
  | item :: items => item.skipFault?.or (itemsFault? items)

def membersFault? : List (Key × Reading) → Option Fault
  | [] => none
  | (key, value) :: members => ((keyFault? key).or value.skipFault?).or (membersFault? members)

end

end Reading

namespace JsonReader

/-- A reading and what follows it; nothing follows a fault that everyone meets. -/
abbrev Step := Reading × Option (List Char)

def isBlank (c : Char) : Bool := c = ' ' || c = '\t' || c = '\n' || c = '\r'

def skipBlanks (cs : List Char) : List Char := cs.dropWhile isBlank

def stop (start : Option Char) (f : Fault) : Step := (.bad start f (some f), none)

def word (start : Char) (value : Reading) : List Char → List Char → Step
  | [], rest => (value, some rest)
  | _ :: _, [] => stop start .ended
  | c :: letters, d :: rest =>
    if c = d then word start value letters rest else stop start .malformed

def string (cs : List Char) : Step :=
  let (units, after) := JsonText.scan cs
  match JsonText.join units (faultOf after) with
  | .ok text => (.string (String.ofList text), after.toOption)
  | .error f => (.bad '"' f (faultOf after), after.toOption)

/-- Reads a number. One whose text ends too early is malformed for whoever passes over it. -/
def number (cs : List Char) : Step :=
  match JsonNumber.scan cs with
  | .error f => (.bad cs.head? f (some .malformed), none)
  | .ok (digits, rest) =>
    match digits.value? with
    | some n => (.number n, some rest)
    | none => (.bad cs.head? .malformed none, some rest)

def key (cs : List Char) : Key × Except Fault (List Char) :=
  let (units, after) := JsonText.scan cs
  match JsonText.join units (faultOf after) with
  | .ok text => (.name (String.ofList text), after)
  | .error f => (.unread f (faultOf after), after)

/-- The most brackets that may be open at once around a wanted value. -/
def deepest : Nat := 127

/-- An array as it counts at its depth: too deep, it is a fault for whoever wants its items. -/
def arrayAt (depth : Nat) (items : List Reading) (ending : Option Fault) : Reading :=
  if depth < deepest then .array items ending
  else .array [.bad none .malformed ((Reading.itemsFault? items).or ending)] none

/-- An object as it counts at its depth: too deep, it is a fault for whoever wants its members. -/
def objectAt (depth : Nat) (members : List (Key × Reading)) (ending : Option Fault) : Reading :=
  if depth < deepest then .object members ending
  else .object [(.unread .malformed ((Reading.membersFault? members).or ending), .null)] none

def consItem (item : Reading)
    (rest : List Reading × Option Fault × Option (List Char)) :
    List Reading × Option Fault × Option (List Char) :=
  (item :: rest.1, rest.2)

def consMember (key : Key) (value : Reading)
    (rest : List (Key × Reading) × Option Fault × Option (List Char)) :
    List (Key × Reading) × Option Fault × Option (List Char) :=
  ((key, value) :: rest.1, rest.2)

mutual

/-- Reads one value behind blanks, inside `depth` open brackets. -/
def value : (fuel depth : Nat) → List Char → Step
  | 0, _, _ => stop none .malformed
  | fuel + 1, depth, cs =>
    match skipBlanks cs with
    | [] => stop none .ended
    | 'n' :: rest => word 'n' .null ['u', 'l', 'l'] rest
    | 't' :: rest => word 't' (.bool true) ['r', 'u', 'e'] rest
    | 'f' :: rest => word 'f' (.bool false) ['a', 'l', 's', 'e'] rest
    | '"' :: rest => string rest
    | '[' :: rest =>
      let (items, ending, after) := items fuel (depth + 1) true rest
      (arrayAt depth items ending, after)
    | '\x7b' :: rest =>
      let (members, ending, after) := members fuel (depth + 1) true rest
      (objectAt depth members ending, after)
    | c :: rest => if c = '-' ∨ c.isDigit then number (c :: rest) else stop c .malformed

/-- Reads the items of an array up to its closing bracket; `first` before the first item. -/
def items : (fuel depth : Nat) → (first : Bool) → List Char →
    List Reading × Option Fault × Option (List Char)
  | 0, _, _, _ => ([], some .malformed, none)
  | fuel + 1, depth, first, cs =>
    match skipBlanks cs, first with
    | [], _ => ([], some .ended, none)
    | ']' :: rest, _ => ([], none, some rest)
    | ',' :: rest, false =>
      match value fuel depth rest with
      | (item, none) => ([item], none, none)
      | (item, some rest) => consItem item (items fuel depth false rest)
    | _ :: _, false => ([], some .malformed, none)
    | c :: rest, true =>
      match value fuel depth (c :: rest) with
      | (item, none) => ([item], none, none)
      | (item, some rest) => consItem item (items fuel depth false rest)

/-- Reads the members of an object up to its closing brace; `first` before the first member. -/
def members : (fuel depth : Nat) → (first : Bool) → List Char →
    List (Key × Reading) × Option Fault × Option (List Char)
  | 0, _, _, _ => ([], some .malformed, none)
  | fuel + 1, depth, first, cs =>
    match skipBlanks cs, first with
    | [], _ => ([], some .ended, none)
    | '\x7d' :: rest, _ => ([], none, some rest)
    | ',' :: rest, false => member fuel depth (skipBlanks rest)
    | _ :: _, false => ([], some .malformed, none)
    | c :: rest, true => member fuel depth (c :: rest)

def member : (fuel depth : Nat) → List Char →
    List (Key × Reading) × Option Fault × Option (List Char)
  | 0, _, _ => ([], some .malformed, none)
  | fuel + 1, depth, cs =>
    match cs with
    | [] => ([(.unread .ended (some .ended), .null)], none, none)
    | '"' :: rest =>
      match key rest with
      | (k, .error f) => ([(k, .bad none f (some f))], none, none)
      | (k, .ok rest) =>
        match skipBlanks rest with
        | [] => ([(k, .bad none .ended (some .ended))], none, none)
        | ':' :: rest =>
          match value fuel depth rest with
          | (v, none) => ([(k, v)], none, none)
          | (v, some rest) => consMember k v (members fuel depth false rest)
        | c :: _ => ([(k, .bad c .malformed (some .malformed))], none, none)
    | _ :: _ => ([(.unread .malformed (some .malformed), .null)], none, none)

end

/-- The fault behind the value of a text, where only blanks may stand. -/
def endFault? : Option (List Char) → Option Fault
  | none => none
  | some rest => if (skipBlanks rest).isEmpty then none else some .malformed

/-- Reads a text: its value, and the fault behind it. -/
def document (text : String) : Reading × Option Fault :=
  let (reading, after) := value (3 * text.length + 3) 0 text.toList
  (reading, endFault? after)

end JsonReader

end QueryBinding

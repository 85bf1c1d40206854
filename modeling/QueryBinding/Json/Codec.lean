import QueryBinding.Json.Refusal
import QueryBinding.Json.Writer

/-! # Values as JSON

A codec says how values of one type are read and written. A shape describes a structure by its
members, each with its name, whether it is required, and its codec; it is read from an object, in
which unknown members are passed over, or from an array of its members in order. -/

namespace QueryBinding

/-- How values of a type are read and written. -/
structure Codec (α : Type) where
  read : Reading → Except Refusal α
  write : α → Json

namespace Codec

def text : Codec String where
  read
    | .string text => .ok text
    | other => .error (other.refuse "a string")
  write := .string

def flag : Codec Bool where
  read
    | .bool value => .ok value
    | other => .error (other.refuse "a boolean")
  write := .bool

/-- Natural numbers of a machine word. -/
def size : Codec UInt64 where
  read
    | .number (.natural n) => .ok n
    | .number (.negative i) => .error (.wrongValue (Number.negative i).found "usize")
    | other => .error (other.refuse "usize")
  write n := .number (.natural n)

/-- A value that may be absent, which null says. What starts as null is not tried as a value. -/
def optional {α : Type} (c : Codec α) : Codec (Option α) where
  read
    | .null => .ok none
    | .bad (some 'n') f _ => .error (.fault f)
    | other => (c.read other).map some
  write
    | none => .null
    | some value => c.write value

/-- The fault that ends a list or object, if there is one. -/
def checkEnding : Option Fault → Except Refusal Unit
  | none => .ok ()
  | some f => .error (.fault f)

def list {α : Type} (c : Codec α) : Codec (List α) where
  read
    | .array items ending => do
      let values ← items.mapM c.read
      checkEnding ending
      .ok values
    | other => .error (other.refuse "a sequence")
  write values := .array (values.map c.write)

def pick {α : Type} (all : List α) (spelling : α → String) (given : String) : Except Refusal α :=
  match all.find? (spelling · == given) with
  | some value => .ok value
  | none => .error (.unknownVariant given (all.map spelling))

/-- The empty content of a spelling that is written as an object. -/
def checkUnit : Reading → Except Refusal Unit
  | .null => .ok ()
  | other => .error (other.refuse "unit")

/-- One of finitely many values, by its spelling: a string, or an object whose one member has the
spelling as its key and null as its value. All else is malformed from its first character on. -/
def choice {α : Type} (all : List α) (spelling : α → String) : Codec α where
  read
    | .string text => pick all spelling text
    | .object [] ending => .error (.fault (ending.getD .malformed))
    | .object ((key, value) :: more) ending =>
      match key with
      | .unread f _ => .error (.fault f)
      | .name text => do
        let picked ← pick all spelling text
        checkUnit value
        match more with
        | [] => do
          checkEnding ending
          .ok picked
        | _ :: _ => .error (.fault .malformed)
    | .bad none f _ => .error (.fault f)
    | .bad (some '"') f _ => .error (.fault f)
    | _ => .error (.fault .malformed)
  write value := .string (spelling value)

end Codec

structure Member (σ : Type) where
  name : String
  required : Bool
  read : Reading → Except Refusal (σ → σ)
  write : σ → Json

/-- A member with its codec, how it is taken out and how it is put in. -/
def Member.of {σ α : Type} (name : String) (required : Bool) (c : Codec α) (get : σ → α)
    (put : α → σ → σ) : Member σ where
  name := name
  required := required
  read r := (c.read r).map put
  write s := c.write (get s)

/-- A structure by its members. -/
structure Shape (σ : Type) where
  name : String
  /-- The structure with all members at what they are when absent. -/
  absent : σ
  members : List (Member σ)

namespace Shape

variable {σ : Type}

def title (s : Shape σ) : String := "struct " ++ s.name

def member? (s : Shape σ) (name : String) : Option (Member σ) := s.members.find? (·.name == name)

/-- Takes over the members of an object in order. A member may be given once; members the shape
does not have are passed over. -/
def takeMembers (s : Shape σ) :
    List (Key × Reading) → List String → σ → Except Refusal (List String × σ)
  | [], seen, v => .ok (seen, v)
  | (.name name, reading) :: rest, seen, v =>
    match s.member? name with
    | some m =>
      if name ∈ seen then .error (.duplicateMember name)
      else do
        let put ← m.read reading
        s.takeMembers rest (name :: seen) (put v)
    | none =>
      match reading.skipFault? with
      | some f => .error (.fault f)
      | none => s.takeMembers rest seen v
  | (.unread f _, _) :: _, _, _ => .error (.fault f)

/-- The first required member that was not given. -/
def checkGiven (s : Shape σ) (seen : List String) : Except Refusal Unit :=
  match s.members.find? fun m => m.required && m.name ∉ seen with
  | some m => .error (.missingMember m.name)
  | none => .ok ()

def ofObject (s : Shape σ) (members : List (Key × Reading)) (ending : Option Fault) :
    Except Refusal σ := do
  let (seen, v) ← s.takeMembers members [] s.absent
  Codec.checkEnding ending
  s.checkGiven seen
  .ok v

/-- Takes over the items of an array as members in order, the first one being number `index`. -/
def takeItems (s : Shape σ) :
    List (Member σ) → (index : Nat) → List Reading → Option Fault → σ → Except Refusal σ
  | [], _, [], ending, v => do
    Codec.checkEnding ending
    .ok v
  | [], _, _ :: _, _, _ => .error (.fault .malformed)
  | m :: ms, index, item :: items, ending, v => do
    let put ← m.read item
    s.takeItems ms (index + 1) items ending (put v)
  | _ :: _, _, [], some f, _ => .error (.fault f)
  | m :: ms, index, [], none, v =>
    if m.required then
      .error (.wrongLength index
        (s.title ++ " with " ++ toString s.members.length ++ " elements"))
    else s.takeItems ms (index + 1) [] none v

def codec (s : Shape σ) : Codec σ where
  read
    | .object members ending => s.ofObject members ending
    | .array items ending => s.takeItems s.members 0 items ending s.absent
    | other => .error (other.refuse s.title)
  write v := .object (s.members.map fun m => (m.name, m.write v))

end Shape

/-- Reads a text as one value, behind which only blanks may stand. -/
def Codec.ofText {α : Type} (c : Codec α) (text : String) : Except Refusal α := do
  let (reading, ending) := JsonReader.document text
  let value ← c.read reading
  Codec.checkEnding ending
  .ok value

def Codec.toText {α : Type} (c : Codec α) (value : α) : String := (c.write value).pretty

end QueryBinding

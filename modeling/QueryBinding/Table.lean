import QueryBinding.Driver
import QueryBinding.Go.Literal

/-! # Table names

A table is named by up to three parts. Bulk interfaces take the parts that are present, as a list
or as one dotted name of quoted parts. -/

namespace QueryBinding

structure TableName where
  catalog : Option String := none
  schema : Option String := none
  name : Option String := none
deriving DecidableEq, Repr

namespace TableName

def ofName (name : String) : TableName := { name := some name }

def withSchema (t : TableName) (schema : String) : TableName := { t with schema := some schema }

def withCatalog (t : TableName) (catalog : String) : TableName :=
  { t with catalog := some catalog }

/-- The parts that are present and not empty, outermost first. -/
def parts (t : TableName) : List String :=
  [t.catalog, t.schema, t.name].filterMap fun part => part.filter (· ≠ "")

/-- A name between back quotes. Back quotes inside the name stand as they are. -/
def backQuoted (part : String) : String := "\x60" ++ part ++ "\x60"

/-- The spelling of a table for a driver's bulk interface. -/
def spelled (t : TableName) : Dialect → String
  | .postgresql => Go.stringSlice t.parts
  | .mysql => ".".intercalate (t.parts.map backQuoted)

end TableName

/-- Reads the rest of a back-quoted part, in which a doubled back quote stands for one. -/
def readBackQuoted : List Char → Option (List Char × List Char)
  | [] => none
  | '\x60' :: '\x60' :: rest => do
    let (part, rest) ← readBackQuoted rest
    some ('\x60' :: part, rest)
  | '\x60' :: rest => some ([], rest)
  | c :: rest => do
    let (part, rest) ← readBackQuoted rest
    some (c :: part, rest)

/-- Reads the further parts of a dotted name; the fuel bounds their number. -/
def readDottedParts : Nat → List Char → Option (List (List Char))
  | _, [] => some []
  | fuel + 1, '.' :: '\x60' :: rest => do
    let (part, rest) ← readBackQuoted rest
    let parts ← readDottedParts fuel rest
    some (part :: parts)
  | _, _ => none

/-- Reads a dotted name of back-quoted parts by the rules of MySQL; no parts for no text. -/
def readDottedName (text : String) : Option (List String) :=
  match text.toList with
  | [] => some []
  | '\x60' :: rest => do
    let (part, rest) ← readBackQuoted rest
    let parts ← readDottedParts rest.length rest
    some ((part :: parts).map String.ofList)
  | _ => none

end QueryBinding

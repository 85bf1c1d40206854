import QueryBinding.Failure.Basic
import QueryBinding.Text.Quoted

/-! # The long form of a failure

An indented outline of a failure with the kind of each cause, one item to a line. -/

namespace QueryBinding

/-- The lines of an item that stands inside another one: indented, with a comma at the end. -/
def nestedLines : List String → List String
  | [] => []
  | [line] => ["    " ++ line ++ ","]
  | line :: rest => ("    " ++ line) :: nestedLines rest

/-- An item with one unnamed part. -/
def wrappedLines (head : String) (part : List String) : List String :=
  (head ++ "(") :: nestedLines part ++ [")"]

def withLabel (label : String) : List String → List String
  | [] => []
  | line :: rest => (label ++ ": " ++ line) :: rest

/-- An item with named parts. -/
def recordLines (head : String) (parts : List (String × List String)) : List String :=
  (head ++ " \x7b") :: parts.flatMap (fun (label, part) => nestedLines (withLabel label part)) ++
    ["\x7d"]

def Cause.outline : Cause → List String
  | .foreign text => wrappedLines "Anyhow" [Text.quoted text]
  | .remark text => wrappedLines "Adhoc" (recordLines "AdhocError" [("message", [Text.quoted text])])
  | .invalidSettings fault =>
    wrappedLines "InvalidConfiguration"
      (recordLines "InvalidConfiguration" [("message", [Text.quoted fault.text])])
  | .invalidStatement fault =>
    wrappedLines "InvalidStatement"
      (recordLines "InvalidStatement" [("message", [Text.quoted fault.text])])
  | .missingKey embed =>
    wrappedLines "MissingPrimaryKey"
      (recordLines "MissingPrimaryKey" [("embed", [Text.quoted embed])])

def outlineOf (cause : Cause) : List Cause → List String
  | [] => recordLines "Error" [("kind", cause.outline), ("cause", ["None"])]
  | older :: rest =>
    recordLines "Error"
      [("kind", cause.outline), ("cause", wrappedLines "Some" (outlineOf older rest))]

def Failure.report (f : Failure) : String := "\n".intercalate (outlineOf f.cause f.under)

end QueryBinding

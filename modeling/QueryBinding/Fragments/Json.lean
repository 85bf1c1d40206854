import QueryBinding.Fragments.Basic
import QueryBinding.Json.Writer

/-! # Fragments as JSON

Fragments are handed on as an object with a fixed list of members; a fragment that a statement does
not have is null. -/

namespace QueryBinding

def Argument.json (a : Argument) : Json :=
  .object [("name", .string a.name), ("type", .string a.type)]

def Json.ofText? : Option String → Json
  | some text => .string text
  | none => .null

def Json.ofTexts (texts : List String) : Json := .array (texts.map .string)

def Json.ofArguments (arguments : List Argument) : Json := .array (arguments.map Argument.json)

namespace Fragments

def json (f : Fragments) : Json :=
  .object
    [ ("method_name", .string f.methodName),
      ("constant_name", .string f.constantName),
      ("cmd", .string f.command),
      ("arguments", .ofArguments f.arguments),
      ("params", .string f.params),
      ("has_ret_type", .bool f.hasResult),
      ("return_type", .ofText? f.returnType),
      ("return_name", .string f.returned),
      ("scan", .string f.scan),
      ("nullable_embed_temp_vars", .ofTexts f.scratchLines),
      ("nullable_embed_assignments", .ofTexts f.presenceLines),
      ("has_sqlc_slices", .bool f.hasSlices),
      ("params_struct", .ofArguments f.paramsStruct),
      ("row_struct", .ofArguments f.rowStruct),
      ("column_names", .ofText? f.columnNames),
      ("table", .ofText? f.table) ]

def toText (f : Fragments) : String := f.json.pretty

end Fragments

end QueryBinding

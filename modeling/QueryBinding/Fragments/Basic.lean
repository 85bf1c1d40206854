import QueryBinding.Statement.Basic
import QueryBinding.Settings
import QueryBinding.Binding.Presence
import QueryBinding.Binding.Struct

/-! # Fragments

The pieces of text that the generated method of a statement is put together from. -/

namespace QueryBinding

structure Fragments where
  methodName : String
  constantName : String
  command : String
  arguments : List Argument
  params : String
  hasResult : Bool
  returnType : Option String
  returned : String
  scan : String
  scratchLines : List String
  presenceLines : List String
  hasSlices : Bool
  /-- The fields of the struct for the parameters, if they are passed as one. -/
  paramsStruct : List Argument
  rowStruct : List Argument
  columnNames : Option String
  table : Option String
deriving DecidableEq, Repr

namespace Statement

/-- The type a method returns, if it returns what it scans. -/
def returnType (s : Statement) : Except Misuse (Option String) :=
  if s.hasResult then s.result.passedTypeText.map some else .ok none

/-- The fragments of a statement. They depend on whether nullable embeds are scanned apart and on
how a table is spelled; all else was settled when the statement was made. -/
def fragments (s : Statement) (separate : Bool) (dialect : Dialect) : Except Misuse Fragments := do
  let returnType ← s.returnType
  let apart := s.result.hasNullableEmbed separate
  .ok
    { methodName := s.methodName
      constantName := s.constantName
      command := s.command.tag
      arguments := s.params.arguments
      params := s.params.params
      hasResult := s.hasResult
      returnType
      returned := s.result.returned
      scan := s.result.scan separate
      scratchLines := if apart then s.result.scratchLines else []
      presenceLines := if apart then s.result.presenceLines .anyKey else []
      hasSlices := s.params.hasSlices
      paramsStruct := if s.params.asStruct then s.params.structFields false else []
      rowStruct := s.result.structFields separate
      columnNames := if s.command = .copyFrom then some s.params.listedNamesText else none
      table := s.tableText dialect }

end Statement

end QueryBinding

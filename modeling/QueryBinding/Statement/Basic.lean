import QueryBinding.Binding.Basic
import QueryBinding.Table

/-! # Statements

A statement is a checked query: how it is run, how its method and text are named, and what it takes
and gives. -/

namespace QueryBinding

structure Statement where
  command : Command
  comments : List String
  methodName : String
  /-- The name of the field that holds the prepared statement. -/
  fieldName : String
  /-- The name of the constant that holds the text. -/
  constantName : String
  sql : String
  sourceName : String
  params : Binding
  result : Binding
  /-- The table a bulk insert goes to. -/
  table : Option TableName
deriving DecidableEq

namespace Statement

/-- Whether the method returns what it scans. -/
def hasResult (s : Statement) : Bool := s.command.isScanned && !s.result.isEmpty

def tableText (s : Statement) (dialect : Dialect) : Option String :=
  s.table.map (·.spelled dialect)

end Statement

end QueryBinding

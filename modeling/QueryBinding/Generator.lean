import QueryBinding.Statement.Build
import QueryBinding.Fragments.Json
import QueryBinding.Request.Json

/-! # Generation runs

A generator has settings whose driver is known. It makes the statements of all queries, or fails at
the first query that is refused, and renders fragments of statements, its own or another
generator's. -/

namespace QueryBinding

/-- Settings with the spelling of tables that their driver wants. -/
structure Generator where
  settings : Settings
  dialect : Dialect
deriving DecidableEq, Repr

/-- The name of the file a query stands in, in messages. -/
def QuerySpec.origin (q : QuerySpec) : String := if q.filename = "" then "<unknown>" else q.filename

inductive RunFailure where
  | unreadable (refusal : Refusal)
  | refused (failure : Failure)
  | misuse (misuse : Misuse)
deriving DecidableEq, Repr

namespace Generator

def ofSettings (s : Settings) : Except Failure Generator :=
  s.driver.map fun driver => ⟨s, driver.dialect⟩

/-- The statement of one query; a failure names the query's file. -/
def statement (g : Generator) (q : QuerySpec) : Except Failure Statement :=
  (Statement.ofQuery g.settings q).mapError (·.noted q.origin)

def build (g : Generator) (queries : List QuerySpec) : Except Failure (List Statement) :=
  queries.mapM g.statement

def fragments (g : Generator) (s : Statement) : Except Misuse Fragments :=
  s.fragments g.settings.nullableEmbeds g.dialect

def generate (g : Generator) (statements : List Statement) : Except Misuse (List Fragments) :=
  statements.mapM g.fragments

/-- Reads a request, makes its statements and renders their fragments. -/
def run (text : String) : Except RunFailure (List Fragments) := do
  let request ← (Request.ofText text).mapError .unreadable
  let generator ← (ofSettings request.settings).mapError .refused
  let statements ← (generator.build request.queries).mapError .refused
  (generator.generate statements).mapError .misuse

end Generator

end QueryBinding

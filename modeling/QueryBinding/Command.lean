/-! # Commands

The tag behind a query's name says how the query is run and whether rows are read back. -/

namespace QueryBinding

inductive Command where
  | one
  | many
  | exec
  | execRows
  | execResult
  | execLastId
  | copyFrom
  | batchOne
  | batchMany
  | batchExec
deriving DecidableEq, Repr

namespace Command

def all : List Command :=
  [one, many, exec, execRows, execResult, execLastId, copyFrom, batchOne, batchMany, batchExec]

def tag : Command → String
  | one => ":one"
  | many => ":many"
  | exec => ":exec"
  | execRows => ":execrows"
  | execResult => ":execresult"
  | execLastId => ":execlastid"
  | copyFrom => ":copyfrom"
  | batchOne => ":batchone"
  | batchMany => ":batchmany"
  | batchExec => ":batchexec"

/-- The command with a tag; tags are told apart by case. -/
def ofTag? (text : String) : Option Command := all.find? (·.tag == text)

def isScanned : Command → Bool
  | one | many | batchOne | batchMany => true
  | _ => false

def isBatch : Command → Bool
  | batchOne | batchMany | batchExec => true
  | _ => false

theorem ofTag?_tag (c : Command) : ofTag? c.tag = some c := by cases c <;> decide

theorem tag_of_ofTag? {text : String} {c : Command} (h : ofTag? text = some c) : c.tag = text := by
  unfold ofTag? at h
  simpa only [beq_iff_eq] using List.find?_some h

end Command

end QueryBinding

import QueryBinding.Failure.Basic

/-! # Shared failures

A failure is held by reference, and a holder may make more references to it. Each failure is a cell
that counts the references to it and refers to the failure it was added to. Adding a note takes the
note out of its cell if nothing else refers to it; a note that others still hold lends its text. -/

namespace QueryBinding

structure Cell where
  cause : Cause
  /-- The place of the failure that this one was added to. -/
  under : Option Nat
  owners : Nat
deriving DecidableEq, Repr

/-- What a cell refers to. A cell that is freed refers to nothing. -/
def Cell.below (c : Cell) : List Nat := if c.owners = 0 then [] else c.under.toList

/-- Cells, newest first. The place of a cell is the number of cells that are older, so a cell refers
to the tail behind it and no place is used twice. -/
abbrev Heap := List Cell

namespace Heap

/-- The failure at a place, read down to its root. -/
def read : Heap → Nat → Option Failure
  | [], _ => none
  | c :: older, place =>
    if place = older.length then
      if c.owners = 0 then none
      else match c.under with
        | none => some ⟨c.cause, []⟩
        | some next => (read older next).map fun f => ⟨c.cause, f.causes⟩
    else read older place

def owners : Heap → Nat → Nat
  | [], _ => 0
  | c :: older, place => if place = older.length then c.owners else owners older place

def retain : Heap → Nat → Heap
  | [], _ => []
  | c :: older, place =>
    if place = older.length then { c with owners := c.owners + 1 } :: older
    else c :: retain older place

/-- One reference less to a place. With the last one the cell is freed, and it gives up its own
reference to the failure under it. -/
def release : Heap → Nat → Heap
  | [], _ => []
  | c :: older, place =>
    if place = older.length then
      { c with owners := c.owners - 1 } ::
        if c.owners = 1 then c.under.elim older (release older) else older
    else c :: release older place

/-- The cause that a note gives to what it is added to: its own if the reference that is used up is
the only one, and otherwise a remark with its text. -/
def lent : Heap → Nat → Option Cause
  | [], _ => none
  | c :: older, place =>
    if place = older.length then
      if c.owners = 1 then some c.cause else some (.remark c.cause.text)
    else lent older place

end Heap

structure Store where
  heap : Heap := []
  held : List Nat := []
deriving DecidableEq, Repr

namespace Store

inductive Action where
  | make (cause : Cause)
  | clone (place : Nat)
  | drop (place : Nat)
  /-- Adds a note above a failure. Both references are used up. -/
  | addNote (base note : Nat)
deriving DecidableEq, Repr

/-- An action on references that are held; with one that is not held it cannot be written. -/
def act (s : Store) : Action → Option Store
  | .make cause => some ⟨⟨cause, none, 1⟩ :: s.heap, s.heap.length :: s.held⟩
  | .clone place => if place ∈ s.held then some ⟨s.heap.retain place, place :: s.held⟩ else none
  | .drop place =>
    if place ∈ s.held then some ⟨s.heap.release place, s.held.erase place⟩ else none
  | .addNote base note =>
    if base ∈ s.held ∧ note ∈ s.held.erase base then
      (s.heap.lent note).map fun cause =>
        ⟨⟨cause, some base, 1⟩ :: s.heap.release note,
          s.heap.length :: (s.held.erase base).erase note⟩
    else none

inductive Reached : Store → Prop where
  | start : Reached {}
  | act {s t : Store} (action : Action) (before : Reached s) (step : s.act action = some t) :
      Reached t

def read (s : Store) (place : Nat) : Option Failure := s.heap.read place

/-- How many references there are to a place, from outside the heap and from cells. -/
def references (s : Store) (place : Nat) : Nat :=
  s.held.count place + (s.heap.flatMap Cell.below).count place

end Store

end QueryBinding

import QueryBinding.Driver
import QueryBinding.Command

/-! # Failures

A failure is a cause together with the older causes it was added to as context. Its message reads
from the newest context down to the root. What can be wrong with a query or with settings is a
value; the wording of each stands in one function. -/

namespace QueryBinding

/-- What can be wrong with the description of a statement. -/
inductive StatementFault where
  | unknownCommand (tag : String)
  | namelessQuery
  | missingTarget (query : String)
  | namelessField (type : String)
  | emptyEmbed (embed : String)
  | nestedEmbed (embed nested : String)
  | unknownKey (key embed : String)
  /-- A fault told in the words of whoever reports it. -/
  | stated (text : String)
deriving DecidableEq, Repr

def StatementFault.text : StatementFault → String
  | unknownCommand tag => "unknown command `" ++ tag ++ "`"
  | namelessQuery => "query has no name"
  | missingTarget query =>
    query ++ " is a " ++ Command.copyFrom.tag ++ " query without a target table"
  | namelessField type => "field of type `" ++ type ++ "` has neither a name nor a column name"
  | emptyEmbed embed => "embed `" ++ embed ++ "` has no fields"
  | nestedEmbed embed nested => "embed `" ++ embed ++ "` contains nested embed `" ++ nested ++ "`"
  | unknownKey key embed => "primary key `" ++ key ++ "` is not a field of embed `" ++ embed ++ "`"
  | stated text => text

inductive SettingsFault where
  | driverMismatch (driver : Driver) (package : Package)
  /-- A fault told in the words of whoever reports it. -/
  | stated (text : String)
deriving DecidableEq, Repr

def SettingsFault.text : SettingsFault → String
  | driverMismatch driver package =>
    "sql_driver " ++ driver.label ++ " cannot be used with sql_package " ++ package.label
  | stated text => text

inductive Cause where
  | invalidStatement (fault : StatementFault)
  | invalidSettings (fault : SettingsFault)
  /-- A nullable embed of this name has no key to tell whether its row is present. -/
  | missingKey (embed : String)
  /-- A remark, such as the place where a failure arose. -/
  | remark (text : String)
  /-- A message that comes from outside this library. -/
  | foreign (text : String)
deriving DecidableEq, Repr

def Cause.text : Cause → String
  | invalidStatement fault => "invalid statement: " ++ fault.text
  | invalidSettings fault => "invalid configuration: " ++ fault.text
  | missingKey embed =>
    "nullable embed `" ++ embed ++ "` has no primary key; a presence check cannot be generated"
  | remark text => text
  | foreign text => text

/-- A cause and the older causes under it, newest first. -/
structure Failure where
  cause : Cause
  under : List Cause := []
deriving DecidableEq, Repr

namespace Failure

def causes (f : Failure) : List Cause := f.cause :: f.under

/-- The message of a failure: its causes, newest first. -/
def message (f : Failure) : String := ": ".intercalate (f.causes.map Cause.text)

/-- Adds a note above a failure. A note that others still hold lends only its text; in either case
what lies under the note is dropped. -/
def withNote (base note : Failure) (shared : Bool) : Failure :=
  ⟨if shared then .remark note.cause.text else note.cause, base.causes⟩

/-- A note without older causes puts its message in front, whether others hold it or not. -/
theorem message_withNote (base : Failure) {note : Failure} (bare : note.under = [])
    (shared : Bool) : (base.withNote note shared).message = note.message ++ ": " ++ base.message := by
  have lent : (if shared then Cause.remark note.cause.text else note.cause).text = note.message := by
    rw [message, causes, bare, List.map_singleton, String.intercalate_singleton]
    cases shared with
    | false => rfl
    | true => rfl
  rw [message, causes, withNote, List.map_cons, lent]
  exact String.intercalate_cons_of_ne_nil (List.cons_ne_nil _ _)

/-- Adds a fresh remark above a failure. -/
def noted (base : Failure) (remark : String) : Failure :=
  base.withNote ⟨.remark remark, []⟩ false

theorem message_noted (base : Failure) (remark : String) :
    (base.noted remark).message = remark ++ ": " ++ base.message :=
  base.message_withNote rfl false

def isInvalidStatement (f : Failure) : Bool :=
  match f.cause with
  | .invalidStatement _ => true
  | _ => false

def isInvalidSettings (f : Failure) : Bool :=
  match f.cause with
  | .invalidSettings _ => true
  | _ => false

def isMissingKey (f : Failure) : Bool :=
  match f.cause with
  | .missingKey _ => true
  | _ => false

end Failure

def StatementFault.failure (fault : StatementFault) : Failure := ⟨.invalidStatement fault, []⟩

def SettingsFault.failure (fault : SettingsFault) : Failure := ⟨.invalidSettings fault, []⟩

end QueryBinding

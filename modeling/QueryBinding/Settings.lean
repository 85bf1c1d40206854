import QueryBinding.Failure.Basic

/-! # Settings of a run

The settings choose the package and driver, and how parameters and results are passed. -/

namespace QueryBinding

structure Settings where
  package : Package := .databaseSql
  /-- The driver under the package, if it is not the package's own. -/
  chosenDriver : Option Driver := none
  /-- Whether outer-joined embeds are held in `sql.Null[T]`. -/
  nullableEmbeds : Bool := false
  paramsByPointer : Bool := false
  resultsByPointer : Bool := false
  /-- The most parameters that are passed one by one; none for no limit. -/
  parameterLimit : Option UInt64 := some 1
deriving DecidableEq, Repr

namespace Settings

/-- The driver in use. The pgx packages work with their own driver only. -/
def driver (s : Settings) : Except Failure Driver :=
  match s.chosenDriver with
  | none => .ok s.package.driver
  | some driver =>
    if s.package.driver.isPgx ∧ driver ≠ s.package.driver then
      .error (SettingsFault.driverMismatch driver s.package).failure
    else .ok driver

def arrays (s : Settings) : Except Failure ArraySupport := s.driver.map Driver.arrays

/-- Whether this many parameters are more than are passed one by one. -/
def exceedsLimit (s : Settings) (count : Nat) : Bool :=
  match s.parameterLimit with
  | none => false
  | some limit => limit.toNat < count

end Settings

end QueryBinding

import Mathlib.Order.Lattice
import Mathlib.Order.Nat

/-!
# Verdicts

`testsuite.Verdict`: the six known values, each of which takes precedence over the previous ones,
and the running verdict with the message of its last update.
-/

namespace Ioppytest

/-- `Verdict.__values`, in order of precedence. -/
inductive VerdictValue where
  | none
  | pass
  | inconclusive
  | fail
  | aborted
  | error
  deriving DecidableEq

namespace VerdictValue

/-- Position in `Verdict.__values`. -/
def index : VerdictValue → Nat
  | .none => 0
  | .pass => 1
  | .inconclusive => 2
  | .fail => 3
  | .aborted => 4
  | .error => 5

/-- Distinct values stand at distinct positions. -/
theorem index_injective : Function.Injective index := by
  intro first second same
  cases first <;> cases second <;> simp_all [index]

/-- A later value takes precedence over an earlier one. -/
instance : LinearOrder VerdictValue := LinearOrder.lift' index index_injective

/-- The order of values is the order of their positions. -/
theorem le_iff_index {first second : VerdictValue} :
    first ≤ second ↔ first.index ≤ second.index := Iff.rfl

/-- The string that stands for a value. -/
def name : VerdictValue → String
  | .none => "none"
  | .pass => "pass"
  | .inconclusive => "inconclusive"
  | .fail => "fail"
  | .aborted => "aborted"
  | .error => "error"

/-- `Verdict.values()`. -/
def values : List VerdictValue := [.none, .pass, .inconclusive, .fail, .aborted, .error]

/-- The value a string stands for, if it is one of the known verdicts. -/
def ofName? (string : String) : Option VerdictValue := values.find? (·.name == string)

end VerdictValue

/-- `testsuite.Verdict`: the worst value so far and the message given with it. -/
structure Verdict where
  /-- `__value`. -/
  value : VerdictValue := .none
  /-- `__message`. -/
  message : String := ""
  deriving DecidableEq

/-- `Verdict.update`: an update replaces the message even when it only equals the value. -/
def Verdict.update (verdict : Verdict) (newVerdict : VerdictValue) (message : String) : Verdict :=
  if verdict.value ≤ newVerdict then ⟨newVerdict, message⟩ else verdict

end Ioppytest

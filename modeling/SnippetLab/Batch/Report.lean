import SnippetLab.Check.Advice
import SnippetLab.Check.Form
import SnippetLab.Session.Apply

/-!
# Requests for a run, and what a run reports

A snippet is run as a whole, once, or once for each of its tests.  A report carries what was
written and what went wrong, and one entry for each test.
-/

namespace SnippetLab.Batch

/-! ## Requests -/

/-- An input and the output expected for it. -/
structure TestCase where
  name : Option Text
  input : Text
  expected : Text
  deriving Repr, DecidableEq

/-- A snippet to be run. -/
structure Request where
  code : Text
  /-- The tag of its language. -/
  language : Text
  tests : Option (List TestCase)
  /-- In place of the timeout of the settings. -/
  timeoutMs : Option Nat
  deriving Repr, DecidableEq

/-! ## Errors -/

/-- Why a run did not succeed.  An error of form or a timeout prevents a result; advice is raised
after a run that went through. -/
inductive RunError where
  | malformed (error : Check.FormError)
  | timeout (ms : Nat)
  /-- A statement failed. -/
  | failed (line : Nat) (error : StatementError)
  | advised (advice : Check.Advice)
  /-- The script engine reports a failure. -/
  | script (message : Text)
  /-- The script engine cannot be reached. -/
  | engineStopped
  /-- The worker takes no more requests. -/
  | workerGone
  deriving Repr, DecidableEq

/-- The wording of a run's error. -/
def RunError.message : RunError → Text
  | .malformed error => error.message
  | .timeout ms => "Execution timeout (>" ++ Decimal.ofNat ms ++ " ms). Possible infinite loop?"
  | .failed line error => "Runtime error at line " ++ Decimal.ofNat line ++ ": " ++ error.message
  | .advised (.outOfBounds overrun) =>
    "ArrayIndexOutOfBoundsException: Index " ++ Decimal.ofNat overrun.index ++
      " out of bounds for length " ++ Decimal.ofNat overrun.length ++
      " (line " ++ Decimal.ofNat overrun.line ++ ")"
  | .advised (.endlessLoop line) =>
    "Potential infinite loop detected at line " ++ Decimal.ofNat line ++ "!"
  | .script message => message
  | .engineStopped => "script bridge unavailable: script engine stopped"
  | .workerGone => "batch worker is no longer running"

/-! ## Reports -/

/-- What came of one test. -/
structure TestReport where
  name : Text
  input : Text
  expected : Text
  actual : Text
  passed : Bool
  deriving Repr, DecidableEq

/-- What came of a run. -/
structure Report where
  output : Text
  error : Option RunError
  tests : List TestReport
  deriving Repr, DecidableEq

/-- **A run succeeds** if it has no error and every test passes. -/
def Report.success (r : Report) : Bool := r.error.isNone && r.tests.all TestReport.passed

end SnippetLab.Batch

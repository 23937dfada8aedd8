import SnippetLab.Batch.Script

/-!
# The batch engine

Runs whole snippets, one at a time.  Java and Python are checked, interpreted in place, and then
looked over for advice; JavaScript goes over a bridge to a script engine.  **A bridge that has
timed out or whose engine has stopped is abandoned**, and the next script gets a new one.
-/

namespace SnippetLab.Batch

/-- Runs snippets under settings that may be changed between runs. -/
structure Engine where
  settings : Settings
  source : ScriptSource
  bridge : Option Bridge
  deriving Repr, DecidableEq

namespace Engine

/-- An engine whose scripts are interpreted, in no time, under the settings it is made with. -/
def new (settings : Settings) : Engine := ⟨settings, .interpreter settings [], none⟩

/-- The engine with another source of script evaluations. -/
def withSource (e : Engine) (source : ScriptSource) : Engine := { e with source, bridge := none }

/-- What a reply means for the run. -/
def outcomeOf (limit : Nat) (reply : Reply) : Except RunError Text :=
  if reply.success then .ok ((Text.trimEnd reply.output).take limit)
  else .error (.script (reply.error.getD "Script failed"))

/-- Is the bridge of no more use after this? -/
def abandons : RunError → Bool
  | .timeout _ | .engineStopped => true
  | _ => false

/-- Run a script. -/
def runScript (e : Engine) (code : Text) (timeoutMs : Nat) : Except RunError Text × Engine :=
  let (result, bridge, source) := (e.bridge.getD .start).run e.source code timeoutMs
  match result with
  | .ok reply =>
    (outcomeOf e.settings.maxOutputChars reply, { e with bridge := some bridge, source })
  | .error error =>
    (.error error, { e with bridge := if abandons error then none else some bridge, source })

/-- Run a snippet that is interpreted in place: its output, and an error or advice. -/
def runInPlace (settings : Settings) (language : Language) (code : Text) (timeoutMs : Nat) :
    Text × Option RunError :=
  match Check.formError? language code with
  | some error => ([], some (.malformed error))
  | none =>
    let program := Program.ofCode language code
    match interpret settings (some timeoutMs) program with
    | .error error => ([], some error)
    | .ok output =>
      (output, (Check.advice? settings.checkBounds settings.checkInfiniteLoops program).map
        .advised)

/-- **Run a snippet once**: its output, and what went wrong. -/
def runOnce (e : Engine) (language : Language) (code : Text) (timeoutMs : Nat) :
    (Text × Option RunError) × Engine :=
  if language.isScripted then
    match e.runScript code timeoutMs with
    | (.ok output, e') => ((output, none), e')
    | (.error error, e') => (([], some error), e')
  else (runInPlace e.settings language code timeoutMs, e)

/-- Run a snippet without tests. -/
def execute (e : Engine) (language : Language) (code : Text) (timeoutMs : Nat) : Report × Engine :=
  let ((output, error), e') := e.runOnce language code timeoutMs
  (⟨output, error, []⟩, e')

/-! ## Tests -/

/-- What came of a test, given the output of its run: blanks at the ends do not count. -/
def testReport (number : Nat) (test : TestCase) (output : Text) : TestReport :=
  { name := test.name.getD ("Test " ++ Decimal.ofNat number)
    input := test.input
    expected := test.expected
    actual := output.trim
    passed := output.trim == test.expected.trim }

/-- Run a snippet once for each test, with the test's input in place of its calls for input. -/
def runTests (e : Engine) (language : Language) (code : Text) (timeoutMs number : Nat) :
    List TestCase → List TestReport × Engine
  | [] => ([], e)
  | test :: rest =>
    let ((output, _), e') := e.runOnce language (inject language test.input code) timeoutMs
    let (later, e'') := e'.runTests language code timeoutMs (number + 1) rest
    (testReport number test output :: later, e'')

/-- The line that sums up some tests. -/
def testSummary (tests : List TestReport) : Text :=
  "Tests: " ++ Decimal.ofNat (tests.countP TestReport.passed) ++ '/' ::
    Decimal.ofNat tests.length ++ " passed"

/-- Run a snippet with its tests. -/
def executeTests (e : Engine) (language : Language) (code : Text) (tests : List TestCase)
    (timeoutMs : Nat) : Report × Engine :=
  let (reports, e') := e.runTests language code timeoutMs 1 tests
  (⟨testSummary reports, none, reports⟩, e')

/-- **Serve a request**, with its tests if it has any. -/
def run (e : Engine) (request : Request) : Report × Engine :=
  let language := Language.ofTag request.language
  let timeoutMs := request.timeoutMs.getD e.settings.timeoutMs
  match request.tests.getD [] with
  | [] => e.execute language request.code timeoutMs
  | tests => e.executeTests language request.code tests timeoutMs

end Engine

end SnippetLab.Batch

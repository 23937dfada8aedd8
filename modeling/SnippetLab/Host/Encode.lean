import SnippetLab.Batch.Engine
import SnippetLab.Fix.Verdict
import SnippetLab.Json.Decode
import SnippetLab.Stepper.Basic

/-!
# What is written and read in messages

The JSON forms of settings, sessions, events, reports and verdicts, and the requests that are read
back from JSON.  Errors of a run are written as their wording.
-/

namespace SnippetLab

open Json (nat object)

/-! ## Settings -/

/-- The members of settings. -/
def Settings.members (s : Settings) : List (Text × Json) :=
  [("checkBounds", .bool s.checkBounds),
    ("checkInfiniteLoops", .bool s.checkInfiniteLoops),
    ("historyLimit", nat s.historyLimit),
    ("maxOutputChars", nat s.maxOutputChars),
    ("timeoutMs", nat s.timeoutMs)]

/-- Settings as an object. -/
def Settings.toJson (s : Settings) : Json := object s.members

/-- Settings with one member taken over; names that are no setting change nothing. -/
def Settings.put (s : Settings) (name : Text) (value : Json) :
    Except Json.DecodeError Settings :=
  if name = "checkBounds" then
    (Json.toBool value).map fun b => { s with checkBounds := b }
  else if name = "checkInfiniteLoops" then
    (Json.toBool value).map fun b => { s with checkInfiniteLoops := b }
  else if name = "historyLimit" then
    (Json.toWord "usize" value).map fun n => { s with historyLimit := n }
  else if name = "maxOutputChars" then
    (Json.toWord "usize" value).map fun n => { s with maxOutputChars := n }
  else if name = "timeoutMs" then
    (Json.toWord "u64" value).map fun n => { s with timeoutMs := n }
  else .ok s

/-- **Lay a patch over settings.**  Members are taken over in the order of their names and the
first that does not fit is the failure; a patch that is no object changes nothing. -/
def Settings.merge (s : Settings) (patch : Json) : Except Json.DecodeError Settings :=
  match patch with
  | .obj members => members.foldlM (fun s (name, value) => s.put name value) s
  | _ => .ok s

/-! ## Sessions and events -/

/-- A variable. -/
def Binding.toJson (b : Binding) : Json :=
  object
    [("name", .str b.name), ("typeTag", .str b.typeTag), ("value", .str b.value),
      ("declaredLine", nat b.declaredLine), ("lastModifiedLine", nat b.lastModifiedLine),
      ("history", .arr (b.history.map .str))]

/-- The values of variables. -/
def valuesToJson (values : NameTable Text) : Json :=
  object (values.map fun (name, value) => (name, .str value))

/-- A frame of the call stack. -/
def Frame.toJson (f : Frame) : Json :=
  object [("method", .str f.method), ("line", nat f.line), ("locals", valuesToJson f.locals)]

/-- A remembered statement. -/
def HistoryEntry.toJson (entry : HistoryEntry) : Json :=
  object
    [("line", nat entry.line), ("text", .str entry.text),
      ("variables", valuesToJson entry.values)]

/-- What an event carries. -/
def Event.body : Event → Json
  | .lineExecuted line text => object [("line", nat line), ("text", .str text)]
  | .breakpointHit line => object [("line", nat line)]
  | .variableChanged binding => binding.toJson
  | .output text => object [("text", .str text)]
  | .error line message => object [("line", nat line), ("message", .str message)]
  | .executionComplete => object []
  | .callStackUpdated frames => object [("frames", .arr (frames.map Frame.toJson))]

/-! ## Reports and verdicts -/

namespace Batch

/-- What came of one test. -/
def TestReport.toJson (t : TestReport) : Json :=
  object
    [("name", .str t.name), ("input", .str t.input), ("expected", .str t.expected),
      ("actual", .str t.actual), ("passed", .bool t.passed)]

/-- The members of a report, in the order they are told: the error only if there is one, the tests
only if there are any. -/
def Report.members (r : Report) (elapsedMs : Nat) : List (Text × Json) :=
  let error : List (Text × Json) := r.error.toList.map fun error => ("error", .str error.message)
  let elapsed : List (Text × Json) := [("elapsedMs", nat elapsedMs)]
  let tests : List (Text × Json) :=
    if r.tests.isEmpty then [] else [("testResults", .arr (r.tests.map TestReport.toJson))]
  ("success", .bool r.success) :: ("output", .str r.output) ::
    (error ++ elapsed ++ tests)

/-- A report as an object. -/
def Report.toJson (r : Report) (elapsedMs : Nat) : Json := object (r.members elapsedMs)

/-- The fields of a test. -/
def TestCase.shape : Json.Shape :=
  ⟨"TestCase", ["name", "input", "expected"], ["expected"]⟩

/-- Read a test. -/
def TestCase.ofJson (j : Json) : Except Json.DecodeError TestCase :=
  Json.record shape ⟨none, [], []⟩
    (fun t name value =>
      if name = "name" then (Json.toOption Json.toText value).map fun n => { t with name := n }
      else if name = "input" then (Json.toText value).map fun i => { t with input := i }
      else if name = "expected" then (Json.toText value).map fun e => { t with expected := e }
      else .ok t)
    j

/-- The fields of a request for a run. -/
def Request.shape : Json.Shape :=
  ⟨"ExecutionRequest", ["code", "language", "tests", "timeoutMs"], ["code"]⟩

/-- **Read a request for a run.** -/
def Request.ofJson (j : Json) : Except Json.DecodeError Request :=
  Json.record shape ⟨[], [], none, none⟩
    (fun r name value =>
      if name = "code" then (Json.toText value).map fun c => { r with code := c }
      else if name = "language" then (Json.toText value).map fun l => { r with language := l }
      else if name = "tests" then
        (Json.toOption (Json.toList TestCase.ofJson) value).map fun t => { r with tests := t }
      else if name = "timeoutMs" then
        (Json.toOption (Json.toWord "u64") value).map fun n => { r with timeoutMs := n }
      else .ok r)
    j

end Batch

namespace Fix

/-- The members of a verdict with its message. -/
def Verdict.toJson (v : Verdict) : Json :=
  let difference : List (Text × Json) :=
    v.firstDifferingLine.toList.map fun line => ("firstDifferingLine", nat line)
  object
    (("matched", .bool v.matched) :: ("strategy", .str v.strategy.name) ::
      ("similarity", .double v.similarity.toBits) :: ("message", .str v.message) :: difference)

/-- The fields of a request for a verdict. -/
def Request.shape : Json.Shape :=
  ⟨"ValidationRequest", ["userCode", "referenceCode", "brokenCode"], ["userCode", "referenceCode"]⟩

/-- **Read a request for a verdict.** -/
def Request.ofJson (j : Json) : Except Json.DecodeError Request :=
  Json.record shape ⟨[], [], none⟩
    (fun r name value =>
      if name = "userCode" then (Json.toText value).map fun c => { r with userCode := c }
      else if name = "referenceCode" then
        (Json.toText value).map fun c => { r with referenceCode := c }
      else if name = "brokenCode" then
        (Json.toOption Json.toText value).map fun c => { r with brokenCode := c }
      else .ok r)
    j

end Fix

end SnippetLab

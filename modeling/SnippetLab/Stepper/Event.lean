import SnippetLab.Session.Apply
import SnippetLab.Source.Program

/-!
# What running a line reports

`Session.runRow` runs one line of a program: idle lines are passed over, a statement that fails
leaves the session as it was, and any other is applied and recorded.  What happened is reported as
a list of events, in order.
-/

namespace SnippetLab

/-- What a run reports.  Lines are counted from one. -/
inductive Event where
  /-- A line was run, or passed over. -/
  | lineExecuted (line : Nat) (text : Text)
  /-- The run paused at a breakpoint. -/
  | breakpointHit (line : Nat)
  /-- A variable was declared or took a new value. -/
  | variableChanged (binding : Binding)
  /-- The program wrote something. -/
  | output (text : Text)
  /-- A statement failed. -/
  | error (line : Nat) (message : Text)
  /-- No line is left. -/
  | executionComplete
  /-- The calls not yet left, after a statement. -/
  | callStackUpdated (frames : List Frame)
  deriving Repr, DecidableEq

/-- The name an event is known by. -/
def Event.name : Event → Text
  | .lineExecuted .. => "lineExecuted"
  | .breakpointHit _ => "breakpointHit"
  | .variableChanged _ => "variableChanged"
  | .output _ => "output"
  | .error .. => "error"
  | .executionComplete => "executionComplete"
  | .callStackUpdated _ => "callStackUpdated"

namespace Session

/-- What an effect reports by itself. -/
def eventsOf (s : Session) : Effect → List Event
  | .variable name => ((s.binding? name).map Event.variableChanged).toList
  | .output text => [.output text]
  | .none | .callStack => []

/-- **Run one line.** -/
def runRow (s : Session) (row : Row) : Session × List Event :=
  let text := row.text.trim
  if row.statement.isIdle then (s, [.lineExecuted row.number text])
  else
    match s.apply row.number row.statement with
    | .error e => (s, [.error row.number e.message])
    | .ok (effect, applied) =>
      let recorded := applied.record row.number text
      (recorded, applied.eventsOf effect ++
        [.lineExecuted row.number text, .callStackUpdated recorded.stack.frames])

/-- Run some lines, one after another. -/
def runRows (s : Session) : List Row → Session × List Event
  | [] => (s, [])
  | row :: rest =>
    let (s', events) := s.runRow row
    let (s'', later) := s'.runRows rest
    (s'', events ++ later)

end Session

end SnippetLab

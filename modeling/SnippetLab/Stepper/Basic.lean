import SnippetLab.Stepper.Breakpoints
import SnippetLab.Stepper.Event

/-!
# Stepping through a program

A stepper holds a loaded program, the session its lines have been run in so far, and the number of
lines run.  Which lines a command runs depends on the program and the breakpoints alone, so every
command first settles *how many* lines it runs and then runs them with `advance`.

* `rowsToBreakpoint`, `rowsToBlockEnd`, `rowsToDedent` — how far the commands go.
* `Stepper.perform` — a command, and the events it reports.
-/

namespace SnippetLab

/-- Where a run stands between two commands. -/
inductive Phase where
  /-- Before the first line, or stopped. -/
  | loaded
  /-- Between two lines. -/
  | paused
  /-- After the last line. -/
  | completed
  deriving Repr, DecidableEq

/-- The name of a phase. -/
def Phase.name : Phase → Text
  | .loaded => "loaded"
  | .paused => "paused"
  | .completed => "completed"

/-- A program under step-by-step control. -/
structure Stepper where
  /-- For sessions yet to be started. -/
  settings : Settings
  program : Program
  session : Session
  /-- How many lines have been run: the next one has this index. -/
  position : Nat
  phase : Phase
  breakpoints : Breakpoints
  /-- The breakpoint line that the latest pause reported. -/
  lastHit : Option Nat
  deriving Repr, DecidableEq

/-! ## How far a command goes -/

/-- How many lines to run before the next breakpoint.  **The line a run resumes from does not stop
it again.** -/
def rowsToBreakpoint (points : Breakpoints) (resumed : Option Nat) : List Row → Nat
  | [] => 0
  | row :: rest =>
    if resumed ≠ some row.number ∧ row.number ∈ points then 0
    else rowsToBreakpoint points none rest + 1

/-- How many lines to run until one closes the enclosing braces, that line included.  A line counts
once for opening, whatever the number of its braces, and once for closing. -/
def rowsToBlockEnd (opened : Nat) : List Row → Nat
  | [] => 0
  | row :: rest =>
    let opened' := if '{' ∈ row.stripped then opened + 1 else opened
    if '}' ∈ row.stripped then
      match opened' with
      | 0 => 1
      | n + 1 => rowsToBlockEnd n rest + 1
    else rowsToBlockEnd opened' rest + 1

/-- How many lines to run until one is indented less than `base`, that line included. -/
def rowsToDedent (base : Nat) : List Row → Nat
  | [] => 0
  | row :: rest =>
    if !row.stripped.isAllBlank && row.depth < base then 1 else rowsToDedent base rest + 1

namespace Stepper

/-! ## Looking at a stepper -/

/-- The lines not yet run. -/
def remaining (s : Stepper) : List Row := s.program.rows.drop s.position

/-- Has the last line been run? -/
def atEnd (s : Stepper) : Bool := s.program.length ≤ s.position

/-- The number of the next line. -/
def currentLine (s : Stepper) : Option Nat := if s.atEnd then none else some (s.position + 1)

/-- The text of a line. -/
def lineText? (s : Stepper) (line : Nat) : Option Text :=
  match line with
  | 0 => none
  | index + 1 => s.program.rows[index]?.map Row.text

/-! ## Loading -/

/-- A stepper for a program, before its first line. -/
def load (s : Stepper) (language : Language) (code : Text) : Stepper :=
  { s with
    program := .ofCode language code
    session := .start language s.settings
    position := 0
    phase := .loaded
    lastHit := none }

/-- A stepper with nothing loaded. -/
def new (settings : Settings) : Stepper :=
  { settings, program := .ofCode .java [], session := .start .java settings, position := 0
    phase := .loaded, breakpoints := [], lastHit := none }

/-- Go back to the first line and forget what has happened. -/
def restart (s : Stepper) : Stepper :=
  { s with session := s.session.reset, position := 0, phase := .loaded, lastHit := none }

/-- End the run; the next command that runs lines starts over. -/
def stop (s : Stepper) : Stepper := { s with phase := .loaded, lastHit := none }

/-! ## Running -/

/-- A stopped run starts over. -/
def begun (s : Stepper) : Stepper :=
  if s.phase = .loaded ∧ 0 < s.position then s.restart else s

/-- **Run the next `count` lines**, or those that are left. -/
def advance (s : Stepper) (count : Nat) : Stepper × List Event :=
  let rows := s.remaining.take count
  let (session, events) := s.session.runRows rows
  ({ s with session, position := s.position + rows.length }, events)

/-- No line is left. -/
def complete (s : Stepper) : Stepper × List Event :=
  ({ s with phase := .completed }, [.executionComplete])

/-- Pause at a breakpoint and report it. -/
def pauseAt (s : Stepper) (line : Nat) : Stepper × List Event :=
  ({ s with phase := .paused, lastHit := some line }, [.breakpointHit line])

/-- Come to rest where the lines run have led: at the end, at a breakpoint that is reported if
`reports`, or between two lines. -/
def settle (reports : Bool) (s : Stepper) : Stepper × List Event :=
  let s := { s with lastHit := none }
  if s.atEnd then s.complete
  else if reports && s.breakpoints.contains (s.position + 1) then s.pauseAt (s.position + 1)
  else ({ s with phase := .paused }, [])

/-- Do one thing and then another, reporting the events of both. -/
def followedBy (first : Stepper × List Event) (next : Stepper → Stepper × List Event) :
    Stepper × List Event :=
  let (s, later) := next first.1
  (s, first.2 ++ later)

/-- Run the next line. -/
def stepOver (s : Stepper) : Stepper × List Event :=
  let s := s.begun
  if s.atEnd then s.complete else followedBy (s.advance 1) (settle true)

/-- How many lines leave the enclosing block. -/
def rowsOut (s : Stepper) : Nat :=
  if s.program.language.usesBraces then rowsToBlockEnd 0 s.remaining
  else
    match s.remaining with
    | [] => 0
    | row :: _ => rowsToDedent row.depth s.remaining

/-- Run to the end of the enclosing block. -/
def stepOut (s : Stepper) : Stepper × List Event :=
  let s := s.begun
  followedBy (s.advance s.rowsOut) (settle true)

/-- **Run to the next breakpoint or the end.**  A run that resumes from a breakpoint passes it. -/
def resume (s : Stepper) : Stepper × List Event :=
  let resumed := if s.phase = .paused then s.lastHit else none
  let s := { s with lastHit := none }.begun
  followedBy (s.advance (rowsToBreakpoint s.breakpoints resumed s.remaining)) fun s =>
    if s.atEnd then s.complete else s.pauseAt (s.position + 1)

/-- Run all lines before `target`, past any breakpoints. -/
def runTo (target : Nat) (s : Stepper) : Stepper × List Event :=
  let s := s.begun
  followedBy (s.advance (target - 1 - s.position)) (settle false)

end Stepper

/-! ## Commands -/

/-- What a stepper can be told. -/
inductive Command where
  /-- Load a snippet, in the language of the one before unless another is given. -/
  | load (code : Text) (language : Option Language)
  /-- Use other settings from the next load on. -/
  | configure (settings : Settings)
  | toggleBreakpoint (line : Nat)
  | clearBreakpoints
  | stepOver
  /-- Calls are not entered: the same as `stepOver`. -/
  | stepInto
  | stepOut
  | resume
  | runTo (line : Nat)
  | stop
  | restart
  deriving Repr, DecidableEq

namespace Stepper

/-- **Perform a command**: the stepper after it, and the events it reports. -/
def perform (s : Stepper) : Command → Stepper × List Event
  | .load code language => (s.load (language.getD s.program.language) code, [])
  | .configure settings => ({ s with settings }, [])
  | .toggleBreakpoint line => ({ s with breakpoints := s.breakpoints.toggle line }, [])
  | .clearBreakpoints => ({ s with breakpoints := [] }, [])
  | .stepOver | .stepInto => s.stepOver
  | .stepOut => s.stepOut
  | .resume => s.resume
  | .runTo line => s.runTo line
  | .stop => (s.stop, [])
  | .restart => (s.restart, [])

end Stepper

end SnippetLab

import SnippetLab.Console.Words
import SnippetLab.Stepper.Basic

/-!
# The step prompt

Commands typed at a prompt drive a stepper.  Before each command the next line is shown, after it
what the command has reported.

* `Entry.ofLine` — what a typed line means.
* `respond` — carry it out.
* `run` — a whole session.
-/

namespace SnippetLab.Console

/-- What a typed line means. -/
inductive Entry where
  /-- Tell the stepper to run lines or to restart. -/
  | perform (command : Command)
  /-- Set or remove a breakpoint. -/
  | toggle (line : Nat)
  | showVariables
  | showStack
  | quit
  /-- A quote is not closed. -/
  | unbalanced
  /-- A line number is missing or is none. -/
  | invalidLine
  | unknown (word : Text)
  deriving Repr, DecidableEq

/-- The meaning of a command word and the line number after it. -/
def Entry.ofWord (word : Text) (line : Option Nat) : Entry :=
  if word.isOneOf ["n", "next", "stepOver"] then .perform .stepOver
  else if word.isOneOf ["s", "stepInto"] then .perform .stepInto
  else if word.isOneOf ["o", "out", "stepOut"] then .perform .stepOut
  else if word.isOneOf ["c", "continue"] then .perform .resume
  else if word.isOneOf ["b", "break"] then line.elim .invalidLine .toggle
  else if word.isOneOf ["r", "run"] then
    line.elim .invalidLine fun n => .perform (.runTo n)
  else if word = "restart" then .perform .restart
  else if word = "vars" then .showVariables
  else if word = "stack" then .showStack
  else if word.isOneOf ["q", "quit"] then .quit
  else .unknown word

/-- **What a typed line means.**  A line without words is a step. -/
def Entry.ofLine (line : Text) : Entry :=
  match splitWords line.trim with
  | none => .unbalanced
  | some [] => .perform .stepOver
  | some (word :: arguments) => .ofWord word (arguments.head?.bind Decimal.word?)

/-! ## What is shown -/

/-- The commands there are. -/
def help : Text :=
  "Commands: (n)ext, (s)tepInto, (o)ut, (c)ontinue, (b)reakpoint <line>, (r)un-to <line>, " ++
    "restart, vars, stack, (q)uit"

/-- What is shown first. -/
def greeting (s : Stepper) : Text :=
  "Loaded " ++ Decimal.ofNat s.program.length ++ " lines. " ++ help ++ "\n"

/-- The line to be run next. -/
def position (s : Stepper) : Text :=
  match s.currentLine, s.phase with
  | some line, .loaded | some line, .paused =>
    "\n🔍 Line " ++ Decimal.ofNat line ++ ": " ++ Text.trim ((s.lineText? line).getD []) ++ "\n"
  | _, _ => "\n✅ Program finished\n"

/-- What is shown before a command is read. -/
def prompt (s : Stepper) : Text := position s ++ "> "

/-- What is shown of an event. -/
def eventText : Event → Text
  | .variableChanged b => "  " ++ b.name ++ " = " ++ b.value ++ "\n"
  | .output text => text
  | .error line message => "❌ Line " ++ Decimal.ofNat line ++ ": " ++ message ++ "\n"
  | .breakpointHit line => "⏸  Breakpoint at line " ++ Decimal.ofNat line ++ "\n"
  | .lineExecuted .. | .callStackUpdated _ | .executionComplete => []

/-- A variable with all it has held. -/
def bindingText (b : Binding) : Text :=
  "  " ++ b.typeTag ++ " " ++ b.name ++ " = " ++ b.value ++ "  (history: " ++
    Text.join " -> " b.history ++ ")\n"

/-- All variables. -/
def variablesText (s : Session) : Text :=
  "=== Variables ===\n" ++ s.bindings.flatMap fun v => bindingText v.2

/-- A frame of the call stack and its place, counted from the lowest. -/
def frameText (frame : Frame) (place : Nat) : Text :=
  "  #" ++ Decimal.ofNat place ++ ": " ++ frame.method ++ " (entered at line " ++
    Decimal.ofNat frame.line ++ ")\n"

/-- All frames, the latest first. -/
def stackText (stack : CallStack) : Text :=
  "=== Call Stack (" ++ Decimal.ofNat stack.frames.length ++ " frames) ===\n" ++
    stack.frames.zipIdx.reverse.flatMap fun (frame, place) => frameText frame place

/-! ## Sessions -/

/-- What a line comes to: the stepper after it, what is shown, and whether more is read. -/
structure Response where
  stepper : Stepper
  shown : Text
  goesOn : Bool
  deriving Repr, DecidableEq

/-- **Carry out what a typed line means.** -/
def respond (s : Stepper) : Entry → Response
  | .perform command =>
    let (s', events) := s.perform command
    ⟨s', events.flatMap eventText, true⟩
  | .toggle line =>
    let s' := (s.perform (.toggleBreakpoint line)).1
    let verb : Text := if s'.breakpoints.contains line then "set" else "removed"
    ⟨s', "Breakpoint " ++ verb ++ " at line " ++ Decimal.ofNat line ++ "\n", true⟩
  | .showVariables => ⟨s, variablesText s.session, true⟩
  | .showStack => ⟨s, stackText s.session.stack, true⟩
  | .quit => ⟨s, [], false⟩
  | .unbalanced => ⟨s, "❌ Unbalanced quotes\n", true⟩
  | .invalidLine => ⟨s, "❌ Invalid line number\n", true⟩
  | .unknown word => ⟨s, "❓ Unknown command: " ++ word ++ ". " ++ help ++ "\n", true⟩

/-- Read the remaining lines: what is shown, and the stepper in the end. -/
def runLines (s : Stepper) : List Text → Text × Stepper
  | [] => (prompt s, s.stop)
  | line :: rest =>
    let response := respond s (.ofLine line)
    if response.goesOn then
      let (shown, s') := runLines response.stepper rest
      (prompt s ++ response.shown ++ shown, s')
    else (prompt s ++ response.shown, response.stepper.stop)

/-- **A whole session**: what is shown, and the stepper after it. -/
def run (s : Stepper) (input : Text) : Text × Stepper :=
  let (shown, s') := runLines s input.lines
  (greeting s ++ shown, s')

end SnippetLab.Console

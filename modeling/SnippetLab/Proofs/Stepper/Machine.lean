import SnippetLab.Proofs.Source.Rows
import SnippetLab.Stepper.Basic

/-!
# Stepping with an index into the lists of a program

`Stepper.perform` settles beforehand how many rows a command runs.  Here the same commands go line
by line: the program is the four lists it is preprocessed into, a command reads each of them at the
index of the next line, and while it runs the machine is in a state of its own.  **Every read is
checked, and so is the end of every loop**: a command yields nothing if an index is out of range or
if a loop has not ended when as many lines have been run as were left.

* `Columns.ofCode`, `Columns.ofCode_parallel` — the lists that a code is preprocessed into, equally
  long for every code.
* `Machine.runWhile` — the one loop of all commands; they differ in what they do before a line.
* `Machine.perform` — a command, line by line.
-/

namespace SnippetLab

open Source

/-! ## The lists of a program -/

/-- A program as separate lists, each with an entry for every line. -/
structure Columns where
  language : Language
  /-- The lines with their numbers. -/
  lines : List (Nat × Text)
  statements : List Statement
  /-- The lines without literal contents and comments. -/
  stripped : List Text
  depths : List Nat
  deriving Repr, DecidableEq

namespace Columns

/-- **The lists that a code is preprocessed into**, each computed by itself. -/
def ofCode (language : Language) (code : Text) : Columns :=
  let texts := code.lines
  let stripped := stripLines language texts
  { language
    lines := (List.range' 1 texts.length).zip texts
    statements := texts.map (classify language)
    stripped
    depths :=
      if language.usesBraces then Program.braceDepths 0 stripped
      else Program.indentDepths 0 (texts.zip stripped) }

/-- The four lists have an entry for every line each. -/
structure Parallel (c : Columns) : Prop where
  statements_length : c.statements.length = c.lines.length
  stripped_length : c.stripped.length = c.lines.length
  depths_length : c.depths.length = c.lines.length

end Columns

/-- The rows of a program, taken apart into lists. -/
def Program.columns (p : Program) : Columns where
  language := p.language
  lines := p.rows.map fun row => (row.number, row.text)
  statements := p.rows.map Row.statement
  stripped := p.rows.map Row.stripped
  depths := p.rows.map Row.depth

namespace Program

/-- Lists made of the same rows are equally long. -/
theorem columns_parallel (p : Program) : p.columns.Parallel where
  statements_length := by simp only [columns, List.length_map]
  stripped_length := by simp only [columns, List.length_map]
  depths_length := by simp only [columns, List.length_map]

/-- **Preprocessing into lists loses nothing**: put side by side they are the rows of the
program. -/
theorem columns_ofCode (language : Language) (code : Text) :
    (ofCode language code).columns = Columns.ofCode language code := by
  have numbered : (ofCode language code).rows.map (fun row => (row.number, row.text)) =
      (List.range' 1 code.lines.length).zip code.lines := by
    rw [← List.zip_map', map_number_ofCode, map_text_ofCode, length_ofCode]
  have depth : depths language (code.lines.zip (stripLines language code.lines)) =
      if language.usesBraces then braceDepths 0 (stripLines language code.lines)
      else indentDepths 0 (code.lines.zip (stripLines language code.lines)) := by
    rw [depths, List.map_snd_zip (Nat.le_of_eq (length_stripLines ..))]
  simp only [columns, Columns.ofCode, numbered, map_statement_ofCode, map_stripped_ofCode,
    map_depth_ofCode, depth]
  rfl

end Program

/-- **The lists of every code are equally long**, in every language. -/
theorem Columns.ofCode_parallel (language : Language) (code : Text) :
    (Columns.ofCode language code).Parallel := by
  rw [← Program.columns_ofCode]
  exact Program.columns_parallel _

/-! ## The machine -/

/-- Where a machine stands: the phases of a stepper, and the state in which lines are being run. -/
inductive RunState where
  | loaded
  | running
  | paused
  | completed
  deriving Repr, DecidableEq

/-- A stepper over the lists of a program. -/
structure Machine where
  settings : Settings
  program : Columns
  session : Session
  /-- The index of the next line. -/
  pc : Nat
  state : RunState
  breakpoints : Breakpoints
  /-- The breakpoint line that the latest pause reported. -/
  lastHit : Option Nat
  deriving Repr, DecidableEq

/-- What is to be done about the next line. -/
inductive Look (σ : Type) where
  /-- Leave the loop before it. -/
  | halt
  /-- Run it and leave the loop. -/
  | last
  /-- Run it and look at the line after it. -/
  | next (carry : σ)
  deriving Repr, DecidableEq

namespace Machine

/-- How many lines the program has. -/
def lineCount (m : Machine) : Nat := m.program.lines.length

/-- The number of the next line. -/
def currentLine (m : Machine) : Option Nat :=
  if m.pc < m.lineCount then some (m.pc + 1) else none

/-- Preprocess a code and go before its first line. -/
def load (m : Machine) (language : Language) (code : Text) : Machine :=
  { m with
    program := .ofCode language code
    session := .start language m.settings
    pc := 0
    state := .loaded
    lastHit := none }

/-- A machine with nothing loaded. -/
def new (settings : Settings) : Machine :=
  { settings, program := .ofCode .java [], session := .start .java settings, pc := 0
    state := .loaded, breakpoints := [], lastHit := none }

/-- Go back to the first line with an empty session. -/
def restart (m : Machine) : Machine :=
  { m with session := m.session.reset, pc := 0, state := .loaded, lastHit := none }

/-- End the run. -/
def stop (m : Machine) : Machine := { m with state := .loaded, lastHit := none }

/-- A stopped run starts over, and what is not completed is running. -/
def begin (m : Machine) : Machine :=
  let m := if m.state = .loaded ∧ 0 < m.pc then m.restart else m
  if m.state = .completed then m else { m with state := .running }

/-- No line is left. -/
def complete (m : Machine) : Machine × List Event :=
  ({ m with state := .completed }, [.executionComplete])

/-- Pause at a breakpoint and report it. -/
def pauseAt (m : Machine) (line : Nat) : Machine × List Event :=
  ({ m with state := .paused, lastHit := some line }, [.breakpointHit line])

/-- Complete the run or pause. -/
def settle (reports : Bool) (m : Machine) : Machine × List Event :=
  let m := { m with lastHit := none }
  if m.pc < m.lineCount then
    if reports && m.breakpoints.contains (m.pc + 1) then m.pauseAt (m.pc + 1)
    else ({ m with state := .paused }, [])
  else m.complete

/-! ## Running lines -/

/-- **Run the line at the index**, read from the lists, and go on to the next. -/
def executeLine (m : Machine) : Option (Machine × List Event) := do
  let (number, text) ← m.program.lines[m.pc]?
  let statement ← m.program.statements[m.pc]?
  let (session, events) :=
    m.session.runRow { number, text, stripped := [], depth := 0, statement }
  return ({ m with session, pc := m.pc + 1 }, events)

/-- Do one thing and then another, reporting the events of both. -/
def andThen (first : Option (Machine × List Event))
    (next : Machine → Option (Machine × List Event)) : Option (Machine × List Event) := do
  let (m, events) ← first
  let (m, later) ← next m
  return (m, events ++ later)

/-- **Run lines as long as there are any**, looking at each before it is run.  The loop has to end
within so many rounds. -/
def runWhile {σ : Type} (look : σ → Machine → Option (Look σ)) :
    Nat → σ → Machine → Option (Machine × List Event)
  | 0, _, m => if m.pc < m.lineCount then none else some (m, [])
  | rounds + 1, carry, m =>
    if m.pc < m.lineCount then do
      match ← look carry m with
      | .halt => some (m, [])
      | .last => m.executeLine
      | .next carry => andThen m.executeLine (runWhile look rounds carry)
    else some (m, [])

/-- Run lines as long as there are any, none of them twice. -/
def run {σ : Type} (look : σ → Machine → Option (Look σ)) (carry : σ) (m : Machine) :
    Option (Machine × List Event) :=
  runWhile look (m.lineCount - m.pc) carry m

/-- Stop before a breakpoint, unless the run is resumed from it. -/
def lookForBreakpoint (resumed : Option Nat) (m : Machine) : Option (Look (Option Nat)) :=
  if resumed ≠ some (m.pc + 1) ∧ m.breakpoints.contains (m.pc + 1) then some .halt
  else some (.next none)

/-- Stop before a line with a number. -/
def lookForLine (target : Nat) (_ : Unit) (m : Machine) : Option (Look Unit) :=
  if m.pc + 1 < target then some (.next ()) else some .halt

/-- Stop behind the line that closes the enclosing braces. -/
def lookForClosing (depth : Int) (m : Machine) : Option (Look Int) := do
  let text ← m.program.stripped[m.pc]?
  let depth := if '{' ∈ text then depth + 1 else depth
  if '}' ∈ text then
    if depth - 1 < 0 then return .last else return .next (depth - 1)
  else return .next depth

/-- Stop behind a line with a lesser indentation. -/
def lookForDedent (base : Nat) (_ : Unit) (m : Machine) : Option (Look Unit) := do
  let text ← m.program.stripped[m.pc]?
  let depth ← m.program.depths[m.pc]?
  if !text.isAllBlank && depth < base then return .last else return .next ()

/-! ## Commands -/

/-- Run the next line. -/
def stepOver (m : Machine) : Option (Machine × List Event) :=
  let m := m.begin
  if m.pc < m.lineCount then andThen m.executeLine fun m => some (settle true m)
  else some m.complete

/-- Run to the end of the enclosing block. -/
def stepOut (m : Machine) : Option (Machine × List Event) :=
  let m := m.begin
  let ran :=
    if m.program.language.usesBraces then run lookForClosing 0 m
    else if m.pc < m.lineCount then do
      let base ← m.program.depths[m.pc]?
      run (lookForDedent base) () m
    else some (m, [])
  andThen ran fun m => some (settle true m)

/-- Run to the next breakpoint or the end. -/
def resume (m : Machine) : Option (Machine × List Event) :=
  let resumed := if m.state = .paused then m.lastHit else none
  let m := if m.state = .paused then { m with lastHit := none } else m
  andThen (run lookForBreakpoint resumed m.begin) fun m =>
    some (if m.pc < m.lineCount then m.pauseAt (m.pc + 1) else m.complete)

/-- Run all lines before another. -/
def runTo (target : Nat) (m : Machine) : Option (Machine × List Event) :=
  andThen (run (lookForLine target) () m.begin) fun m => some (settle false m)

/-- **Perform a command**, with every index checked. -/
def perform (m : Machine) : Command → Option (Machine × List Event)
  | .load code language => some (m.load (language.getD m.program.language) code, [])
  | .configure settings => some ({ m with settings }, [])
  | .toggleBreakpoint line => some ({ m with breakpoints := m.breakpoints.toggle line }, [])
  | .clearBreakpoints => some ({ m with breakpoints := [] }, [])
  | .stepOver | .stepInto => m.stepOver
  | .stepOut => m.stepOut
  | .resume => m.resume
  | .runTo line => m.runTo line
  | .stop => some (m.stop, [])
  | .restart => some (m.restart, [])

/-- Perform some commands, one after another. -/
def performAll (m : Machine) (commands : List Command) : Option Machine :=
  commands.foldlM (fun m command => (m.perform command).map Prod.fst) m

end Machine

end SnippetLab

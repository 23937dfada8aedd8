import Mathlib.Algebra.Ring.Parity
import SnippetLab.Proofs.Stepper.Machine
import SnippetLab.Proofs.Stepper.Resume

/-!
# The stepper's state machine is sound

A stepper does what the machine does that goes line by line and checks every index, so **no index is
ever out of range**; and whatever commands are given, a stepper rests in one of three phases that
say where it stands.

* `run_eq_advance` — a loop that looks at each line before it runs it is an advance by a number of
  lines.
* `perform_machine` — a command of the machine is the command of the stepper.
* `Machine.Sound` — what is true between two commands.
* `mem_breakpoints_iff` — the breakpoints are the lines toggled an odd number of times.
* `state_machine_is_sound` — all of it, after any commands.
-/

namespace SnippetLab

/-- The state of a machine at rest. -/
def Phase.runState : Phase → RunState
  | .loaded => .loaded
  | .paused => .paused
  | .completed => .completed

lemma Session.runRows_append (s : Session) (rows later : List Row) :
    s.runRows (rows ++ later) = (((s.runRows rows).1.runRows later).1,
      (s.runRows rows).2 ++ ((s.runRows rows).1.runRows later).2) := by
  induction rows generalizing s with
  | nil => rfl
  | cons row rest ih => simp only [List.cons_append, runRows, ih, List.append_assoc]

namespace Stepper

/-! ## The machine of a stepper -/

/-- A stepper as a machine in a given state. -/
def machineIn (s : Stepper) (state : RunState) : Machine where
  settings := s.settings
  program := s.program.columns
  session := s.session
  pc := s.position
  state := state
  breakpoints := s.breakpoints
  lastHit := s.lastHit

/-- **A stepper as a machine at rest.** -/
def machine (s : Stepper) : Machine := s.machineIn s.phase.runState

section MachineIn

variable (s : Stepper) (state : RunState)

@[simp] lemma lineCount_machineIn : (s.machineIn state).lineCount = s.program.length := by
  simp only [Machine.lineCount, machineIn, Program.columns, List.length_map, Program.length]

lemma pc_lt_lineCount_iff : (s.machineIn state).pc < (s.machineIn state).lineCount ↔
    s.atEnd = false := by
  rw [lineCount_machineIn]
  simp only [machineIn, atEnd, decide_eq_false_iff_not, Nat.not_le]

variable {s}

lemma pc_lt_lineCount (lineLeft : s.atEnd = false) :
    (s.machineIn state).pc < (s.machineIn state).lineCount :=
  (pc_lt_lineCount_iff s state).2 lineLeft

lemma not_pc_lt_lineCount (ended : s.atEnd = true) :
    ¬(s.machineIn state).pc < (s.machineIn state).lineCount := by
  rw [pc_lt_lineCount_iff, ended]
  simp

variable (s)

lemma currentLine_machineIn : (s.machineIn state).currentLine = s.currentLine := by
  unfold Machine.currentLine currentLine
  rw [if_congr (pc_lt_lineCount_iff s state) rfl rfl]
  cases s.atEnd with
  | false => rfl
  | true => rfl

end MachineIn

/-! ## Advancing line by line -/

lemma remaining_advance (s : Stepper) (count : Nat) :
    (s.advance count).1.remaining = s.remaining.drop count := by
  show s.program.rows.drop (s.position + (s.remaining.take count).length) = _
  rw [← List.drop_drop, ← remaining, List.length_take]
  rcases Nat.le_total count s.remaining.length with within | beyond
  · rw [Nat.min_eq_left within]
  · rw [Nat.min_eq_right beyond, List.drop_length, List.drop_of_length_le beyond]

/-- **Two advances are one.** -/
lemma advance_add (s : Stepper) (first second : Nat) :
    s.advance (first + second) = followedBy (s.advance first) fun t => t.advance second := by
  have rows : s.remaining.take (first + second) =
      s.remaining.take first ++ (s.advance first).1.remaining.take second := by
    rw [remaining_advance, List.take_add]
  have position : s.position + (s.remaining.take (first + second)).length =
      s.position + (s.remaining.take first).length +
        ((s.advance first).1.remaining.take second).length := by
    rw [rows, List.length_append, Nat.add_assoc]
  have run := s.session.runRows_append (s.remaining.take first)
    ((s.advance first).1.remaining.take second)
  rw [← rows] at run
  rw [advance, position, run]
  rfl

lemma advance_of_atEnd {s : Stepper} (ended : s.atEnd = true) (count : Nat) :
    s.advance count = (s, []) := by
  have none : s.remaining = [] := by
    simp only [atEnd, decide_eq_true_eq] at ended
    exact List.drop_of_length_le ended
  unfold advance
  rw [none, List.take_nil]
  rfl

/-- A line that is left is there to be read. -/
lemma exists_remaining {s : Stepper} (lineLeft : s.atEnd = false) :
    ∃ row rest, s.remaining = row :: rest ∧ s.program.rows[s.position]? = some row := by
  simp only [atEnd, decide_eq_false_iff_not, Nat.not_le] at lineLeft
  exact ⟨_, _, List.drop_eq_getElem_cons lineLeft, List.getElem?_eq_getElem lineLeft⟩

section AdvanceOne

variable {s : Stepper} {row : Row} {rest : List Row} (remaining : s.remaining = row :: rest)

include remaining

lemma remaining_advance_one : (s.advance 1).1.remaining = rest := by
  rw [remaining_advance, remaining]
  rfl

lemma position_advance_one : (s.advance 1).1.position = s.position + 1 := by
  show s.position + (s.remaining.take 1).length = _
  rw [remaining]
  rfl

end AdvanceOne

/-- **Running the line at the index is advancing by one line.** -/
lemma executeLine_machineIn {s : Stepper} (lineLeft : s.atEnd = false) (state : RunState) :
    (s.machineIn state).executeLine =
      some ((s.advance 1).1.machineIn state, (s.advance 1).2) := by
  obtain ⟨row, rest, remaining, read⟩ := exists_remaining lineLeft
  have one : s.session.runRows [row] = s.session.runRow row := by
    simp only [Session.runRows, List.append_nil]
  simp only [Machine.executeLine, machineIn, Program.columns, List.getElem?_map, read,
    Option.map_some, advance, remaining, List.take_succ_cons, List.take_zero, one]
  rfl

/-! ## The loops -/

section Loops

variable {σ τ : Type}

/-- **What a look at the next line says agrees with a count of the lines to run.**  The loop carries
`carry x` from line to line where the count carries `x`. -/
inductive Agrees (carry : τ → σ) (count : τ → Stepper → Nat) (s : Stepper) :
    Option (Look σ) → Nat → Prop where
  | halt : Agrees carry count s (some .halt) 0
  | last : Agrees carry count s (some .last) 1
  | next (y : τ) : Agrees carry count s (some (.next (carry y))) (count y (s.advance 1).1 + 1)

variable {look : σ → Machine → Option (Look σ)} {carry : τ → σ} {count : τ → Stepper → Nat}
  {state : RunState}

/-- **A loop whose looks agree with a count advances by that count**, and ends when no line is
left. -/
lemma runWhile_eq_advance {s : Stepper}
    (agrees : ∀ t : Stepper, t.program = s.program → t.breakpoints = s.breakpoints →
      t.atEnd = false → ∀ x, Agrees carry count t (look (carry x) (t.machineIn state)) (count x t))
    (rounds : Nat) (t : Stepper) (program : t.program = s.program)
    (breakpoints : t.breakpoints = s.breakpoints)
    (enough : t.program.length ≤ t.position + rounds) (x : τ) :
    Machine.runWhile look rounds (carry x) (t.machineIn state) =
      some ((t.advance (count x t)).1.machineIn state, (t.advance (count x t)).2) := by
  induction rounds generalizing t x with
  | zero =>
      have ended : t.atEnd = true := by simpa [atEnd] using enough
      rw [Machine.runWhile, if_neg (not_pc_lt_lineCount state ended), advance_of_atEnd ended]
  | succ rounds ih =>
      by_cases ended : t.atEnd = true
      · rw [Machine.runWhile, if_neg (not_pc_lt_lineCount state ended), advance_of_atEnd ended]
      · rw [Bool.not_eq_true] at ended
        have agreed := agrees t program breakpoints ended x
        rw [Machine.runWhile, if_pos (pc_lt_lineCount state ended)]
        generalize look (carry x) (t.machineIn state) = looked at agreed ⊢
        generalize count x t = lines at agreed ⊢
        cases agreed with
        | halt => rfl
        | last => exact executeLine_machineIn ended state
        | next y =>
            obtain ⟨row, rest, remaining, -⟩ := exists_remaining ended
            have enough' : (t.advance 1).1.program.length ≤ (t.advance 1).1.position + rounds := by
              rw [position_advance_one remaining]
              show t.program.length ≤ t.position + 1 + rounds
              omega
            have after := ih (t.advance 1).1 program breakpoints enough' y
            rw [Nat.add_comm, advance_add]
            show Machine.andThen _ _ = _
            rw [executeLine_machineIn ended]
            show (Machine.runWhile look rounds (carry y) _).bind _ = _
            rw [after]
            rfl

variable (state) in
/-- The loop of all commands, with as many rounds as lines are left. -/
theorem run_eq_advance {s : Stepper}
    (agrees : ∀ t : Stepper, t.program = s.program → t.breakpoints = s.breakpoints →
      t.atEnd = false → ∀ x, Agrees carry count t (look (carry x) (t.machineIn state)) (count x t))
    (x : τ) : Machine.run look (carry x) (s.machineIn state) =
      some ((s.advance (count x s)).1.machineIn state, (s.advance (count x s)).2) := by
  refine runWhile_eq_advance agrees _ s rfl rfl ?_ x
  rw [lineCount_machineIn]
  show s.program.length ≤ s.position + (s.program.length - s.position)
  omega

end Loops

/-! ## The looks -/

section Looks

variable {s : Stepper} (lineLeft : s.atEnd = false) (state : RunState)

include lineLeft

/-- A look for a breakpoint agrees with the way to it. -/
lemma agrees_breakpoint (numbered : s.Numbered) (resumed : Option Nat) :
    Agrees id (fun resumed t => rowsToBreakpoint t.breakpoints resumed t.remaining) s
      (Machine.lookForBreakpoint resumed (s.machineIn state))
      (rowsToBreakpoint s.breakpoints resumed s.remaining) := by
  obtain ⟨row, rest, remaining, -⟩ := exists_remaining lineLeft
  have number : row.number = s.position + 1 := by
    have numbers := remaining_numbered numbered
    rw [remaining] at numbers
    exact (numbered_tail numbers).1
  have tail := remaining_advance_one remaining
  by_cases stops : resumed ≠ some (s.position + 1) ∧ s.position + 1 ∈ s.breakpoints
  · have look : Machine.lookForBreakpoint resumed (s.machineIn state) = some .halt :=
      if_pos ⟨stops.1, List.contains_iff_mem.2 stops.2⟩
    rw [look, remaining, rowsToBreakpoint, number, if_pos stops]
    exact .halt
  · have look : Machine.lookForBreakpoint resumed (s.machineIn state) = some (.next none) :=
      if_neg fun both => stops ⟨both.1, List.contains_iff_mem.1 both.2⟩
    rw [look, remaining, rowsToBreakpoint, number, if_neg stops, ← tail]
    exact .next none

/-- A look for a line agrees with the lines before it. -/
lemma agrees_line (target : Nat) (x : Unit) :
    Agrees id (fun _ t => target - 1 - t.position) s
      (Machine.lookForLine target x (s.machineIn state)) (target - 1 - s.position) := by
  obtain ⟨row, rest, remaining, -⟩ := exists_remaining lineLeft
  have position := position_advance_one remaining
  by_cases before : s.position + 1 < target
  · have look : Machine.lookForLine target x (s.machineIn state) = some (.next ()) := if_pos before
    have lines : target - 1 - s.position = target - 1 - (s.advance 1).1.position + 1 := by omega
    rw [look, lines]
    exact .next ()
  · have look : Machine.lookForLine target x (s.machineIn state) = some .halt := if_neg before
    have lines : target - 1 - s.position = 0 := by omega
    rw [look, lines]
    exact .halt

/-- A look for the closing brace agrees with the way out of the block. -/
lemma agrees_closing (opened : Nat) :
    Agrees (fun opened : Nat => (opened : Int)) (fun opened t => rowsToBlockEnd opened t.remaining)
      s (Machine.lookForClosing opened (s.machineIn state))
      (rowsToBlockEnd opened s.remaining) := by
  obtain ⟨row, rest, remaining, read⟩ := exists_remaining lineLeft
  have text : (s.machineIn state).program.stripped[(s.machineIn state).pc]? =
      some row.stripped := by
    simp only [machineIn, Program.columns, List.getElem?_map, read, Option.map_some]
  have depth : (if '{' ∈ row.stripped then (opened : Int) + 1 else opened) =
      ((if '{' ∈ row.stripped then opened + 1 else opened : Nat) : Int) := by
    split
    · rfl
    · rfl
  rw [Machine.lookForClosing, text, remaining, rowsToBlockEnd]
  simp only [Option.bind_eq_bind, Option.bind_some, depth]
  generalize (if '{' ∈ row.stripped then opened + 1 else opened) = opened'
  rw [← remaining_advance_one remaining]
  by_cases closes : '}' ∈ row.stripped
  · rw [if_pos closes, if_pos closes]
    cases opened' with
    | zero => exact .last
    | succ n =>
        rw [if_neg (by omega), Int.natCast_succ, Int.add_sub_cancel]
        exact .next n
  · rw [if_neg closes, if_neg closes]
    exact .next opened'

/-- A look for a lesser indentation agrees with the way to it. -/
lemma agrees_dedent (base : Nat) (x : Unit) :
    Agrees id (fun _ t => rowsToDedent base t.remaining) s
      (Machine.lookForDedent base x (s.machineIn state)) (rowsToDedent base s.remaining) := by
  obtain ⟨row, rest, remaining, read⟩ := exists_remaining lineLeft
  have text : (s.machineIn state).program.stripped[(s.machineIn state).pc]? =
      some row.stripped := by
    simp only [machineIn, Program.columns, List.getElem?_map, read, Option.map_some]
  have depth : (s.machineIn state).program.depths[(s.machineIn state).pc]? = some row.depth := by
    simp only [machineIn, Program.columns, List.getElem?_map, read, Option.map_some]
  rw [Machine.lookForDedent, text, depth, remaining, rowsToDedent]
  simp only [Option.bind_eq_bind, Option.bind_some]
  by_cases dedents : (!row.stripped.isAllBlank && row.depth < base) = true
  · rw [if_pos dedents, if_pos dedents]
    exact .last
  · rw [if_neg dedents, if_neg dedents, ← remaining_advance_one remaining]
    exact .next ()

end Looks

/-! ## Commands -/

/-- The state in which a command runs lines: that of a completed run is kept. -/
def runningState (s : Stepper) : RunState :=
  if s.phase = .completed then .completed else .running

lemma begin_machine (s : Stepper) : s.machine.begin = s.begun.machineIn s.begun.runningState := by
  unfold begun
  split
  · rename_i stopped
    have stopped' : s.machine.state = .loaded ∧ 0 < s.machine.pc :=
      ⟨by simp only [machine, machineIn, stopped.1, Phase.runState], stopped.2⟩
    simp only [Machine.begin, if_pos stopped']
    rfl
  · rename_i going
    cases phase : s.phase with
    | loaded =>
        have going' : ¬(s.machine.state = .loaded ∧ 0 < s.machine.pc) :=
          fun both => going ⟨phase, both.2⟩
        simp only [Machine.begin, if_neg going']
        simp [machine, machineIn, runningState, phase, Phase.runState]
    | paused => simp [Machine.begin, machine, machineIn, runningState, phase, Phase.runState]
    | completed => simp [Machine.begin, machine, machineIn, runningState, phase, Phase.runState]

/-- A result of the stepper as one of the machine. -/
def toMachine (result : Stepper × List Event) : Machine × List Event :=
  (result.1.machine, result.2)

/-- **The machine comes to rest as the stepper does**, whatever state it was in. -/
lemma settle_machineIn (reports : Bool) (s : Stepper) (state : RunState) :
    Machine.settle reports (s.machineIn state) = toMachine (settle reports s) := by
  by_cases ended : s.atEnd = true
  · have machine : Machine.settle reports (s.machineIn state) =
        { s.machineIn state with lastHit := none }.complete :=
      if_neg (not_pc_lt_lineCount state ended)
    have stepper : settle reports s = { s with lastHit := none }.complete := if_pos ended
    rw [machine, stepper]
    rfl
  · have lineLeft := pc_lt_lineCount state (eq_false_of_ne_true ended)
    by_cases pauses : (reports && s.breakpoints.contains (s.position + 1)) = true
    · have machine : Machine.settle reports (s.machineIn state) =
          { s.machineIn state with lastHit := none }.pauseAt (s.position + 1) :=
        (if_pos lineLeft).trans (if_pos pauses)
      have stepper : settle reports s = { s with lastHit := none }.pauseAt (s.position + 1) :=
        (if_neg ended).trans (if_pos pauses)
      rw [machine, stepper]
      rfl
    · have machine : Machine.settle reports (s.machineIn state) =
          ({ s.machineIn state with lastHit := none, state := .paused }, []) :=
        (if_pos lineLeft).trans (if_neg pauses)
      have stepper : settle reports s = ({ s with lastHit := none, phase := .paused }, []) :=
        (if_neg ended).trans (if_neg pauses)
      rw [machine, stepper]
      rfl

/-- Running some lines and coming to rest. -/
lemma andThen_settle (reports : Bool) (ran : Stepper × List Event) (state : RunState) :
    Machine.andThen (some (ran.1.machineIn state, ran.2)) (fun m => some (m.settle reports)) =
      some (toMachine (followedBy ran (settle reports))) := by
  simp only [Machine.andThen, Option.bind_eq_bind, Option.bind_some, settle_machineIn]
  rfl

lemma stepOver_machine (s : Stepper) : s.machine.stepOver = some (toMachine s.stepOver) := by
  unfold Machine.stepOver stepOver
  rw [begin_machine]
  dsimp only
  by_cases ended : s.begun.atEnd = true
  · rw [if_neg (not_pc_lt_lineCount _ ended), if_pos ended]
    rfl
  · have lineLeft := eq_false_of_ne_true ended
    rw [if_pos (pc_lt_lineCount _ lineLeft), if_neg ended, executeLine_machineIn lineLeft]
    exact andThen_settle true _ _

lemma runTo_machine (s : Stepper) (target : Nat) :
    s.machine.runTo target = some (toMachine (s.runTo target)) := by
  unfold Machine.runTo
  rw [begin_machine]
  have ran := run_eq_advance (s := s.begun) s.begun.runningState
    (fun t _ _ lineLeft x => agrees_line lineLeft _ target x) ()
  rw [id] at ran
  rw [ran]
  exact andThen_settle false _ _

lemma stepOut_machine (s : Stepper) : s.machine.stepOut = some (toMachine s.stepOut) := by
  unfold Machine.stepOut
  rw [begin_machine]
  generalize s.begun.runningState = state
  suffices ran : (if (s.begun.machineIn state).program.language.usesBraces then
        Machine.run Machine.lookForClosing 0 (s.begun.machineIn state)
      else if (s.begun.machineIn state).pc < (s.begun.machineIn state).lineCount then do
        let base ← (s.begun.machineIn state).program.depths[(s.begun.machineIn state).pc]?
        Machine.run (Machine.lookForDedent base) () (s.begun.machineIn state)
      else some (s.begun.machineIn state, [])) =
      some ((s.begun.advance s.begun.rowsOut).1.machineIn state,
        (s.begun.advance s.begun.rowsOut).2) by
    dsimp only
    rw [ran]
    exact andThen_settle true _ _
  generalize s.begun = t
  have language : (t.machineIn state).program.language = t.program.language := rfl
  rw [language, rowsOut]
  by_cases braces : t.program.language.usesBraces = true
  · rw [if_pos braces, if_pos braces]
    exact run_eq_advance state (fun t _ _ lineLeft opened => agrees_closing lineLeft state opened) 0
  · rw [if_neg braces, if_neg braces]
    by_cases ended : t.atEnd = true
    · rw [if_neg (not_pc_lt_lineCount state ended), advance_of_atEnd ended]
    · rw [Bool.not_eq_true] at ended
      obtain ⟨row, rest, remaining, read⟩ := exists_remaining ended
      have depth : (t.machineIn state).program.depths[(t.machineIn state).pc]? =
          some row.depth := by
        simp only [machineIn, Program.columns, List.getElem?_map, read, Option.map_some]
      rw [if_pos (pc_lt_lineCount state ended), depth]
      simp only [remaining]
      have ran := run_eq_advance (s := t) state
        (fun t _ _ lineLeft x => agrees_dedent lineLeft state row.depth x) ()
      rw [remaining] at ran
      exact ran

/-- **A stepper remembers a breakpoint only while it is paused at it.** -/
def Remembers (s : Stepper) : Prop :=
  ∀ line, s.lastHit = some line → s.phase = .paused ∧ line = s.position + 1

lemma machine_state_eq_paused_iff (s : Stepper) :
    s.machine.state = .paused ↔ s.phase = .paused := by
  simp only [machine, machineIn]
  cases s.phase with
  | loaded => simp [Phase.runState]
  | paused => simp [Phase.runState]
  | completed => simp [Phase.runState]

lemma resume_machine {s : Stepper} (numbered : s.Numbered) (remembers : s.Remembers) :
    s.machine.resume = some (toMachine s.resume) := by
  -- a breakpoint is remembered in a pause only, so forgetting it elsewhere changes nothing
  have forgotten : (if s.machine.state = .paused then { s.machine with lastHit := none }
      else s.machine) = { s with lastHit := none }.machine := by
    rw [if_congr s.machine_state_eq_paused_iff rfl rfl]
    split
    · rfl
    · rename_i unpaused
      have none : s.lastHit = none :=
        Option.eq_none_iff_forall_not_mem.2 fun line hit => unpaused (remembers line hit).1
      simp only [machine, machineIn, none]
  have started : { s with lastHit := none }.begun.Numbered :=
    Numbered.begun (s := { s with lastHit := none }) numbered
  unfold Machine.resume resume
  rw [forgotten, if_congr s.machine_state_eq_paused_iff rfl rfl]
  have lastHit : s.machine.lastHit = s.lastHit := rfl
  dsimp only
  rw [begin_machine, lastHit]
  generalize (if s.phase = .paused then s.lastHit else none) = resumed
  generalize { s with lastHit := none }.begun = t at started ⊢
  have ran := run_eq_advance (s := t) t.runningState
    (fun u program _ lineLeft x => agrees_breakpoint lineLeft _
      (by rw [Numbered, program]; exact started) x) resumed
  rw [id] at ran
  rw [ran]
  simp only [Machine.andThen, Option.bind_eq_bind, Option.bind_some, followedBy]
  generalize (t.advance (rowsToBreakpoint t.breakpoints resumed t.remaining)).1 = u
  by_cases ended : u.atEnd = true
  · rw [if_neg (not_pc_lt_lineCount _ ended), if_pos ended]
    rfl
  · rw [if_pos (pc_lt_lineCount _ (eq_false_of_ne_true ended)), if_neg ended]
    rfl

/-- **A command of the machine is the command of the stepper**: every index is in range, every loop
ends, and the machine is then at rest as the stepper is. -/
theorem perform_machine {s : Stepper} (numbered : s.Numbered) (remembers : s.Remembers)
    (command : Command) : s.machine.perform command = some (toMachine (s.perform command)) := by
  cases command with
  | load code language =>
      show some (s.machine.load (language.getD s.program.language) code, []) = some _
      rw [Machine.load, ← Program.columns_ofCode]
      rfl
  | configure settings => rfl
  | toggleBreakpoint line => rfl
  | clearBreakpoints => rfl
  | stepOver => exact s.stepOver_machine
  | stepInto => exact s.stepOver_machine
  | stepOut => exact s.stepOut_machine
  | resume => exact resume_machine numbered remembers
  | runTo target => exact s.runTo_machine target
  | stop => rfl
  | restart => rfl

/-! ## What is remembered -/

lemma remembers_of_none {s : Stepper} (none : s.lastHit = none) : s.Remembers := by
  intro line hit
  rw [none] at hit
  cases hit

lemma remembers_pauseAt (s : Stepper) : (s.pauseAt (s.position + 1)).1.Remembers := by
  intro line hit
  cases hit
  exact ⟨rfl, rfl⟩

lemma remembers_settle (reports : Bool) (s : Stepper) : (settle reports s).1.Remembers := by
  unfold settle
  dsimp only
  split
  · exact remembers_of_none rfl
  · split
    · exact remembers_pauseAt { s with lastHit := none }
    · exact remembers_of_none rfl

/-- A run that has no line to begin with has nothing to remember. -/
lemma begun_lastHit {s : Stepper} (steady : s.Steady) (h : s.Remembers)
    (ended : s.begun.atEnd = true) : s.begun.lastHit = none := by
  by_cases stopped : s.phase = .loaded ∧ 0 < s.position
  · rw [begun, if_pos stopped]
    rfl
  · rw [begun, if_neg stopped] at ended ⊢
    refine Option.eq_none_iff_forall_not_mem.2 fun line hit => ?_
    have lineLeft := steady.paused (h line hit).1
    rw [ended] at lineLeft
    cases lineLeft

/-- **Whatever a command remembers, it is paused at.** -/
theorem Remembers.perform {s : Stepper} (h : s.Remembers) (steady : s.Steady)
    (command : Command) : (s.perform command).1.Remembers := by
  have stepped : s.stepOver.1.Remembers := by
    unfold stepOver
    dsimp only
    split
    · rename_i ended
      exact remembers_of_none (begun_lastHit steady h ended)
    · exact remembers_settle true _
  cases command with
  | load code language => exact remembers_of_none rfl
  | configure settings => exact h
  | toggleBreakpoint line => exact h
  | clearBreakpoints => exact h
  | stepOver => exact stepped
  | stepInto => exact stepped
  | stepOut => exact remembers_settle true _
  | runTo target => exact remembers_settle false _
  | resume =>
      show s.resume.1.Remembers
      rw [resume_eq_advance, followedBy]
      dsimp only
      generalize (s.begun.advance _).1 = t
      split
      · exact remembers_of_none rfl
      · exact remembers_pauseAt { t with lastHit := none }
  | stop => exact remembers_of_none rfl
  | restart => exact remembers_of_none rfl

lemma watch_concat (settings : Settings) (before : List Command) (command : Command) :
    (watch settings (before ++ [command])).stepper =
      ((watch settings before).stepper.perform command).1 := by
  unfold watch
  rw [List.foldl_append]
  rfl

/-- **The machine follows the stepper through any commands.** -/
theorem performAll_eq_watch (settings : Settings) (commands : List Command) :
    (Machine.new settings).performAll commands =
        some (watch settings commands).stepper.machine ∧
      (watch settings commands).stepper.Remembers := by
  induction commands using List.reverseRecOn with
  | nil =>
      have new : Machine.new settings = (Stepper.new settings).machine := by
        rw [Machine.new, ← Program.columns_ofCode]
        rfl
      exact ⟨congrArg some new, remembers_of_none rfl⟩
  | append_singleton before command ih =>
      have steady := steady_watch settings before
      obtain ⟨same, remembers⟩ := ih
      rw [watch_concat]
      refine ⟨?_, remembers.perform steady command⟩
      unfold Machine.performAll at same ⊢
      rw [List.foldlM_append, same]
      simp only [Option.bind_eq_bind, Option.bind_some, List.foldlM_cons, List.foldlM_nil,
        perform_machine steady.numbered remembers command]
      rfl

end Stepper

/-! ## Between two commands -/

/-- **What is true of a machine at rest.** -/
structure Machine.Sound (m : Machine) : Prop where
  not_running : m.state ≠ .running
  pc_le : m.pc ≤ m.lineCount
  paused : m.state = .paused → m.pc < m.lineCount
  completed : m.state = .completed → m.pc = m.lineCount
  currentLine_eq_none_iff : m.currentLine = none ↔ m.pc = m.lineCount
  /-- A breakpoint is remembered only while the machine is paused at it. -/
  lastHit : ∀ line, m.lastHit = some line → m.state = .paused ∧ line = m.pc + 1
  /-- The lists of the program are equally long. -/
  parallel : m.program.Parallel

/-- A steady stepper that remembers only where it is paused is a sound machine. -/
lemma Stepper.sound_machine {s : Stepper} (steady : s.Steady) (remembers : s.Remembers) :
    s.machine.Sound := by
  have count : s.machine.lineCount = s.program.length := lineCount_machineIn s _
  have within := steady.position_le
  have ended_iff : s.atEnd = true ↔ s.position = s.program.length := by
    simp only [atEnd, decide_eq_true_eq]
    omega
  refine
    { not_running := ?_
      pc_le := ?_
      paused := ?_
      completed := ?_
      currentLine_eq_none_iff := ?_
      lastHit := ?_
      parallel := s.program.columns_parallel }
  · simp only [machine, machineIn]
    cases s.phase with
    | loaded => simp [Phase.runState]
    | paused => simp [Phase.runState]
    | completed => simp [Phase.runState]
  · rw [count]
    exact within
  · intro paused
    exact pc_lt_lineCount _ (steady.paused (s.machine_state_eq_paused_iff.1 paused))
  · intro completed
    have phase : s.phase = .completed := by
      cases phase : s.phase with
      | completed => rfl
      | loaded => simp [machine, machineIn, phase, Phase.runState] at completed
      | paused => simp [machine, machineIn, phase, Phase.runState] at completed
    rw [count]
    exact ended_iff.1 (steady.completed phase)
  · rw [count]
    show _ ↔ s.position = s.program.length
    rw [← ended_iff, machine, currentLine_machineIn, currentLine]
    cases s.atEnd with
    | true => simp
    | false => simp
  · intro line hit
    rw [machine_state_eq_paused_iff]
    exact remembers line hit

/-! ## Breakpoints -/

namespace Breakpoints

lemma pairwise_insert {line : Nat} {points : Breakpoints} (sorted : points.Pairwise (· < ·))
    (unset : line ∉ points) : (insert line points).Pairwise (· < ·) := by
  induction points with
  | nil => simp [insert]
  | cons other rest ih =>
      obtain ⟨first, sorted⟩ := List.pairwise_cons.1 sorted
      obtain ⟨differs, unset⟩ := not_or.1 (List.mem_cons.not.1 unset)
      unfold insert
      split
      · rename_i before
        refine List.pairwise_cons.2 ⟨fun later mem => ?_, List.pairwise_cons.2 ⟨first, sorted⟩⟩
        rcases List.mem_cons.1 mem with rfl | mem
        · exact before
        · exact Nat.lt_trans before (first later mem)
      · rename_i behind
        refine List.pairwise_cons.2 ⟨fun later mem => ?_, ih sorted unset⟩
        rcases mem_insert.1 mem with rfl | mem
        · omega
        · exact first later mem

/-- **Toggling keeps the breakpoints in ascending order**, each in it once. -/
lemma pairwise_toggle {line : Nat} {points : Breakpoints} (sorted : points.Pairwise (· < ·)) :
    (points.toggle line).Pairwise (· < ·) := by
  unfold toggle
  split
  · exact sorted.filter _
  · rename_i unset
    exact pairwise_insert sorted fun mem => unset (List.contains_iff_mem.2 mem)

end Breakpoints

/-- The line that a command toggles the breakpoint of. -/
def Command.toggled? : Command → Option Nat
  | .toggleBreakpoint line => some line
  | _ => none

/-- **The lines toggled since the breakpoints were cleared last**, the latest first. -/
def toggledSinceClear (commands : List Command) : List Nat :=
  (commands.reverse.takeWhile (· ≠ .clearBreakpoints)).filterMap Command.toggled?

lemma toggledSinceClear_concat (before : List Command) (command : Command) :
    toggledSinceClear (before ++ [command]) =
      match command with
      | .clearBreakpoints => []
      | .toggleBreakpoint line => line :: toggledSinceClear before
      | _ => toggledSinceClear before := by
  unfold toggledSinceClear
  rw [List.reverse_append, List.reverse_singleton, List.singleton_append, List.takeWhile_cons]
  cases command with
  | clearBreakpoints => rfl
  | _ => rfl

namespace Stepper

/-- Only toggling and clearing changes the breakpoints. -/
lemma perform_breakpoints (s : Stepper) (command : Command) :
    (s.perform command).1.breakpoints =
      match command with
      | .clearBreakpoints => []
      | .toggleBreakpoint line => s.breakpoints.toggle line
      | _ => s.breakpoints := by
  by_cases runs : command.runsLines = true
  · obtain ⟨count, next, rests, same⟩ := s.perform_eq_advance runs
    obtain ⟨⟨phase, lastHit, -, rested⟩, -⟩ := rests (s.begun.advance count).1
    have kept : (s.perform command).1.breakpoints = s.breakpoints := by
      rw [same, followedBy, rested]
      exact s.begun_breakpoints
    cases command with
    | clearBreakpoints => simp [Command.runsLines] at runs
    | toggleBreakpoint line => simp [Command.runsLines] at runs
    | _ => exact kept
  · cases command with
    | clearBreakpoints => rfl
    | toggleBreakpoint line => rfl
    | load code language => rfl
    | configure settings => rfl
    | stop => rfl
    | restart => rfl
    | _ => exact absurd rfl runs

/-- **The breakpoints are the lines toggled an odd number of times** since they were cleared last,
in ascending order. -/
theorem mem_breakpoints_iff (settings : Settings) (commands : List Command) :
    (watch settings commands).stepper.breakpoints.Pairwise (· < ·) ∧
      ∀ line, line ∈ (watch settings commands).stepper.breakpoints ↔
        Odd ((toggledSinceClear commands).count line) := by
  induction commands using List.reverseRecOn with
  | nil => exact ⟨.nil, fun line => by simp [watch, new, toggledSinceClear]⟩
  | append_singleton before command ih =>
      obtain ⟨sorted, mem_iff⟩ := ih
      rw [watch_concat, perform_breakpoints, toggledSinceClear_concat]
      cases command with
      | clearBreakpoints => exact ⟨.nil, fun line => by simp⟩
      | toggleBreakpoint toggled =>
          refine ⟨Breakpoints.pairwise_toggle sorted, fun line => ?_⟩
          rw [Breakpoints.mem_toggle, List.count_cons, mem_iff]
          by_cases same : line = toggled
          · rw [if_pos same, if_pos (by simp [same]), Nat.odd_add_one]
          · rw [if_neg same, if_neg (by simpa using Ne.symm same), Nat.add_zero]
      | _ => exact ⟨sorted, mem_iff⟩

/-! ## The result -/

/-- **The stepper's state machine is sound.**  After any commands, the machine that goes line by
line and checks every index has performed all of them: no index into the lines, the statements, the
stripped lines or the depths has been out of range.  It stands where the stepper stands, loaded,
paused or completed and never running; a pause is before a line and completion behind the last, the
current line is none exactly behind the last, and a breakpoint is remembered only while paused at
it.  The breakpoints are the lines toggled an odd number of times since they were cleared last. -/
theorem state_machine_is_sound (settings : Settings) (commands : List Command) :
    let s := (watch settings commands).stepper
    (Machine.new settings).performAll commands = some s.machine ∧ s.machine.Sound ∧
      s.machine.currentLine = s.currentLine ∧ s.breakpoints.Pairwise (· < ·) ∧
      ∀ line, line ∈ s.breakpoints ↔ Odd ((toggledSinceClear commands).count line) := by
  intro s
  obtain ⟨performed, remembers⟩ := performAll_eq_watch settings commands
  obtain ⟨sorted, mem_iff⟩ := mem_breakpoints_iff settings commands
  exact ⟨performed, sound_machine (steady_watch settings commands) remembers,
    currentLine_machineIn s _, sorted, mem_iff⟩

end Stepper

end SnippetLab

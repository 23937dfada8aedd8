import Mathlib.Data.List.Induction
import SnippetLab.Proofs.Stepper.Replay

/-!
# How a stepper comes to rest

A command that runs lines ends in one of three ways: no line is left, it pauses and reports the
breakpoint it has come to, or it pauses and reports nothing.  **Only the first two are told by an
event of their own, and only at the very end.**

* `Settled` — the three ways, each with what is true of the stepper then.
* `perform_settles` — every command that runs lines ends in one of them.
* `Steady` — what every stepper has in common that some commands have led to: its lines are
  numbered from one, it is completed behind the last and paused before it.
-/

namespace SnippetLab

/-- Does an event tell how a command has ended? -/
def Event.isEnding : Event → Bool
  | .breakpointHit _ | .executionComplete => true
  | .lineExecuted .. | .variableChanged _ | .output _ | .error .. | .callStackUpdated _ => false

/-- Does a command that runs lines report the breakpoint it pauses at?  Running to a line does
not. -/
def Command.reports : Command → Bool
  | .runTo _ => false
  | _ => true

namespace Session

lemma eventsOf_not_ending (s : Session) (effect : Effect) :
    ∀ e ∈ s.eventsOf effect, e.isEnding = false := by
  rcases effect with _ | name | text | _
  · simp [eventsOf]
  · cases found : s.binding? name with
    | none => simp [eventsOf, found]
    | some b => simp [eventsOf, found, Event.isEnding]
  · simp [eventsOf, Event.isEnding]
  · simp [eventsOf]

lemma runRow_not_ending (s : Session) (row : Row) :
    ∀ e ∈ (s.runRow row).2, e.isEnding = false := by
  by_cases idle : row.statement.isIdle = true
  · simp [runRow, idle, Event.isEnding]
  · rw [Bool.not_eq_true] at idle
    cases applied : s.apply row.number row.statement with
    | error e => simp [runRow, idle, applied, Event.isEnding]
    | ok result =>
        intro e told
        simp only [runRow, idle, applied, Bool.false_eq_true, if_false, List.mem_append,
          List.mem_cons, List.not_mem_nil, or_false] at told
        rcases told with early | rfl | rfl
        · exact eventsOf_not_ending _ _ e early
        · rfl
        · rfl

/-- No line tells how a command has ended. -/
theorem runRows_not_ending (s : Session) (rows : List Row) :
    ∀ e ∈ (s.runRows rows).2, e.isEnding = false := by
  induction rows generalizing s with
  | nil =>
      intro e told
      cases told
  | cons row rest ih =>
      intro e told
      rcases List.mem_append.1 told with here | later
      · exact runRow_not_ending s row e here
      · exact ih _ e later

end Session

/-! ## The way to a breakpoint -/

section Breakpoints

variable {points : Breakpoints} {resumed : Option Nat} {rows : List Row} {first stop : Nat}

/-- The numbers of a program's lines behind the first of them. -/
lemma numbered_tail {row : Row} (numbered : (row :: rows).map Row.number =
    List.range' first (row :: rows).length) :
    row.number = first ∧ rows.map Row.number = List.range' (first + 1) rows.length := by
  rw [List.map_cons, List.length_cons, List.range'_succ, List.cons.injEq] at numbered
  exact numbered

/-- A run that does not reach the end has come to a breakpoint. -/
lemma mem_of_rowsToBreakpoint_lt (numbered : rows.map Row.number = List.range' first rows.length)
    (inside : rowsToBreakpoint points resumed rows < rows.length) :
    first + rowsToBreakpoint points resumed rows ∈ points := by
  induction rows generalizing first resumed with
  | nil => exact absurd inside (Nat.not_lt_zero _)
  | cons row rest ih =>
      obtain ⟨rfl, tail⟩ := numbered_tail numbered
      unfold rowsToBreakpoint at inside ⊢
      split
      · rename_i stops
        exact stops.2
      · rename_i passes
        rw [if_neg passes, List.length_cons] at inside
        have found := ih tail (Nat.lt_of_succ_lt_succ inside)
        rwa [Nat.add_right_comm, Nat.add_assoc] at found

/-- **The way to a breakpoint leads to the least one**, the line resumed from left out. -/
theorem rowsToBreakpoint_eq_sub
    (numbered : rows.map Row.number = List.range' first rows.length)
    (set : stop ∈ points) (ahead : first ≤ stop) (inside : stop < first + rows.length)
    (passed : resumed = some first → first < stop)
    (least : ∀ line ∈ points, first ≤ line → (resumed = some first → first < line) →
      stop ≤ line) :
    rowsToBreakpoint points resumed rows = stop - first := by
  induction rows generalizing first resumed with
  | nil => exact absurd inside (Nat.not_lt.2 ahead)
  | cons row rest ih =>
      obtain ⟨rfl, tail⟩ := numbered_tail numbered
      unfold rowsToBreakpoint
      split
      · rename_i stops
        have here := least row.number stops.2 (Nat.le_refl _) fun same => absurd same stops.1
        omega
      · rename_i passes
        have beyond : row.number < stop := by
          by_cases same : resumed = some row.number
          · exact passed same
          · have unset : row.number ∉ points := fun set => passes ⟨same, set⟩
            exact Nat.lt_of_le_of_ne ahead fun here => unset (here ▸ set)
        rw [List.length_cons] at inside
        rw [ih tail beyond (by omega) (fun none => by cases none)
          fun line set further _ => least line set (Nat.le_of_lt further) fun _ => further]
        omega

/-- Without a breakpoint ahead the way leads to the end. -/
theorem rowsToBreakpoint_eq_length
    (numbered : rows.map Row.number = List.range' first rows.length)
    (clear : ∀ line ∈ points, first ≤ line → line < first + rows.length →
      ¬(resumed = some first → first < line)) :
    rowsToBreakpoint points resumed rows = rows.length := by
  induction rows generalizing first resumed with
  | nil => rfl
  | cons row rest ih =>
      obtain ⟨rfl, tail⟩ := numbered_tail numbered
      rw [List.length_cons] at clear
      unfold rowsToBreakpoint
      split
      · rename_i stops
        exact absurd (fun same => absurd same stops.1)
          (clear row.number stops.2 (Nat.le_refl _) (by omega))
      · rw [ih tail fun line set further within => ?_, List.length_cons]
        have shown := clear line set (by omega) (by omega)
        exact absurd (fun _ => further) shown

end Breakpoints

namespace Stepper

/-! ## Coming to rest -/

/-- The lines of the program are numbered from one. -/
def Numbered (s : Stepper) : Prop :=
  s.program.rows.map Row.number = List.range' 1 s.program.length

/-- **The three ways a stepper comes to rest**, and what it says then, where `reports` tells whether
a breakpoint is reported. -/
inductive Settled (reports : Bool) (s : Stepper) : Stepper × List Event → Prop where
  /-- No line is left. -/
  | completed (ended : s.atEnd = true) (lastHit : Option Nat) :
      Settled reports s ({ s with phase := .completed, lastHit }, [.executionComplete])
  /-- The next line has a breakpoint, which is reported. -/
  | reported (lineLeft : s.atEnd = false) (speaks : reports = true)
      (set : s.position + 1 ∈ s.breakpoints) :
      Settled reports s ({ s with phase := .paused, lastHit := some (s.position + 1) },
        [.breakpointHit (s.position + 1)])
  /-- There is a next line, and nothing is to be said about it. -/
  | paused (lineLeft : s.atEnd = false) (quiet : reports = true → s.position + 1 ∉ s.breakpoints) :
      Settled reports s ({ s with phase := .paused, lastHit := none }, [])

lemma settled_settle (reports : Bool) (s : Stepper) : Settled reports s (settle reports s) := by
  unfold settle
  dsimp only
  split
  · rename_i ended
    exact Settled.completed (s := s) ended none
  · rename_i lineLeft
    rw [Bool.not_eq_true] at lineLeft
    split
    · rename_i set
      rw [Bool.and_eq_true, List.contains_iff_mem] at set
      exact Settled.reported (s := s) lineLeft set.1 set.2
    · rename_i unset
      rw [Bool.and_eq_true, List.contains_iff_mem] at unset
      exact Settled.paused (s := s) lineLeft fun speaks set => unset ⟨speaks, set⟩

lemma remaining_numbered {s : Stepper} (numbered : s.Numbered) :
    s.remaining.map Row.number = List.range' (s.position + 1) s.remaining.length := by
  rw [remaining, List.map_drop, numbered, List.drop_range', Program.length, List.length_drop]
  congr 1
  omega

/-- A run to the next breakpoint ends there or behind the last line. -/
lemma settled_resume {s : Stepper} (numbered : s.Numbered) (resumed : Option Nat) :
    let t := (s.advance (rowsToBreakpoint s.breakpoints resumed s.remaining)).1
    Settled true t (if t.atEnd then { t with lastHit := none }.complete
      else { t with lastHit := none }.pauseAt (t.position + 1)) := by
  intro t
  split
  · rename_i ended
    exact .completed ended none
  · rename_i lineLeft
    rw [Bool.not_eq_true] at lineLeft
    refine .reported lineLeft rfl ?_
    have position : t.position = s.position +
        (s.remaining.take (rowsToBreakpoint s.breakpoints resumed s.remaining)).length := rfl
    have before : t.position < s.program.rows.length := by
      have program : t.program = s.program := rfl
      simpa [atEnd, program, Program.length] using lineLeft
    have length : s.remaining.length = s.program.rows.length - s.position := List.length_drop
    rw [List.length_take] at position
    have inside : rowsToBreakpoint s.breakpoints resumed s.remaining < s.remaining.length := by
      omega
    rw [Nat.min_eq_left (Nat.le_of_lt inside)] at position
    have set := mem_of_rowsToBreakpoint_lt (remaining_numbered numbered) inside
    rw [position]
    rwa [Nat.add_right_comm] at set

/-- **Every command that runs lines advances from where the run begins, and comes to rest in one of
the three ways.** -/
theorem perform_settles {s : Stepper} (numbered : s.begun.Numbered) {command : Command}
    (runs : command.runsLines = true) :
    ∃ count rest, Settled command.reports (s.begun.advance count).1 rest ∧
      s.perform command = (rest.1, (s.begun.advance count).2 ++ rest.2) := by
  have stepped : ∃ count rest, Settled true (s.begun.advance count).1 rest ∧
      s.stepOver = (rest.1, (s.begun.advance count).2 ++ rest.2) := by
    by_cases ended : s.begun.atEnd = true
    · refine ⟨0, _, .completed ended s.begun.lastHit, ?_⟩
      simp only [stepOver, ended, if_true]
      rfl
    · refine ⟨1, _, settled_settle true _, ?_⟩
      simp only [stepOver, ended]
      rfl
  cases command with
  | stepOver => exact stepped
  | stepInto => exact stepped
  | stepOut => exact ⟨_, _, settled_settle true _, rfl⟩
  | runTo target => exact ⟨_, _, settled_settle false _, rfl⟩
  | resume => exact ⟨_, _, settled_resume numbered _, s.resume_eq_advance⟩
  | _ => simp [Command.runsLines] at runs

/-! ## What commands keep -/

/-- What any stepper has in common that commands have led to. -/
structure Steady (s : Stepper) : Prop where
  numbered : s.Numbered
  position_le : s.position ≤ s.program.length
  /-- A paused stepper has a line to go on with. -/
  paused : s.phase = .paused → s.atEnd = false
  completed : s.phase = .completed → s.atEnd = true

lemma begun_program (s : Stepper) : s.begun.program = s.program := by
  unfold begun
  split
  · rfl
  · rfl

lemma Numbered.begun {s : Stepper} (h : s.Numbered) : s.begun.Numbered := by
  unfold Numbered
  rw [begun_program]
  exact h

/-- Where the run begins there are no more lines before the position than the program has. -/
lemma begun_position_le {s : Stepper} (h : s.position ≤ s.program.length) :
    s.begun.position ≤ s.begun.program.length := by
  unfold Stepper.begun
  split
  · exact Nat.zero_le _
  · exact h

lemma advance_position_le {s : Stepper} (h : s.position ≤ s.program.length) (count : Nat) :
    (s.advance count).1.position ≤ (s.advance count).1.program.length := by
  show s.position + (s.remaining.take count).length ≤ s.program.length
  have length : s.remaining.length = s.program.length - s.position := List.length_drop
  rw [List.length_take]
  omega

namespace Steady

lemma of_settled {reports : Bool} {s : Stepper} {rest : Stepper × List Event}
    (settled : Settled reports s rest) (numbered : s.Numbered)
    (within : s.position ≤ s.program.length) : Steady rest.1 := by
  cases settled with
  | completed ended lastHit => exact ⟨numbered, within, nofun, fun _ => ended⟩
  | reported lineLeft _ _ => exact ⟨numbered, within, fun _ => lineLeft, nofun⟩
  | paused lineLeft _ => exact ⟨numbered, within, fun _ => lineLeft, nofun⟩

/-- Before its first line, or stopped, a stepper only has to be numbered. -/
lemma of_loaded {s : Stepper} (numbered : s.Numbered) (within : s.position ≤ s.program.length)
    (loaded : s.phase = .loaded) : s.Steady where
  numbered := numbered
  position_le := within
  paused := fun other => by simp [loaded] at other
  completed := fun other => by simp [loaded] at other

lemma of_load (s : Stepper) (language : Language) (code : Text) :
    (s.load language code).Steady := by
  refine of_loaded ?_ (Nat.zero_le _) rfl
  have all := map_number_take language code (Nat.le_refl _)
  rwa [Program.length, List.take_length] at all

/-- **A command keeps a stepper steady.** -/
theorem perform {s : Stepper} (h : s.Steady) (command : Command) :
    (s.perform command).1.Steady := by
  by_cases runs : command.runsLines = true
  · obtain ⟨count, rest, settled, same⟩ := perform_settles h.numbered.begun runs
    have numbered : (s.begun.advance count).1.Numbered := h.numbered.begun
    have within := advance_position_le (begun_position_le h.position_le) count
    have rested := of_settled settled numbered within
    rw [same]
    exact rested
  · cases command with
    | load code language => exact of_load s _ code
    | stop => exact of_loaded h.numbered h.position_le rfl
    | restart => exact of_loaded h.numbered (Nat.zero_le _) rfl
    | configure settings => exact { h with }
    | toggleBreakpoint line => exact { h with }
    | clearBreakpoints => exact { h with }
    | _ => exact absurd rfl runs

end Steady

/-- **Whatever commands have been given, the stepper is steady.** -/
theorem steady_watch (settings : Settings) (commands : List Command) :
    (watch settings commands).stepper.Steady := by
  induction commands using List.reverseRecOn with
  | nil => exact Steady.of_load (.new settings) .java []
  | append_singleton before command ih =>
      rw [watch, List.foldl_append]
      exact ih.perform command

end Stepper

end SnippetLab

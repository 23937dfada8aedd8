import SnippetLab.Proofs.Session.Replay
import SnippetLab.Proofs.Source.Rows
import SnippetLab.Stepper.Basic

/-!
# Stepping is replaying

Whatever commands a stepper is given, its session is the replay of the lines before its position,
from a session as the latest load began it.  Commands differ in how many lines they run and never
in what running a line does, so **the position alone decides the session**.

* `Setup` — what the latest load loaded, and the settings it was loaded under.
* `Stepper.watch` — a new stepper after some commands, with the events since its session began.
* `perform_eq_advance` — every command that runs lines advances and then comes to rest.
* `Replays` — the invariant: the program is the one loaded, the session is the replay of the lines
  before the position, and the events report just those lines.
* `stepping_replays_lines` — the invariant holds after any commands, and a run that starts over
  cannot be told from one just loaded.
-/

namespace SnippetLab

/-- Does a command run lines? -/
def Command.runsLines : Command → Bool
  | .stepOver | .stepInto | .stepOut | .resume | .runTo _ => true
  | .load .. | .configure _ | .toggleBreakpoint _ | .clearBreakpoints | .stop | .restart => false

/-! ## What is loaded -/

/-- What a stepper's session is begun from. -/
structure Setup where
  language : Language
  code : Text
  /-- The settings in force at the latest load. -/
  settings : Settings
  /-- The settings in force now; they count from the next load on. -/
  pending : Settings
  deriving Repr, DecidableEq

namespace Setup

/-- Nothing is loaded into a new stepper: a Java snippet without lines. -/
def initial (settings : Settings) : Setup := ⟨.java, [], settings, settings⟩

/-- What a command changes of it.  A load without a language keeps that of the load before. -/
def next (setup : Setup) : Command → Setup
  | .load code language =>
    { setup with language := language.getD setup.language, code, settings := setup.pending }
  | .configure settings => { setup with pending := settings }
  | _ => setup

end Setup

namespace Stepper

/-- The stepper with its snippet loaded afresh, under the settings of the latest load. -/
def reloaded (s : Stepper) (setup : Setup) : Stepper :=
  { { s with settings := setup.settings }.load setup.language setup.code with
    settings := s.settings }

/-! ## A stepper under watch -/

/-- Does a command begin a session?  Loading and restarting do, and so does running lines after a
stop. -/
def renews (s : Stepper) (command : Command) : Bool :=
  match command with
  | .load .. | .restart => true
  | _ => command.runsLines && decide (s.phase = .loaded ∧ 0 < s.position)

/-- A stepper, and what it has reported since its session began. -/
structure Watched where
  stepper : Stepper
  events : List Event
  deriving Repr, DecidableEq

/-- Perform a command under watch. -/
def Watched.perform (w : Watched) (command : Command) : Watched :=
  { stepper := (w.stepper.perform command).1
    events := (if w.stepper.renews command then [] else w.events) ++
      (w.stepper.perform command).2 }

/-- A new stepper after some commands. -/
def watch (settings : Settings) (commands : List Command) : Watched :=
  commands.foldl Watched.perform ⟨.new settings, []⟩

/-! ## What a command can do

A command that runs lines is an advance by some number of lines, from where the run begins, and a
way of coming to rest that runs none.
-/

/-- A stepper comes to rest: it is no longer before its first line, and nothing is run. -/
def Rests (s : Stepper) (result : Stepper × List Event) : Prop :=
  (∃ phase lastHit, phase ≠ .loaded ∧ result.1 = { s with phase, lastHit }) ∧
    result.2.filterMap Event.ranLine? = []

lemma rests_complete (s : Stepper) : Rests s s.complete :=
  ⟨⟨.completed, s.lastHit, by simp, rfl⟩, rfl⟩

lemma rests_settle (reports : Bool) (s : Stepper) : Rests s (settle reports s) := by
  unfold settle
  dsimp only
  split
  · exact ⟨⟨.completed, none, by simp, rfl⟩, rfl⟩
  · split
    · exact ⟨⟨.paused, some (s.position + 1), by simp, rfl⟩, rfl⟩
    · exact ⟨⟨.paused, none, by simp, rfl⟩, rfl⟩

/-- How `resume` comes to rest, once it has forgotten the breakpoint it resumed from. -/
lemma rests_resume (s : Stepper) :
    Rests s (if s.atEnd then { s with lastHit := none }.complete
      else { s with lastHit := none }.pauseAt (s.position + 1)) := by
  split
  · exact ⟨⟨.completed, none, by simp, rfl⟩, rfl⟩
  · exact ⟨⟨.paused, some (s.position + 1), by simp, rfl⟩, rfl⟩

/-- Forgetting a breakpoint and beginning may be done in either order. -/
lemma begun_forgetting (s : Stepper) :
    { s with lastHit := none }.begun = { s.begun with lastHit := none } := by
  unfold begun
  dsimp only
  split
  · rfl
  · rfl

lemma resume_eq_advance (s : Stepper) :
    s.resume = followedBy (s.begun.advance (rowsToBreakpoint s.begun.breakpoints
        (if s.phase = .paused then s.lastHit else none) s.begun.remaining)) fun t =>
      if t.atEnd then { t with lastHit := none }.complete
      else { t with lastHit := none }.pauseAt (t.position + 1) := by
  simp only [resume, begun_forgetting]
  rfl

/-- **Every command that runs lines advances from where the run begins, and then rests.** -/
theorem perform_eq_advance (s : Stepper) {command : Command} (runs : command.runsLines = true) :
    ∃ count next, (∀ t, Rests t (next t)) ∧
      s.perform command = followedBy (s.begun.advance count) next := by
  have stepped : ∃ count next, (∀ t, Rests t (next t)) ∧
      s.stepOver = followedBy (s.begun.advance count) next := by
    by_cases ended : s.begun.atEnd = true
    · exact ⟨0, complete, rests_complete, by simp only [stepOver, ended, if_true]; rfl⟩
    · exact ⟨1, settle true, rests_settle true, by simp only [stepOver, ended]; rfl⟩
  cases command with
  | stepOver => exact stepped
  | stepInto => exact stepped
  | stepOut => exact ⟨_, settle true, rests_settle true, rfl⟩
  | runTo target => exact ⟨_, settle false, rests_settle false, rfl⟩
  | resume => exact ⟨_, _, rests_resume, s.resume_eq_advance⟩
  | _ => simp [Command.runsLines] at runs

lemma begun_settings (s : Stepper) : s.begun.settings = s.settings := by
  unfold begun
  split
  · rfl
  · rfl

/-- The settings that count from the next load on, after a command. -/
theorem perform_settings (s : Stepper) (command : Command) :
    (s.perform command).1.settings =
      match command with
      | .configure settings => settings
      | _ => s.settings := by
  by_cases runs : command.runsLines = true
  · obtain ⟨count, next, rests, same⟩ := s.perform_eq_advance runs
    obtain ⟨⟨phase, lastHit, -, rested⟩, -⟩ := rests (s.begun.advance count).1
    have settings : (s.perform command).1.settings = s.settings := by
      rw [same, followedBy, rested]
      exact s.begun_settings
    cases command with
    | configure settings => simp [Command.runsLines] at runs
    | _ => exact settings
  · cases command with
    | load code language => rfl
    | configure settings => rfl
    | toggleBreakpoint line => rfl
    | clearBreakpoints => rfl
    | stop => rfl
    | restart => rfl
    | _ => simp [Command.runsLines] at runs

/-! ## The invariant -/

/-- **The session is the replay of the lines before the position**, and the events since it began
report just those lines. -/
structure Replays (setup : Setup) (s : Stepper) (events : List Event) : Prop where
  settings_eq : s.settings = setup.pending
  program_eq : s.program = .ofCode setup.language setup.code
  position_le : s.position ≤ s.program.length
  session_eq : s.session =
    (Session.start setup.language setup.settings).replay (s.program.rows.take s.position)
  ranLines_eq : events.filterMap Event.ranLine? = (s.program.rows.take s.position).map Row.number
  /-- Before its first line a run remembers no breakpoint. -/
  lastHit_eq : s.phase = .loaded → s.lastHit = none

/-- After an advance, the lines before the position are those before and those it ran. -/
lemma take_advance (s : Stepper) (count : Nat) :
    s.program.rows.take (s.advance count).1.position =
      s.program.rows.take s.position ++ s.remaining.take count := by
  show s.program.rows.take (s.position + (s.remaining.take count).length) = _
  rw [List.take_add]
  congr 1
  rw [List.length_take, ← List.take_take, remaining, List.take_length]

namespace Replays

variable {setup : Setup} {s : Stepper} {events : List Event}

/-- A snippet just loaded. -/
lemma of_load (s : Stepper) (language : Language) (code : Text) :
    Replays ⟨language, code, s.settings, s.settings⟩ (s.load language code) [] where
  settings_eq := rfl
  program_eq := rfl
  position_le := Nat.zero_le _
  session_eq := rfl
  ranLines_eq := rfl
  lastHit_eq := fun _ => rfl

/-- Resetting the session gives the session the snippet was loaded with. -/
lemma reset_eq (h : Replays setup s events) :
    s.session.reset = .start setup.language setup.settings := by
  rw [h.session_eq, Session.reset_replay]
  rfl

/-- **A restart cannot be told from a load.** -/
lemma restart_eq (h : Replays setup s events) : s.restart = s.reloaded setup := by
  simp only [restart, reloaded, load, h.reset_eq, h.program_eq]

/-- The invariant after a restart. -/
lemma restart (h : Replays setup s events) : Replays setup s.restart [] where
  settings_eq := h.settings_eq
  program_eq := h.program_eq
  position_le := Nat.zero_le _
  session_eq := h.reset_eq
  ranLines_eq := rfl
  lastHit_eq := fun _ => rfl

/-- A run that has not begun, or has been stopped, begins as if just loaded. -/
lemma begun_eq (h : Replays setup s events) (phase : s.phase = .loaded) :
    s.begun = s.reloaded setup := by
  by_cases position : 0 < s.position
  · rw [Stepper.begun, if_pos ⟨phase, position⟩]
    exact h.restart_eq
  · rw [Stepper.begun, if_neg fun both => position both.2]
    have first : s.position = 0 := Nat.eq_zero_of_not_pos position
    have session := h.session_eq
    rw [first] at session
    have program := h.program_eq
    have lastHit := h.lastHit_eq phase
    cases s
    simp only at first session program phase lastHit
    subst first session program phase lastHit
    rfl

/-- The invariant where a command begins to run lines. -/
lemma begun (h : Replays setup s events) :
    Replays setup s.begun (if s.phase = .loaded ∧ 0 < s.position then [] else events) := by
  unfold Stepper.begun
  split
  · exact h.restart
  · exact h

/-- **The invariant after some lines.** -/
lemma advance (h : Replays setup s events) (count : Nat) :
    Replays setup (s.advance count).1 (events ++ (s.advance count).2) where
  settings_eq := h.settings_eq
  program_eq := h.program_eq
  position_le := by
    show s.position + (s.remaining.take count).length ≤ s.program.rows.length
    have within : s.position ≤ s.program.rows.length := h.position_le
    rw [List.length_take, remaining, List.length_drop]
    omega
  session_eq := by
    show (s.session.runRows (s.remaining.take count)).1 = _
    show _ = Session.replay _ (s.program.rows.take (s.advance count).1.position)
    rw [Session.runRows_fst, take_advance, Session.replay_append, ← h.session_eq]
  ranLines_eq := by
    show (events ++ (s.session.runRows (s.remaining.take count)).2).filterMap Event.ranLine? =
      (s.program.rows.take (s.advance count).1.position).map Row.number
    rw [List.filterMap_append, h.ranLines_eq, Session.runRows_ranLines, take_advance,
      List.map_append]
  lastHit_eq := h.lastHit_eq

/-- The invariant where a stepper comes to rest. -/
lemma rests (h : Replays setup s events) {result : Stepper × List Event} (rest : Rests s result) :
    Replays setup result.1 (events ++ result.2) := by
  obtain ⟨⟨phase, lastHit, moved, same⟩, quiet⟩ := rest
  rw [same]
  exact
    { settings_eq := h.settings_eq
      program_eq := h.program_eq
      position_le := h.position_le
      session_eq := h.session_eq
      ranLines_eq := by rw [List.filterMap_append, quiet, List.append_nil]; exact h.ranLines_eq
      lastHit_eq := fun loaded => absurd loaded moved }

/-- The invariant after a command that runs lines. -/
lemma runsLines (h : Replays setup s events) {command : Command}
    (runs : command.runsLines = true) :
    Replays setup (s.perform command).1
      ((if s.phase = .loaded ∧ 0 < s.position then [] else events) ++ (s.perform command).2) := by
  obtain ⟨count, next, rest, same⟩ := s.perform_eq_advance runs
  rw [same]
  have advanced := h.begun.advance count
  have rested := advanced.rests (rest (s.begun.advance count).1)
  rw [List.append_assoc] at rested
  exact rested

end Replays

/-- A command that reports nothing and begins no session leaves the events as they were. -/
lemma perform_of_quiet {w : Watched} {command : Command}
    (quiet : (w.stepper.perform command).2 = []) (kept : w.stepper.renews command = false) :
    w.perform command = ⟨(w.stepper.perform command).1, w.events⟩ := by
  simp only [Watched.perform, quiet, kept, Bool.false_eq_true, if_false, List.append_nil]

/-- **Every command keeps the invariant.** -/
theorem replays_perform {setup : Setup} {w : Watched}
    (h : Replays setup w.stepper w.events) (command : Command) :
    Replays (setup.next command) (w.perform command).stepper (w.perform command).events := by
  by_cases runs : command.runsLines = true
  · have same : setup.next command = setup := by
      cases command with
      | load code language => simp [Command.runsLines] at runs
      | configure settings => simp [Command.runsLines] at runs
      | _ => rfl
    have renewed : w.stepper.renews command =
        decide (w.stepper.phase = .loaded ∧ 0 < w.stepper.position) := by
      cases command with
      | load code language => simp [Command.runsLines] at runs
      | restart => simp [Command.runsLines] at runs
      | _ => simp only [renews, runs, Bool.true_and]
    have kept := h.runsLines runs
    simp only [Watched.perform, same, renewed, decide_eq_true_eq]
    exact kept
  · cases command with
    | load code language =>
        have loaded := Replays.of_load w.stepper (language.getD w.stepper.program.language) code
        have spoken : w.stepper.program.language = setup.language := by rw [h.program_eq]; rfl
        rw [spoken, h.settings_eq] at loaded
        simp only [Watched.perform, perform, renews, spoken, if_true, List.append_nil]
        exact loaded
    | configure settings =>
        rw [perform_of_quiet rfl rfl]
        exact { h with settings_eq := rfl }
    | toggleBreakpoint line =>
        rw [perform_of_quiet rfl rfl]
        exact { h with }
    | clearBreakpoints =>
        rw [perform_of_quiet rfl rfl]
        exact { h with }
    | stop =>
        rw [perform_of_quiet rfl rfl]
        exact { h with lastHit_eq := fun _ => rfl }
    | restart => exact h.restart
    | _ => exact absurd rfl runs

/-- The invariant after any commands. -/
theorem replays_watch (settings : Settings) (commands : List Command) :
    Replays (commands.foldl Setup.next (.initial settings)) (watch settings commands).stepper
      (watch settings commands).events := by
  have run : ∀ (setup : Setup) (w : Watched), Replays setup w.stepper w.events →
      Replays (commands.foldl Setup.next setup) (commands.foldl Watched.perform w).stepper
        (commands.foldl Watched.perform w).events := by
    induction commands with
    | nil => exact fun _ _ h => h
    | cons command rest ih => exact fun _ _ h => ih _ _ (replays_perform h command)
  exact run _ _
    { settings_eq := rfl
      program_eq := rfl
      position_le := Nat.zero_le _
      session_eq := rfl
      ranLines_eq := rfl
      lastHit_eq := fun _ => rfl }

/-! ## Starting over -/

lemma begun_begun (s : Stepper) : s.begun.begun = s.begun := by
  by_cases stopped : s.phase = .loaded ∧ 0 < s.position
  · rw [begun, begun, if_pos stopped]
    exact if_neg fun both => absurd both.2 (Nat.lt_irrefl 0)
  · rw [begun, begun, if_neg stopped, if_neg stopped]

/-- A command before the first line does what it does where the run begins. -/
lemma perform_begun {s : Stepper} (phase : s.phase = .loaded) {command : Command}
    (runs : command.runsLines = true) :
    s.begun.perform command = s.perform command := by
  have stepped : s.begun.stepOver = s.stepOver := by simp only [stepOver, begun_begun]
  cases command with
  | stepOver => exact stepped
  | stepInto => exact stepped
  | stepOut => simp only [perform, stepOut, begun_begun]
  | runTo target => simp only [perform, runTo, begun_begun]
  | resume =>
      have begunPhase : s.begun.phase = .loaded := by
        unfold begun
        split
        · rfl
        · exact phase
      have unpaused : Phase.loaded ≠ Phase.paused := by simp
      simp only [perform, resume_eq_advance, begun_begun, phase, begunPhase, unpaused, if_false]
  | _ => simp [Command.runsLines] at runs

/-! ## The result -/

/-- The first lines of a program are numbered from one. -/
lemma map_number_take (language : Language) (code : Text) {count : Nat}
    (within : count ≤ (Program.ofCode language code).length) :
    ((Program.ofCode language code).rows.take count).map Row.number = List.range' 1 count := by
  rw [List.map_take, Program.map_number_ofCode, List.take_range'_of_length_ge within]

/-- **Stepping commands are confluent.**  After any commands the session is the replay of the
first `position` lines of the program loaded last, from a session begun under the settings of that
load; since the session began, exactly these lines have been run, once each and in order; and
starting over, by a restart or by running lines after a stop, is loading afresh. -/
theorem stepping_replays_lines (settings : Settings) (commands : List Command) :
    let setup := commands.foldl Setup.next (.initial settings)
    let program := Program.ofCode setup.language setup.code
    let s := (watch settings commands).stepper
    s.program = program ∧ s.position ≤ program.length ∧
      s.session =
        (Session.start setup.language setup.settings).replay (program.rows.take s.position) ∧
      (watch settings commands).events.filterMap Event.ranLine? = List.range' 1 s.position ∧
      s.restart = s.reloaded setup ∧
      ∀ command : Command, s.phase = .loaded → command.runsLines = true →
        s.perform command = (s.reloaded setup).perform command := by
  intro setup program s
  have h : Replays setup s _ := replays_watch settings commands
  have loaded : s.program = program := h.program_eq
  have within : s.position ≤ program.length := by
    rw [← loaded]
    exact h.position_le
  refine ⟨loaded, within, ?_, ?_, h.restart_eq, ?_⟩
  · rw [← loaded]
    exact h.session_eq
  · rw [h.ranLines_eq, loaded]
    exact map_number_take _ _ within
  · intro command phase runs
    rw [← h.begun_eq phase, perform_begun phase runs]

/-- A run of two lines, stopped after the first, begins again from a fresh load. -/
theorem stepping_replays_lines_after_stop :
    let commands : List Command := [.load "x = 1\nx += 2" (some .python), .stepOver, .stop]
    let s := (watch .standard commands).stepper
    s.phase = .loaded ∧ s.position = 1 ∧ Command.resume.runsLines = true ∧
      s.perform .resume =
        (s.reloaded (commands.foldl Setup.next (.initial .standard))).perform .resume := by
  intro commands s
  have phase : s.phase = .loaded := rfl
  have position : s.position = 1 := by decide +kernel
  exact ⟨phase, position, rfl,
    (stepping_replays_lines .standard commands).2.2.2.2.2 .resume phase rfl⟩

end Stepper

end SnippetLab

import SnippetLab.Proofs.Session.View
import SnippetLab.Proofs.Stepper.Rest

/-!
# A subscriber's view never drifts from the stepper

A subscriber that has been there since the session began and takes every event in has the
stepper's variables, output and call stack, and knows which lines have been run; and the last event
of a command tells how the command has ended.

* `shows_watch` — the view of the events since the session began agrees with the session.
* `TellsEnd` — what the events of one command say about its end.
* `view_follows_stepper` — both, after any commands.
-/

namespace SnippetLab.Stepper

/-! ## The view agrees -/

/-- The view agrees where a command begins to run lines: a run that starts over has a session in
which nothing has happened. -/
lemma shows_begun {setup : Setup} {w : Watched} (h : Replays setup w.stepper w.events)
    (shown : Session.Shows (.ofEvents w.events) w.stepper.session) :
    Session.Shows
      (.ofEvents (if w.stepper.phase = .loaded ∧ 0 < w.stepper.position then [] else w.events))
      w.stepper.begun.session := by
  unfold begun
  split
  · show Session.Shows .initial w.stepper.session.reset
    rw [h.reset_eq]
    exact Session.shows_start setup.language setup.settings
  · exact shown

/-- Coming to rest leaves the session alone and tells nothing that a view takes in. -/
lemma Settled.shows {reports : Bool} {s : Stepper} {rest : Stepper × List Event} {v : View}
    (settled : Settled reports s rest) (shown : Session.Shows v s.session) :
    Session.Shows (rest.2.foldl View.see v) rest.1.session := by
  cases settled with
  | completed ended lastHit => exact shown
  | reported lineLeft speaks set => exact shown
  | paused lineLeft quiet => exact shown

/-- **A command keeps the view in agreement**, with the events of the session alone. -/
theorem shows_perform {setup : Setup} {w : Watched} (h : Replays setup w.stepper w.events)
    (steady : w.stepper.Steady) (shown : Session.Shows (.ofEvents w.events) w.stepper.session)
    (command : Command) :
    Session.Shows (.ofEvents (w.perform command).events) (w.perform command).stepper.session := by
  by_cases runs : command.runsLines = true
  · have renewed : w.stepper.renews command =
        decide (w.stepper.phase = .loaded ∧ 0 < w.stepper.position) := by
      cases command with
      | load code language => simp [Command.runsLines] at runs
      | restart => simp [Command.runsLines] at runs
      | _ => simp only [renews, runs, Bool.true_and]
    obtain ⟨count, rest, settled, same⟩ := perform_settles steady.numbered.begun runs
    have advanced := Session.shows_runRows (shows_begun h shown)
      (w.stepper.begun.remaining.take count)
    have rested := settled.shows advanced
    simp only [Watched.perform, renewed, decide_eq_true_eq, same, View.ofEvents_append,
      List.foldl_append]
    exact rested
  · cases command with
    | load code language => exact Session.shows_start _ _
    | restart =>
        show Session.Shows .initial w.stepper.session.reset
        rw [h.reset_eq]
        exact Session.shows_start setup.language setup.settings
    | configure settings => rw [perform_of_quiet rfl rfl]; exact shown
    | toggleBreakpoint line => rw [perform_of_quiet rfl rfl]; exact shown
    | clearBreakpoints => rw [perform_of_quiet rfl rfl]; exact shown
    | stop => rw [perform_of_quiet rfl rfl]; exact shown
    | _ => exact absurd rfl runs

/-- The view of the events since the session began agrees with the session. -/
theorem shows_watch (settings : Settings) (commands : List Command) :
    Session.Shows (.ofEvents (watch settings commands).events)
      (watch settings commands).stepper.session := by
  induction commands using List.reverseRecOn with
  | nil => exact Session.shows_start .java settings
  | append_singleton before command ih =>
      rw [watch, List.foldl_append]
      exact shows_perform (replays_watch settings before) (steady_watch settings before) ih command

/-! ## The last event -/

/-- **What the events of a command that runs lines say about its end**, where `reports` tells
whether the command reports breakpoints. -/
structure TellsEnd (reports : Bool) (result : Stepper × List Event) : Prop where
  complete_iff : result.2.getLast? = some .executionComplete ↔ result.1.phase = .completed
  hit_iff : ∀ line, result.2.getLast? = some (.breakpointHit line) ↔
    result.1.phase = .paused ∧ result.1.lastHit = some line
  /-- A pause reports the line that is run next if it has a breakpoint. -/
  lastHit_iff : result.1.phase = .paused → ∀ line, result.1.lastHit = some line ↔
    reports = true ∧ line ∈ result.1.breakpoints ∧ result.1.currentLine = some line
  currentLine_mem : ∀ line, result.1.currentLine = some line →
    0 < line ∧ line ≤ result.1.program.length
  /-- Before the last event nothing is said about the end. -/
  alone : ∀ e ∈ result.2.dropLast, e.isEnding = false

lemma currentLine_eq {s : Stepper} (lineLeft : s.atEnd = false) :
    s.currentLine = some (s.position + 1) := by
  simp [currentLine, lineLeft]

lemma mem_of_currentLine {s : Stepper} {line : Nat} (h : s.currentLine = some line) :
    0 < line ∧ line ≤ s.program.length := by
  unfold currentLine at h
  split at h
  · cases h
  · rename_i lineLeft
    cases h
    simp only [atEnd, decide_eq_true_eq] at lineLeft
    omega

/-- Events that say nothing about an end do not end with one that does. -/
lemma getLast?_ne_of_not_ending {events : List Event} {e : Event}
    (quiet : ∀ e ∈ events, e.isEnding = false) (ending : e.isEnding = true) :
    events.getLast? ≠ some e := by
  intro last
  have silent := quiet e (List.mem_of_getLast? last)
  rw [ending] at silent
  cases silent

/-- The events of the lines run, and then those of coming to rest. -/
lemma Settled.tellsEnd {reports : Bool} {s : Stepper} {rest : Stepper × List Event}
    {events : List Event} (settled : Settled reports s rest)
    (quiet : ∀ e ∈ events, e.isEnding = false) : TellsEnd reports (rest.1, events ++ rest.2) := by
  cases settled with
  | completed ended lastHit =>
      refine ⟨by simp, by simp, nofun, fun _ => mem_of_currentLine, ?_⟩
      rw [List.dropLast_concat]
      exact quiet
  | reported lineLeft speaks set =>
      have next :
          Stepper.currentLine { s with phase := .paused, lastHit := some (s.position + 1) } =
            some (s.position + 1) := currentLine_eq lineLeft
      refine ⟨by simp, by simp, ?_, fun _ => mem_of_currentLine, ?_⟩
      · intro _ line
        rw [next]
        constructor
        · intro same
          cases same
          exact ⟨speaks, set, rfl⟩
        · exact fun told => told.2.2
      · rw [List.dropLast_concat]
        exact quiet
  | paused lineLeft unset =>
      have next : Stepper.currentLine { s with phase := .paused, lastHit := none } =
        some (s.position + 1) := currentLine_eq lineLeft
      refine ⟨?_, ?_, ?_, fun _ => mem_of_currentLine, ?_⟩
      · simp [getLast?_ne_of_not_ending quiet (e := .executionComplete) rfl]
      · intro line
        simp [getLast?_ne_of_not_ending quiet (e := .breakpointHit line) rfl]
      · intro _ line
        rw [next]
        constructor
        · intro same
          cases same
        · rintro ⟨speaks, set, same⟩
          cases same
          exact absurd set (unset speaks)
      · rw [List.append_nil]
        exact fun e told => quiet e (List.dropLast_subset _ told)

/-- **The last event of a command that runs lines tells how the command has ended.** -/
theorem tellsEnd_perform {s : Stepper} (numbered : s.Numbered) {command : Command}
    (runs : command.runsLines = true) : TellsEnd command.reports (s.perform command) := by
  obtain ⟨count, rest, settled, same⟩ := perform_settles numbered.begun runs
  rw [same]
  exact settled.tellsEnd (Session.runRows_not_ending _ _)

/-! ## The result -/

/-- **A subscriber's view never drifts from the stepper.**  After any commands, the events since the
session began give the variables by name, the output as far as the session keeps it, the call
stack, and the lines run, each once and in order.  And whatever command runs lines next, its last
event is that the run is complete exactly if it is then completed, and a breakpoint exactly if it
has paused by reporting that breakpoint, which is set and on the line run next; before the last
event neither is said. -/
theorem view_follows_stepper (settings : Settings) (commands : List Command) :
    let w := watch settings commands
    let s := w.stepper
    let view := View.ofEvents w.events
    view.bindings = s.session.bindings ∧
      view.written.take s.session.output.limit = s.session.output.text ∧
      view.frames = s.session.stack.frames ∧
      w.events.filterMap Event.ranLine? = List.range' 1 s.position ∧
      ∀ command : Command, command.runsLines = true →
        TellsEnd command.reports (s.perform command) := by
  intro w s view
  have shown := shows_watch settings commands
  have h := replays_watch settings commands
  refine ⟨shown.bindings_eq, shown.written_eq, shown.frames_eq, ?_, ?_⟩
  · have within : s.position ≤ s.program.length := h.position_le
    rw [h.program_eq] at within
    rw [h.ranLines_eq, h.program_eq]
    exact map_number_take _ _ within
  · exact fun command runs => tellsEnd_perform (steady_watch settings commands).numbered runs

/-- A run to a breakpoint, with an output of which only three characters are kept. -/
theorem view_follows_stepper_past_limit :
    let settings := { Settings.standard with maxOutputChars := 3 }
    let commands : List Command :=
      [.load "x = 1\nprint(\"abcdef\")\nx += 1" (some .python), .toggleBreakpoint 3, .stepOver]
    let s := (watch settings commands).stepper
    Command.resume.runsLines = true ∧
      (s.perform .resume).2.getLast? = some (.breakpointHit 3) ∧
      (View.ofEvents (watch settings (commands ++ [.resume])).events).written = "abcdef\n" ∧
      (s.perform .resume).1.session.output.text = "abc" ∧
      TellsEnd Command.resume.reports (s.perform .resume) := by
  intro settings commands s
  have last : (s.perform .resume).2.getLast? = some (.breakpointHit 3) := by decide +kernel
  have written : (View.ofEvents (watch settings (commands ++ [.resume])).events).written =
    "abcdef\n" := by decide +kernel
  have kept : (s.perform .resume).1.session.output.text = "abc" := by decide +kernel
  exact ⟨rfl, last, written, kept, (view_follows_stepper settings commands).2.2.2.2 .resume rfl⟩

end SnippetLab.Stepper

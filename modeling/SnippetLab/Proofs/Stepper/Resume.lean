import Mathlib.Order.Bounds.Basic
import SnippetLab.Proofs.Stepper.Rest

/-!
# Continuing stops exactly where it should

A run that is continued goes on to the least line ahead of it that has a breakpoint, pauses there
and reports it; without such a line it goes on to the end.  The line it is resumed from is passed
if the last pause was at its breakpoint, and **only what that pause has reported counts**, not which
breakpoints have been set or removed since.

* `Ahead` — the lines at which a continued run has still to stop.
* `lastReport` — the breakpoint that the latest command that ran lines has reported at its end.
* `resume_of_isLeast`, `resume_of_clear` — where `resume` stops.
* `resumes_visit_stops` — continuing again and again stops once at each of these lines, in ascending
  order, and then completes.
-/

namespace SnippetLab

/-- The line an event reports the breakpoint of. -/
def Event.hitLine? : Event → Option Nat
  | .breakpointHit line => some line
  | _ => none

lemma Event.hitLines_of_not_ending {events : List Event}
    (quiet : ∀ e ∈ events, e.isEnding = false) : events.filterMap Event.hitLine? = [] := by
  rw [List.filterMap_eq_nil_iff]
  intro e told
  have silent := quiet e told
  cases e with
  | breakpointHit line => simp [isEnding] at silent
  | _ => rfl

namespace Stepper

/-! ## The lines ahead -/

/-- The number of the line that a run goes on with: a stopped run starts over. -/
def startLine (s : Stepper) : Nat := if s.phase = .loaded then 1 else s.position + 1

/-- **A line at which a continued run has still to stop**, where `passed` tells whether the line it
goes on with has been stopped at already. -/
def Ahead (s : Stepper) (passed : Prop) (line : Nat) : Prop :=
  line ∈ s.breakpoints ∧ s.startLine ≤ line ∧ line ≤ s.program.length ∧
    (passed → s.startLine < line)

/-- Has the stepper paused at the breakpoint of the line it goes on with, and reported it? -/
def Passed (s : Stepper) : Prop := s.phase = .paused ∧ s.lastHit = some s.startLine

lemma begun_position (s : Stepper) : s.begun.position + 1 = s.startLine := by
  unfold begun startLine
  by_cases loaded : s.phase = .loaded
  · rw [if_pos loaded]
    split
    · rfl
    · rename_i first
      have none : s.position = 0 := Nat.eq_zero_of_not_pos fun some => first ⟨loaded, some⟩
      rw [none]
  · rw [if_neg fun both => loaded both.1, if_neg loaded]

lemma begun_breakpoints (s : Stepper) : s.begun.breakpoints = s.breakpoints := by
  unfold begun
  split
  · rfl
  · rfl

/-- The line that `resume` passes is the one the stepper has passed already. -/
lemma passed_iff (s : Stepper) : s.Passed ↔
    (if s.phase = .paused then s.lastHit else none) = some (s.begun.position + 1) := by
  unfold Passed
  rw [begun_position]
  by_cases paused : s.phase = .paused
  · simp only [paused, true_and, if_true]
  · simp only [paused, false_and, if_false, reduceCtorEq]

/-- As many lines are left as there are from the start on. -/
lemma length_begun_remaining (s : Stepper) :
    s.begun.remaining.length = s.program.length + 1 - s.startLine := by
  rw [remaining, List.length_drop, begun_program, ← begun_position, Program.length]
  omega

/-! ## Where a continued run stops -/

section Resume

variable {s : Stepper} {stop : Nat}

/-- How far a continued run goes, with the line it stops at. -/
lemma resume_count_of_isLeast (numbered : s.Numbered)
    (least : IsLeast {line | s.Ahead s.Passed line} stop) :
    rowsToBreakpoint s.begun.breakpoints (if s.phase = .paused then s.lastHit else none)
      s.begun.remaining = stop - s.startLine := by
  obtain ⟨⟨set, ahead, within, passed⟩, below⟩ := least
  have inside : stop < s.startLine + s.begun.remaining.length := by
    rw [length_begun_remaining]
    omega
  rw [begun_breakpoints, ← begun_position]
  rw [← begun_position] at ahead inside
  refine rowsToBreakpoint_eq_sub (remaining_numbered numbered.begun) set ahead inside ?_ ?_
  · intro same
    rw [begun_position]
    exact passed (s.passed_iff.2 same)
  · intro line mem further passes
    by_cases inRange : line ≤ s.program.length
    · rw [begun_position] at further passes
      exact below ⟨mem, further, inRange, fun h => passes (begun_position s ▸ s.passed_iff.1 h)⟩
    · omega

/-- How far a continued run goes without a breakpoint ahead. -/
lemma resume_count_of_clear (numbered : s.Numbered) (clear : ∀ line, ¬s.Ahead s.Passed line) :
    rowsToBreakpoint s.begun.breakpoints (if s.phase = .paused then s.lastHit else none)
      s.begun.remaining = s.program.length + 1 - s.startLine := by
  rw [rowsToBreakpoint_eq_length (remaining_numbered numbered.begun) ?_, length_begun_remaining]
  intro line mem further inside passes
  rw [length_begun_remaining, begun_position] at inside
  rw [begun_breakpoints] at mem
  rw [begun_position] at further passes
  exact clear line
    ⟨mem, further, by omega, fun h => passes (begun_position s ▸ s.passed_iff.1 h)⟩

/-- The position after a run from where a command begins. -/
lemma advance_begun_position {count : Nat} (within : count ≤ s.program.length + 1 - s.startLine) :
    (s.begun.advance count).1.position + 1 = s.startLine + count := by
  show s.begun.position + (s.begun.remaining.take count).length + 1 = _
  rw [List.length_take, length_begun_remaining, Nat.min_eq_left within, ← begun_position]
  omega

lemma atEnd_iff {t : Stepper} : t.atEnd = true ↔ t.program.length < t.position + 1 := by
  simp only [atEnd, decide_eq_true_eq]
  omega

/-- **A continued run stops at the least line ahead**, and reports it. -/
theorem resume_of_isLeast (numbered : s.Numbered)
    (least : IsLeast {line | s.Ahead s.Passed line} stop) :
    s.resume =
      ({ (s.begun.advance (stop - s.startLine)).1 with phase := .paused, lastHit := some stop },
        (s.begun.advance (stop - s.startLine)).2 ++ [.breakpointHit stop]) := by
  obtain ⟨-, ahead, within, -⟩ := least.1
  have position : (s.begun.advance (stop - s.startLine)).1.position + 1 = stop := by
    rw [advance_begun_position (by omega)]
    omega
  have lineLeft : ¬(s.begun.advance (stop - s.startLine)).1.atEnd = true := by
    rw [atEnd_iff, position]
    show ¬s.begun.program.length < stop
    rw [begun_program]
    omega
  rw [resume_eq_advance, resume_count_of_isLeast numbered least]
  simp only [followedBy, lineLeft, Bool.false_eq_true, if_false, pauseAt, position]

/-- **Without a breakpoint ahead a continued run goes on to the end.** -/
theorem resume_of_clear (numbered : s.Numbered) (clear : ∀ line, ¬s.Ahead s.Passed line) :
    s.resume =
      ({ (s.begun.advance (s.program.length + 1 - s.startLine)).1 with
          phase := .completed, lastHit := none },
        (s.begun.advance (s.program.length + 1 - s.startLine)).2 ++ [.executionComplete]) := by
  have position := s.advance_begun_position (Nat.le_refl (s.program.length + 1 - s.startLine))
  have ended : (s.begun.advance (s.program.length + 1 - s.startLine)).1.atEnd = true := by
    rw [atEnd_iff, position]
    show s.begun.program.length < _
    rw [begun_program]
    omega
  rw [resume_eq_advance, resume_count_of_clear numbered clear]
  simp only [followedBy, ended, if_true, complete]

/-! ## What a continued run has done -/

/-- The lines that a run of `count` lines from where a command begins reports as run. -/
lemma ranLines_advance_begun (numbered : s.Numbered) {count : Nat}
    (within : count ≤ s.program.length + 1 - s.startLine) :
    (s.begun.advance count).2.filterMap Event.ranLine? = List.range' s.startLine count := by
  show (s.begun.session.runRows (s.begun.remaining.take count)).2.filterMap Event.ranLine? = _
  rw [Session.runRows_ranLines, List.map_take, remaining_numbered numbered.begun,
    List.take_range'_of_length_ge (by rw [length_begun_remaining]; exact within), begun_position]

lemma hitLines_advance (t : Stepper) (count : Nat) :
    (t.advance count).2.filterMap Event.hitLine? = [] :=
  Event.hitLines_of_not_ending (Session.runRows_not_ending _ _)

/-- The lines of a program from one on. -/
def linesFrom (s : Stepper) (line count : Nat) : List Row :=
  (s.program.rows.drop (line - 1)).take count

lemma session_advance_begun (s : Stepper) (count : Nat) :
    (s.begun.advance count).1.session =
      s.begun.session.replay (s.linesFrom s.startLine count) := by
  show (s.begun.session.runRows (s.begun.remaining.take count)).1 = _
  rw [Session.runRows_fst, remaining, begun_program, linesFrom, ← begun_position,
    Nat.add_sub_cancel]

/-- **The lines run are those from the start up to a line**, once each and in order, in a session
that a stopped run begins anew. -/
structure RunsUpTo (s : Stepper) (line : Nat) (result : Stepper × List Event) : Prop where
  ranLines_eq : result.2.filterMap Event.ranLine? = List.range' s.startLine (line - s.startLine)
  session_eq : result.1.session =
    (if s.phase = .loaded ∧ 0 < s.position then s.session.reset else s.session).replay
      (s.linesFrom s.startLine (line - s.startLine))
  position_eq : result.1.position + 1 = line

/-- The session that a command begins with. -/
lemma begun_session (s : Stepper) : s.begun.session =
    if s.phase = .loaded ∧ 0 < s.position then s.session.reset else s.session := by
  unfold begun
  split
  · rfl
  · rfl

/-- A run up to a line, after which the stepper comes to rest. -/
lemma runsUpTo_advance (numbered : s.Numbered) {line : Nat} (ahead : s.startLine ≤ line)
    (within : line ≤ s.program.length + 1) {phase : Phase} {lastHit : Option Nat} {ending : Event}
    (told : ending.ranLine? = none) :
    s.RunsUpTo line
      ({ (s.begun.advance (line - s.startLine)).1 with phase, lastHit },
        (s.begun.advance (line - s.startLine)).2 ++ [ending]) where
  ranLines_eq := by
    rw [List.filterMap_append, ranLines_advance_begun numbered (by omega), List.filterMap_cons,
      told, List.filterMap_nil, List.append_nil]
  session_eq := by
    rw [← begun_session]
    exact s.session_advance_begun _
  position_eq := by
    show (s.begun.advance (line - s.startLine)).1.position + 1 = line
    rw [advance_begun_position (by omega)]
    omega

/-- Nothing is run from a line behind the last one. -/
lemma startLine_le (steady : s.Steady) : s.startLine ≤ s.program.length + 1 := by
  have within := steady.position_le
  unfold startLine
  split
  · omega
  · omega

/-- **Where a continued run stops, and what it has done until then.** -/
theorem resume_stops (steady : s.Steady) (least : IsLeast {line | s.Ahead s.Passed line} stop) :
    s.RunsUpTo stop s.resume ∧ s.resume.1.phase = .paused ∧
      s.resume.2.filterMap Event.hitLine? = [stop] := by
  obtain ⟨-, ahead, within, -⟩ := least.1
  rw [resume_of_isLeast steady.numbered least]
  refine ⟨runsUpTo_advance steady.numbered ahead (by omega) rfl, rfl, ?_⟩
  rw [List.filterMap_append, hitLines_advance]
  rfl

/-- What a continued run has done that meets no breakpoint. -/
theorem resume_completes (steady : s.Steady) (clear : ∀ line, ¬s.Ahead s.Passed line) :
    s.RunsUpTo (s.program.length + 1) s.resume ∧ s.resume.1.phase = .completed ∧
      s.resume.2.filterMap Event.hitLine? = [] := by
  rw [resume_of_clear steady.numbered clear]
  refine ⟨runsUpTo_advance steady.numbered (startLine_le steady) (Nat.le_refl _) rfl, rfl, ?_⟩
  rw [List.filterMap_append, hitLines_advance]
  rfl

end Resume

/-! ## Continuing again and again -/

/-- Continue so many times. -/
def resumes : Nat → Stepper → Stepper × List Event
  | 0, s => (s, [])
  | n + 1, s => followedBy s.resume (resumes n)

/-- **The lines at which a continued run stops, one after another.** -/
structure Stops (s : Stepper) (stops : List Nat) : Prop where
  ascending : stops.Pairwise (· < ·)
  mem_iff : ∀ line, line ∈ stops ↔ s.Ahead s.Passed line

open Classical in
/-- There are such lines for every stepper. -/
lemma exists_stops (s : Stepper) : ∃ stops, s.Stops stops := by
  refine ⟨(List.range' 0 (s.program.length + 1)).filter fun line => s.Ahead s.Passed line,
    (List.pairwise_lt_range' ..).filter _, ?_⟩
  intro line
  rw [List.mem_filter, decide_eq_true_eq, List.mem_range'_1]
  constructor
  · exact And.right
  · exact fun ahead => ⟨⟨Nat.zero_le _, by have := ahead.2.2.1; omega⟩, ahead⟩

/-- The first of them is the least. -/
lemma Stops.isLeast {s : Stepper} {stop : Nat} {rest : List Nat} (h : s.Stops (stop :: rest)) :
    IsLeast {line | s.Ahead s.Passed line} stop := by
  refine ⟨(h.mem_iff stop).1 List.mem_cons_self, ?_⟩
  intro line ahead
  rcases List.mem_cons.1 ((h.mem_iff line).2 ahead) with rfl | later
  · exact Nat.le_refl _
  · exact Nat.le_of_lt ((List.pairwise_cons.1 h.ascending).1 line later)

/-- Once the first has been stopped at, the others are left. -/
lemma Stops.resume {s : Stepper} {stop : Nat} {rest : List Nat} (numbered : s.Numbered)
    (h : s.Stops (stop :: rest)) : s.resume.1.Stops rest := by
  have least := h.isLeast
  obtain ⟨-, ahead, within, -⟩ := least.1
  have start : s.resume.1.startLine = stop := by
    rw [resume_of_isLeast numbered least]
    show (s.begun.advance (stop - s.startLine)).1.position + 1 = stop
    rw [advance_begun_position (by omega)]
    omega
  have passed : s.resume.1.Passed := by
    refine ⟨?_, ?_⟩
    · rw [resume_of_isLeast numbered least]
    · rw [start, resume_of_isLeast numbered least]
  have program : s.resume.1.program = s.program := by
    rw [resume_of_isLeast numbered least]
    exact s.begun_program
  have breakpoints : s.resume.1.breakpoints = s.breakpoints := by
    rw [resume_of_isLeast numbered least]
    exact s.begun_breakpoints
  obtain ⟨behind, ascending⟩ := List.pairwise_cons.1 h.ascending
  refine ⟨ascending, ?_⟩
  intro line
  rw [Ahead, start, program, breakpoints]
  constructor
  · intro later
    obtain ⟨set, -, inRange, -⟩ := (h.mem_iff line).1 (List.mem_cons_of_mem stop later)
    have further := behind line later
    exact ⟨set, Nat.le_of_lt further, inRange, fun _ => further⟩
  · rintro ⟨set, -, inRange, further⟩
    have beyond := further passed
    have listed := (h.mem_iff line).2 ⟨set, by omega, inRange, fun _ => by omega⟩
    exact (List.mem_cons.1 listed).resolve_left fun same => by omega

/-- A completed run has no line ahead. -/
lemma not_ahead_of_completed {s : Stepper} (steady : s.Steady) (completed : s.phase = .completed)
    (line : Nat) : ¬s.Ahead s.Passed line := by
  rintro ⟨-, ahead, within, -⟩
  have ended := atEnd_iff.1 (steady.completed completed)
  have start : s.startLine = s.position + 1 := by
    rw [startLine, if_neg (by simp [completed])]
  omega

/-- **Continuing again and again stops once at each line ahead, in ascending order, and then
completes.** -/
theorem resumes_visit_stops (n : Nat) {s : Stepper} {stops : List Nat} (steady : s.Steady)
    (h : s.Stops stops) :
    (resumes n s).2.filterMap Event.hitLine? = stops.take n ∧
      (stops.length < n → (resumes n s).1.phase = .completed) ∧
      (0 < n → n ≤ stops.length → (resumes n s).1.phase = .paused) := by
  induction n generalizing s stops with
  | zero => exact ⟨by simp [resumes], nofun, nofun⟩
  | succ n ih =>
      have next : s.resume.1.Steady := steady.perform .resume
      show (s.resume.2 ++ (resumes n s.resume.1).2).filterMap Event.hitLine? = _ ∧
        (_ → (resumes n s.resume.1).1.phase = _) ∧ (_ → _ → (resumes n s.resume.1).1.phase = _)
      rw [List.filterMap_append]
      cases stops with
      | nil =>
          have clear : ∀ line, ¬s.Ahead s.Passed line := fun line ahead =>
            absurd ((h.mem_iff line).2 ahead) List.not_mem_nil
          obtain ⟨-, completed, hits⟩ := resume_completes steady clear
          have none : s.resume.1.Stops [] :=
            ⟨.nil, fun line =>
              ⟨nofun, fun ahead => absurd ahead (not_ahead_of_completed next completed line)⟩⟩
          obtain ⟨visited, ends, -⟩ := ih next none
          refine ⟨by rw [hits, visited, List.take_nil, List.take_nil, List.nil_append], ?_, ?_⟩
          · intro _
            cases n with
            | zero => exact completed
            | succ n => exact ends (Nat.succ_pos n)
          · exact fun _ within => absurd within (Nat.not_succ_le_zero n)
      | cons stop rest =>
          obtain ⟨-, paused, hits⟩ := resume_stops steady h.isLeast
          obtain ⟨visited, ends, pauses⟩ := ih next (h.resume steady.numbered)
          refine ⟨by rw [hits, visited, List.take_succ_cons]; rfl, ?_, ?_⟩
          · exact fun beyond => ends (Nat.lt_of_succ_lt_succ beyond)
          · intro _ within
            cases n with
            | zero => exact paused
            | succ n => exact pauses (Nat.succ_pos n) (Nat.le_of_succ_le_succ within)

/-! ## What the last pause has reported -/

/-- A new stepper after some commands, and the breakpoint that the latest command that ran lines
has reported at its end. -/
def noted (settings : Settings) (commands : List Command) : Stepper × Option Nat :=
  commands.foldl
    (fun (s, report) command =>
      ((s.perform command).1,
        if command.runsLines then (s.perform command).2.getLast?.bind Event.hitLine? else report))
    (.new settings, none)

/-- **The breakpoint that the latest command that ran lines has reported at its end.** -/
def lastReport (settings : Settings) (commands : List Command) : Option Nat :=
  (noted settings commands).2

/-- What a command that runs lines remembers when it pauses is what it has reported last. -/
lemma Settled.lastHit_eq {reports : Bool} {s : Stepper} {rest : Stepper × List Event}
    {events : List Event} (settled : Settled reports s rest)
    (quiet : ∀ e ∈ events, e.isEnding = false) (paused : rest.1.phase = .paused) :
    rest.1.lastHit = (events ++ rest.2).getLast?.bind Event.hitLine? := by
  cases settled with
  | completed ended lastHit => cases paused
  | reported lineLeft speaks set => simp [Event.hitLine?]
  | paused lineLeft unset =>
      rw [List.append_nil]
      cases last : events.getLast? with
      | none => rfl
      | some e =>
          have silent := quiet e (List.mem_of_getLast? last)
          cases e with
          | breakpointHit line => simp [Event.isEnding] at silent
          | _ => rfl

/-- **A paused stepper remembers what the last pause has reported**, whatever has been set or
removed since. -/
theorem lastHit_eq_lastReport (settings : Settings) (commands : List Command) :
    (noted settings commands).1 = (watch settings commands).stepper ∧
      ((watch settings commands).stepper.phase = .paused →
        (watch settings commands).stepper.lastHit = lastReport settings commands) := by
  induction commands using List.reverseRecOn with
  | nil =>
      refine ⟨rfl, fun paused => ?_⟩
      cases paused
  | append_singleton before command ih =>
      have steady := steady_watch settings before
      obtain ⟨same, remembered⟩ := ih
      unfold lastReport noted watch at *
      simp only [List.foldl_append, List.foldl_cons, List.foldl_nil, Watched.perform]
      rw [same]
      refine ⟨rfl, ?_⟩
      generalize (before.foldl Watched.perform ⟨.new settings, []⟩).stepper = s at *
      by_cases runs : command.runsLines = true
      · rw [if_pos runs]
        obtain ⟨count, rest, settled, told⟩ := perform_settles steady.numbered.begun runs
        rw [told]
        exact settled.lastHit_eq (Session.runRows_not_ending _ _)
      · rw [if_neg runs]
        cases command with
        | load code language =>
            intro paused
            cases paused
        | stop =>
            intro paused
            cases paused
        | restart =>
            intro paused
            cases paused
        | configure settings => exact remembered
        | toggleBreakpoint line => exact remembered
        | clearBreakpoints => exact remembered
        | _ => exact absurd rfl runs

/-! ## The result -/

/-- **Continuing stops exactly where it should.**  After any commands, let a line be ahead if it is
in range, has a breakpoint, and is not before the line the run goes on with, nor that line itself
if the last pause has reported it.  Then continuing runs exactly the lines before the least line
ahead, pauses there and reports it once; if no line is ahead it runs all lines left and completes.
Continuing again and again stops once at every line ahead, in ascending order, and then
completes. -/
theorem resume_stops_where_it_should (settings : Settings) (commands : List Command) :
    let s := (watch settings commands).stepper
    let passed := s.phase = .paused ∧ lastReport settings commands = some s.startLine
    (∀ stop, IsLeast {line | s.Ahead passed line} stop →
      s.RunsUpTo stop (s.perform .resume) ∧ (s.perform .resume).1.phase = .paused ∧
        (s.perform .resume).2.filterMap Event.hitLine? = [stop]) ∧
    ((∀ line, ¬s.Ahead passed line) →
      s.RunsUpTo (s.program.length + 1) (s.perform .resume) ∧
        (s.perform .resume).1.phase = .completed ∧
        (s.perform .resume).2.filterMap Event.hitLine? = []) ∧
    ∃ stops : List Nat, stops.Pairwise (· < ·) ∧ (∀ line, line ∈ stops ↔ s.Ahead passed line) ∧
      ∀ n, (resumes n s).2.filterMap Event.hitLine? = stops.take n ∧
        (stops.length < n → (resumes n s).1.phase = .completed) ∧
        (0 < n → n ≤ stops.length → (resumes n s).1.phase = .paused) := by
  intro s passed
  have steady : s.Steady := steady_watch settings commands
  have same : s.Passed = passed := by
    refine propext (and_congr_right fun paused => ?_)
    rw [(lastHit_eq_lastReport settings commands).2 paused]
  rw [← same]
  obtain ⟨stops, listed⟩ := s.exists_stops
  exact ⟨fun stop least => resume_stops steady least, fun clear => resume_completes steady clear,
    stops, listed.ascending, listed.mem_iff, fun n => resumes_visit_stops n steady listed⟩

/-- A run that has paused at line 2 of four, whose breakpoint is then removed and set again: it is
continued past that line to the breakpoint at line 4, and line 9 is out of range. -/
theorem resume_stops_where_it_should_past_report :
    let commands : List Command :=
      [.load "x = 1\nx += 1\nx += 2\nx += 3" (some .python), .toggleBreakpoint 2,
        .toggleBreakpoint 4, .toggleBreakpoint 9, .resume, .toggleBreakpoint 2, .toggleBreakpoint 2]
    let s := (watch .standard commands).stepper
    let passed := s.phase = .paused ∧ lastReport .standard commands = some s.startLine
    IsLeast {line | s.Ahead passed line} 4 ∧ s.RunsUpTo 4 (s.perform .resume) ∧
      (s.perform .resume).2.filterMap Event.hitLine? = [4] := by
  intro commands s passed
  have breakpoints : s.breakpoints = [2, 4, 9] := by decide +kernel
  have start : s.startLine = 2 := by decide +kernel
  have length : s.program.length = 4 := by decide +kernel
  have reported : passed := ⟨by decide +kernel, by decide +kernel⟩
  have least : IsLeast {line | s.Ahead passed line} 4 := by
    refine ⟨?_, ?_⟩
    · show s.Ahead passed 4
      rw [Ahead, breakpoints, start, length]
      decide
    · rintro line ⟨set, -, -, further⟩
      have beyond := further reported
      rw [breakpoints] at set
      rw [start] at beyond
      simp only [List.mem_cons, List.not_mem_nil, or_false] at set
      omega
  obtain ⟨runs, -, hits⟩ := (resume_stops_where_it_should .standard commands).1 4 least
  exact ⟨least, runs, hits⟩

end Stepper

end SnippetLab

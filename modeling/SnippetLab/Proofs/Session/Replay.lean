import Mathlib.Tactic.Lemma
import SnippetLab.Stepper.Event

/-!
# Running lines is replaying their statements

`Session.runRow` passes over idle lines, reports events, and leaves a session alone whose statement
fails.  `Session.replay` says the same without events and without a separate case for idle lines:
apply every statement in order, keep the session where one fails, and remember the line otherwise.

* `runRows_fst` — running rows and replaying them lead to the same session.
* `runRows_ranLines` — every row is reported as run exactly once, in order.
* `reset_replay` — a replay changes nothing that a reset would keep, which is why a session that is
  reset is the session it was started as.
-/

namespace SnippetLab

/-- The line an event reports as run.  A line is reported by `lineExecuted`, or by `error` if its
statement failed. -/
def Event.ranLine? : Event → Option Nat
  | .lineExecuted line _ | .error line _ => some line
  | _ => none

namespace Session

/-! ## The replay -/

/-- One line, by the rule of a run: **its statement is applied, a failing one leaves the session as
it was**, and the line is remembered if it neither fails nor is idle. -/
def replayRow (s : Session) (row : Row) : Session :=
  match s.apply row.number row.statement with
  | .error _ => s
  | .ok (_, applied) =>
    if row.statement.isIdle then applied else applied.record row.number row.text.trim

/-- Some lines, one after another. -/
def replay (s : Session) (rows : List Row) : Session := rows.foldl replayRow s

lemma replay_append (s : Session) (rows later : List Row) :
    s.replay (rows ++ later) = (s.replay rows).replay later := by
  simp only [replay, List.foldl_append]

/-- An idle statement changes nothing. -/
lemma apply_of_isIdle (s : Session) (line : Nat) {statement : Statement}
    (idle : statement.isIdle = true) : s.apply line statement = .ok (.none, s) := by
  cases statement with
  | blank => rfl
  | comment => rfl
  | _ => simp [Statement.isIdle] at idle

/-- Running a line leaves the session its replay leaves. -/
theorem runRow_fst (s : Session) (row : Row) : (s.runRow row).1 = s.replayRow row := by
  by_cases idle : row.statement.isIdle = true
  · simp only [runRow, replayRow, idle, if_true, apply_of_isIdle s row.number idle]
  · rw [Bool.not_eq_true] at idle
    cases applied : s.apply row.number row.statement with
    | error e => simp [runRow, replayRow, idle, applied]
    | ok result => simp [runRow, replayRow, idle, applied]

/-- Running lines leaves the session their replay leaves. -/
theorem runRows_fst (s : Session) (rows : List Row) : (s.runRows rows).1 = s.replay rows := by
  induction rows generalizing s with
  | nil => rfl
  | cons row rest ih =>
      show ((s.runRow row).1.runRows rest).1 = (s.replayRow row).replay rest
      rw [ih, runRow_fst]

/-! ## What is reported as run -/

/-- The events of an effect report no line as run. -/
lemma eventsOf_ranLines (s : Session) (effect : Effect) :
    (s.eventsOf effect).filterMap Event.ranLine? = [] := by
  rcases effect with _ | name | text | _
  · rfl
  · cases found : s.binding? name with
    | none => simp [eventsOf, found]
    | some b => simp [eventsOf, found, Event.ranLine?]
  · rfl
  · rfl

/-- **A line that is run is reported once**, whether it is idle, fails or is applied. -/
theorem runRow_ranLines (s : Session) (row : Row) :
    (s.runRow row).2.filterMap Event.ranLine? = [row.number] := by
  by_cases idle : row.statement.isIdle = true
  · simp [runRow, idle, Event.ranLine?]
  · rw [Bool.not_eq_true] at idle
    cases applied : s.apply row.number row.statement with
    | error e => simp [runRow, idle, applied, Event.ranLine?]
    | ok result => simp [runRow, idle, applied, eventsOf_ranLines, Event.ranLine?]

/-- Lines that are run are reported once each, in order. -/
theorem runRows_ranLines (s : Session) (rows : List Row) :
    (s.runRows rows).2.filterMap Event.ranLine? = rows.map Row.number := by
  induction rows generalizing s with
  | nil => rfl
  | cons row rest ih =>
      show ((s.runRow row).2 ++ ((s.runRow row).1.runRows rest).2).filterMap Event.ranLine? = _
      rw [List.filterMap_append, runRow_ranLines, ih]
      rfl

/-! ## What a replay keeps

A reset keeps the language and the limits.  No statement changes them, so resetting after a
statement is resetting before it.
-/

lemma reset_setVariable (s : Session) (b : Binding) : (s.setVariable b).reset = s.reset := rfl

lemma reset_write (s : Session) (t : Text) : (s.write t).reset = s.reset := rfl

lemma reset_pushFrame (s : Session) (method : Text) (line : Nat) :
    (s.pushFrame method line).reset = s.reset := rfl

lemma reset_popFrame? {s s' : Session} {frame : Frame} (h : s.popFrame? = some (frame, s')) :
    s'.reset = s.reset := by
  obtain ⟨⟨popped, stack⟩, -, left⟩ := Option.map_eq_some_iff.1 h
  rw [← (Prod.mk.inj left).2]
  rfl

lemma reset_assign? {s s' : Session} {name value : Text} {line : Nat}
    (h : s.assign? name value line = some s') : s'.reset = s.reset := by
  unfold assign? at h
  split at h
  · exact absurd h (by simp)
  · obtain ⟨b, -, rfl⟩ := Option.map_eq_some_iff.1 h
    exact reset_setVariable s b

lemma reset_record (s : Session) (line : Nat) (text : Text) :
    (s.record line text).reset = s.reset := by
  unfold record
  split
  · rfl
  · rfl

/-- An assignment, whether it declares, changes or does nothing. -/
lemma reset_applyAssign (s : Session) (line : Nat) (name value : Text) :
    (s.applyAssign line name value).2.reset = s.reset := by
  unfold applyAssign
  split
  · split
    · exact reset_setVariable s _
    · rfl
  · split
    · rename_i changed
      exact reset_assign? changed
    · rfl

/-- A step that succeeds. -/
lemma reset_applyStep {s s' : Session} {line : Nat} {name : Text} {direction : Sign}
    {effect : Effect} (h : s.applyStep line name direction = .ok (effect, s')) :
    s'.reset = s.reset := by
  unfold applyStep at h
  split at h
  · cases h
    rfl
  · dsimp only at h
    split at h
    · cases h
      cases changed : s.assign? name (Decimal.ofInt (_ + direction.unit)) line with
      | none => rfl
      | some s' => exact reset_assign? changed
    · cases h

/-- **No statement changes the language or the limits.** -/
theorem reset_apply {s s' : Session} {line : Nat} {statement : Statement} {effect : Effect}
    (h : s.apply line statement = .ok (effect, s')) : s'.reset = s.reset := by
  cases statement with
  | blank => cases h; rfl
  | comment => cases h; rfl
  | unrecognized => cases h; rfl
  | declare typeTag name init =>
      simp only [apply] at h
      split at h
      · cases h
      · cases h
        exact reset_setVariable s _
  | declareDefault typeTag name =>
      cases h
      exact reset_setVariable s _
  | assign name op expr =>
      simp only [apply] at h
      split at h
      · cases h
      · have assigned := reset_applyAssign s line name
          (evaluate s.environment (assignedExpr name op expr))
        rw [Except.ok.inj h] at assigned
        exact assigned
  | step name direction => exact reset_applyStep h
  | print args newline =>
      cases h
      exact reset_write s _
  | leave =>
      simp only [apply] at h
      split at h
      · rename_i popped
        cases h
        exact reset_popFrame? popped
      · cases h
        rfl
  | call method =>
      cases h
      exact reset_pushFrame s method line

lemma reset_replayRow (s : Session) (row : Row) : (s.replayRow row).reset = s.reset := by
  unfold replayRow
  split
  · rfl
  · rename_i applied
    split
    · exact reset_apply applied
    · rw [reset_record]
      exact reset_apply applied

/-- Resetting after a replay is resetting before it. -/
theorem reset_replay (s : Session) (rows : List Row) : (s.replay rows).reset = s.reset := by
  induction rows generalizing s with
  | nil => rfl
  | cons row rest ih =>
      show ((s.replayRow row).replay rest).reset = s.reset
      rw [ih, reset_replayRow]

end Session

end SnippetLab

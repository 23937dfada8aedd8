import SnippetLab.Batch.Engine
import SnippetLab.Proofs.Session.Written
import SnippetLab.Proofs.Stepper.Replay

/-!
# A batch run and a stepped run are in lockstep

A batch run applies statement after statement and ends with the first that fails; a stepped run
passes over idle lines, remembers what it runs, and goes on after a failure.  Up to the first
failure their sessions differ in the history alone, and **no statement looks at the history**.

* `apply_withHistory` — a statement does the same whatever is remembered.
* `of_applyRows_ok`, `of_applyRows_error` — what the stepped run comes to where the batch run goes
  through, and where it fails.
* `execute_eq_resume` — the two report the same failure, or the same output.
-/

namespace SnippetLab

/-! ## Failures -/

/-- The failure an event reports: its line and its wording. -/
def Event.failure? : Event → Option (Nat × Text)
  | .error line message => some (line, message)
  | _ => none

lemma Event.mem_failures {events : List Event} {line : Nat} {message : Text} :
    (line, message) ∈ events.filterMap Event.failure? ↔ .error line message ∈ events := by
  rw [List.mem_filterMap]
  constructor
  · rintro ⟨event, reported, same⟩
    cases event with
    | error line' message' =>
        cases same
        exact reported
    | _ => cases same
  · exact fun reported => ⟨_, reported, rfl⟩

namespace Session

/-! ## The history is not looked at -/

/-- The session with other memories. -/
def withHistory (s : Session) (entries : List HistoryEntry) : Session :=
  { s with history := entries }

/-- **A statement does the same whatever is remembered**, and leaves the memories alone. -/
theorem apply_withHistory (s : Session) (entries : List HistoryEntry) (line : Nat)
    (statement : Statement) : (s.withHistory entries).apply line statement =
      (s.apply line statement).map fun r => (r.1, r.2.withHistory entries) := by
  have kept : (s.withHistory entries).apply line statement = _ :=
    s.apply_keeping s.output entries s.historyLimit line statement
  rw [kept]
  cases applied : s.apply line statement with
  | error cause => rfl
  | ok result =>
      obtain ⟨effect, s'⟩ := result
      obtain ⟨output, -, historyLimit⟩ := kept_of_apply applied
      simp only [Except.map, ← output, ← historyLimit]
      rfl

/-- Remembering a line changes nothing but the memories. -/
lemma exists_record_eq (s : Session) (line : Nat) (text : Text) :
    ∃ entries, s.record line text = s.withHistory entries := by
  unfold record
  split
  · exact ⟨s.history, rfl⟩
  · exact ⟨_, rfl⟩

/-- A line whose statement goes through, replayed with some memories. -/
lemma exists_replayRow_eq {s applied : Session} {row : Row} {effect : Effect}
    (h : s.apply row.number row.statement = .ok (effect, applied)) (entries : List HistoryEntry) :
    ∃ later, (s.withHistory entries).replayRow row = applied.withHistory later := by
  unfold replayRow
  rw [apply_withHistory, h]
  dsimp only [Except.map]
  split
  · exact ⟨entries, rfl⟩
  · exact exists_record_eq (applied.withHistory entries) row.number row.text.trim

/-! ## What a line reports as failed -/

/-- The events of an effect report no failure. -/
lemma eventsOf_failures (s : Session) (effect : Effect) :
    (s.eventsOf effect).filterMap Event.failure? = [] := by
  rcases effect with _ | name | text | _
  · rfl
  · cases found : s.binding? name with
    | none => simp [eventsOf, found]
    | some b => simp [eventsOf, found, Event.failure?]
  · rfl
  · rfl

lemma runRow_failures_of_ok {s applied : Session} {row : Row} {effect : Effect}
    (h : s.apply row.number row.statement = .ok (effect, applied)) :
    (s.runRow row).2.filterMap Event.failure? = [] := by
  by_cases idle : row.statement.isIdle = true
  · simp [runRow, idle, Event.failure?]
  · simp [runRow, idle, h, eventsOf_failures, Event.failure?]

lemma runRow_failures_of_error {s : Session} {row : Row} {cause : StatementError}
    (h : s.apply row.number row.statement = .error cause) :
    (s.runRow row).2.filterMap Event.failure? = [(row.number, cause.message)] := by
  by_cases idle : row.statement.isIdle = true
  · rw [apply_of_isIdle s row.number idle] at h
    cases h
  · simp [runRow, idle, h, Event.failure?]

/-- The failures of some lines, the first line apart. -/
lemma runRows_cons_failures (s : Session) (row : Row) (rest : List Row) :
    (s.runRows (row :: rest)).2.filterMap Event.failure? =
      (s.runRow row).2.filterMap Event.failure? ++
        ((s.replayRow row).runRows rest).2.filterMap Event.failure? := by
  rw [← runRow_fst, ← List.filterMap_append]
  rfl

end Session

namespace Batch

/-! ## The two runs side by side -/

/-- **Where the batch run goes through**, the stepped run reports no failure, and their sessions
differ in the history alone. -/
theorem of_applyRows_ok {s final : Session} {rows : List Row} (h : applyRows s rows = .ok final)
    (entries : List HistoryEntry) :
    (∃ later, (s.withHistory entries).replay rows = final.withHistory later) ∧
      ((s.withHistory entries).runRows rows).2.filterMap Event.failure? = [] := by
  induction rows generalizing s entries with
  | nil =>
      cases h
      exact ⟨⟨entries, rfl⟩, rfl⟩
  | cons row rest ih =>
      unfold applyRows at h
      cases here : s.apply row.number row.statement with
      | error cause =>
          rw [here] at h
          cases h
      | ok result =>
          obtain ⟨effect, applied⟩ := result
          rw [here] at h
          have stepped := s.apply_withHistory entries row.number row.statement
          rw [here] at stepped
          obtain ⟨between, same⟩ := Session.exists_replayRow_eq here entries
          obtain ⟨replayed, quiet⟩ := ih h between
          constructor
          · show ∃ later, ((s.withHistory entries).replayRow row).replay rest = _
            rw [same]
            exact replayed
          · rw [Session.runRows_cons_failures, Session.runRow_failures_of_ok stepped, same]
            exact quiet

/-- **Where the batch run fails**, it is with the first failure that the stepped run reports. -/
theorem of_applyRows_error {s : Session} {rows : List Row} {error : RunError}
    (h : applyRows s rows = .error error) (entries : List HistoryEntry) :
    ∃ line cause, error = .failed line cause ∧
      (((s.withHistory entries).runRows rows).2.filterMap Event.failure?).head? =
        some (line, cause.message) := by
  induction rows generalizing s entries with
  | nil => cases h
  | cons row rest ih =>
      unfold applyRows at h
      have stepped := s.apply_withHistory entries row.number row.statement
      cases here : s.apply row.number row.statement with
      | error cause =>
          rw [here] at h stepped
          cases h
          refine ⟨row.number, cause, rfl, ?_⟩
          rw [Session.runRows_cons_failures, Session.runRow_failures_of_error stepped]
          rfl
      | ok result =>
          obtain ⟨effect, applied⟩ := result
          rw [here] at h stepped
          obtain ⟨between, same⟩ := Session.exists_replayRow_eq here entries
          obtain ⟨line, cause, failed, first⟩ := ih h between
          refine ⟨line, cause, failed, ?_⟩
          rw [Session.runRows_cons_failures, Session.runRow_failures_of_ok stepped, same]
          exact first

/-! ## Without breakpoints -/

lemma rowsToBreakpoint_nil (resumed : Option Nat) (rows : List Row) :
    rowsToBreakpoint [] resumed rows = rows.length := by
  induction rows generalizing resumed with
  | nil => rfl
  | cons row rest ih => simp [rowsToBreakpoint, ih]

/-- A snippet just loaded into a new stepper runs to its end: the session is the replay of all its
lines, and the failures reported are theirs. -/
lemma resume_load_new (settings : Settings) (language : Language) (code : Text) :
    let rows := (Program.ofCode language code).rows
    let run := ((Stepper.new settings).load language code).resume
    run.1.session = (Session.start language settings).replay rows ∧
      run.2.filterMap Event.failure? =
        ((Session.start language settings).runRows rows).2.filterMap Event.failure? := by
  intro rows run
  have advanced := ((Stepper.new settings).load language code).resume_eq_advance
  have count : rowsToBreakpoint [] none rows = rows.length := rowsToBreakpoint_nil none _
  have ran : rows.take rows.length = rows := List.take_length
  have ended : decide (rows.length ≤ 0 + rows.length) = true := by simp
  simp only [Stepper.load, Stepper.new, Stepper.begun, Stepper.remaining, List.drop_zero,
    Nat.lt_irrefl, and_false, if_false, reduceCtorEq, count, Stepper.followedBy, Stepper.advance,
    ran, Stepper.atEnd, Program.length, ended, if_true, rows] at advanced
  simp only [run, Stepper.load, Stepper.new, advanced]
  constructor
  · exact Session.runRows_fst _ _
  · -- completion is no failure
    rw [List.filterMap_append]
    exact List.append_nil _

/-- The stepped run where the batch run goes through: no failure, and the same output. -/
lemma resume_of_applyRows_ok {settings : Settings} {language : Language} {code : Text}
    {final : Session}
    (h : applyRows (.start language settings) (Program.ofCode language code).rows = .ok final) :
    let run := ((Stepper.new settings).load language code).resume
    (∀ line message, Event.error line message ∉ run.2) ∧
      run.1.session.output = final.output := by
  intro run
  obtain ⟨session, failures⟩ := resume_load_new settings language code
  obtain ⟨⟨later, replayed⟩, quiet⟩ := of_applyRows_ok h []
  constructor
  · intro line message reported
    have listed := Event.mem_failures.2 reported
    rw [failures] at listed
    have missing : (line, message) ∈ [] := quiet ▸ listed
    cases missing
  · have ended : run.1.session = final.withHistory later := session.trans replayed
    rw [ended]
    rfl

/-- The stepped run where the batch run fails: its first failure is the same. -/
lemma resume_of_applyRows_error {settings : Settings} {language : Language} {code : Text}
    {error : RunError}
    (h : applyRows (.start language settings) (Program.ofCode language code).rows = .error error) :
    let run := ((Stepper.new settings).load language code).resume
    ∃ line cause, error = .failed line cause ∧
      (run.2.filterMap Event.failure?).head? = some (line, cause.message) := by
  intro run
  obtain ⟨-, failures⟩ := resume_load_new settings language code
  obtain ⟨line, cause, failed, first⟩ := of_applyRows_error h []
  refine ⟨line, cause, failed, ?_⟩
  rw [failures]
  exact first

/-! ## A batch run, given what applying its rows comes to -/

section

variable {e : Engine} {language : Language} {code : Text} {timeoutMs : Nat}

lemma execute_eq (inPlace : language.isScripted = false)
    (wellFormed : Check.formError? language code = none) :
    (e.execute language code timeoutMs).1 =
      match interpret e.settings (some timeoutMs) (.ofCode language code) with
      | .error error => ⟨[], some error, []⟩
      | .ok output =>
        ⟨output, (Check.advice? e.settings.checkBounds e.settings.checkInfiniteLoops
          (.ofCode language code)).map .advised, []⟩ := by
  simp only [Engine.execute, Engine.runOnce, inPlace, Engine.runInPlace, wellFormed]
  cases interpret e.settings (some timeoutMs) (.ofCode language code) with
  | error error => rfl
  | ok output => rfl

/-- A run that does not time out applies the statements of its rows. -/
lemma interpret_eq (inPlace : language.isScripted = false)
    (wellFormed : Check.formError? language code = none)
    (inTime : ∀ ms, (e.execute language code timeoutMs).1.error ≠ some (.timeout ms)) :
    interpret e.settings (some timeoutMs) (.ofCode language code) =
      (applyRows (.start language e.settings) (Program.ofCode language code).rows).map
        fun s => s.output.text.trimEnd := by
  by_cases late :
      (exhausted (some timeoutMs) && !(Program.ofCode language code).rows.isEmpty) = true
  · have timedOut : interpret e.settings (some timeoutMs) (.ofCode language code) =
        .error (.timeout 0) := by simp only [interpret, late, if_true]
    have never := inTime 0
    rw [execute_eq inPlace wellFormed, timedOut] at never
    exact absurd rfl never
  · simp only [interpret, late]
    rfl

end

/-! ## The result -/

/-- **The batch engine and the stepper run the same program.**  For a well-formed snippet that is
interpreted in place and given enough time, the batch run fails exactly if the stepped run reports a
failure; then it reports the first one, and no output.  Otherwise the output is that of the stepped
run without the blanks at its end, whether or not advice is raised. -/
theorem execute_eq_resume (e : Engine) (language : Language) (code : Text) (timeoutMs : Nat)
    (inPlace : language.isScripted = false)
    (wellFormed : Check.formError? language code = none)
    (inTime : ∀ ms, (e.execute language code timeoutMs).1.error ≠ some (.timeout ms)) :
    let report := (e.execute language code timeoutMs).1
    let run := ((Stepper.new e.settings).perform (.load code (some language))).1.perform .resume
    ((∃ line cause, report.error = some (.failed line cause)) ↔
        ∃ line message, Event.error line message ∈ run.2) ∧
      (∀ line cause, report.error = some (.failed line cause) →
        (run.2.filterMap Event.failure?).head? = some (line, cause.message) ∧
          report.output = []) ∧
      ((∀ line message, Event.error line message ∉ run.2) →
        report.output = run.1.session.output.text.trimEnd) := by
  intro report run
  have interpreted := interpret_eq inPlace wellFormed inTime
  have executed : report = _ := execute_eq inPlace wellFormed
  cases applied : applyRows (.start language e.settings) (Program.ofCode language code).rows with
  | ok final =>
      rw [applied] at interpreted
      rw [interpreted] at executed
      obtain ⟨quiet, output⟩ := resume_of_applyRows_ok applied
      have advised : ∀ line cause, report.error ≠ some (.failed line cause) := by
        intro line cause failed
        rw [executed] at failed
        obtain ⟨advice, -, wrong⟩ := Option.map_eq_some_iff.1 failed
        cases wrong
      refine ⟨⟨?_, ?_⟩, ?_, ?_⟩
      · rintro ⟨line, cause, failed⟩
        exact absurd failed (advised line cause)
      · rintro ⟨line, message, reported⟩
        exact absurd reported (quiet line message)
      · exact fun line cause failed => absurd failed (advised line cause)
      · intro _
        show _ = ((Stepper.new e.settings).load language code).resume.1.session.output.text.trimEnd
        rw [executed, output]
        rfl
  | error error =>
      rw [applied] at interpreted
      rw [interpreted] at executed
      obtain ⟨line, cause, rfl, first⟩ := resume_of_applyRows_error applied
      have reported : Event.error line cause.message ∈ run.2 :=
        Event.mem_failures.1 (List.mem_of_mem_head? first)
      refine ⟨⟨fun _ => ⟨line, _, reported⟩, fun _ => ⟨line, cause, by rw [executed]; rfl⟩⟩, ?_, ?_⟩
      · intro line' cause' failed
        rw [executed] at failed ⊢
        cases failed
        exact ⟨first, rfl⟩
      · exact fun quiet => absurd reported (quiet line _)

/-- The second line of a snippet fails in both runs. -/
theorem execute_eq_resume_failing :
    let e := Engine.new .standard
    let code : Text := "int y;\nint x = ;"
    let run := ((Stepper.new e.settings).perform (.load code (some .java))).1.perform .resume
    (e.execute .java code 5000).1.error = some (.failed 2 (.missingValue "x")) ∧
      (run.2.filterMap Event.failure?).head? =
        some (2, (StatementError.missingValue "x").message) := by
  intro e code run
  have failed : (e.execute .java code 5000).1.error = some (.failed 2 (.missingValue "x")) := by
    decide +kernel
  have inTime : ∀ ms, (e.execute .java code 5000).1.error ≠ some (.timeout ms) := by
    intro ms
    rw [failed]
    simp
  exact ⟨failed, ((execute_eq_resume e .java code 5000 rfl (by decide +kernel) inTime).2.1
    2 _ failed).1⟩

end Batch

end SnippetLab

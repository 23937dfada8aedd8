import Mathlib.Tactic.Lemma
import SnippetLab.Batch.Engine

/-!
# Checks that only advise

Settings say which of the two checks are made on a program that has run.  A run with checks is the
run without them, **with their advice put in where nothing went wrong**; so two engines whose
settings differ in nothing but the checks write the same, fail alike and judge tests alike.

* `Settings.unchecked` — settings without their checks.
* `flag?` — what a program is flagged for, by the checks that are made.
* `runInPlace_eq_advise` — **what the checks do to a run.**
* `run_congr`, `checks_are_advisory` — two engines side by side.
-/

namespace SnippetLab

/-- The settings with neither check made, and nothing else of them changed. -/
def Settings.unchecked (settings : Settings) : Settings :=
  { settings with checkBounds := false, checkInfiniteLoops := false }

namespace Batch

/-- Is it advice, and no error that keeps a run from its end? -/
def RunError.isAdvice : RunError → Bool
  | .advised _ => true
  | _ => false

/-- **What a program is flagged for**: its access out of bounds if accesses are looked at, and else
its loop without a way out if loops are. -/
def flag? (settings : Settings) (p : Program) : Option Check.Advice :=
  match Check.overrun? p, Check.endlessLoop? p with
  | some overrun, some line =>
    if settings.checkBounds then some (.outOfBounds overrun)
    else if settings.checkInfiniteLoops then some (.endlessLoop line)
    else none
  | some overrun, none => if settings.checkBounds then some (.outOfBounds overrun) else none
  | none, some line => if settings.checkInfiniteLoops then some (.endlessLoop line) else none
  | none, none => none

lemma advice?_eq_flag? (settings : Settings) (p : Program) :
    Check.advice? settings.checkBounds settings.checkInfiniteLoops p = flag? settings p := by
  unfold Check.advice? Check.boundsAdvice? Check.loopAdvice? flag?
  cases Check.overrun? p <;> cases Check.endlessLoop? p <;>
    cases settings.checkBounds <;> cases settings.checkInfiniteLoops <;> rfl

/-- Where nothing is looked for nothing is flagged. -/
lemma flag?_unchecked (settings : Settings) (p : Program) : flag? settings.unchecked p = none := by
  unfold flag?
  cases Check.overrun? p <;> cases Check.endlessLoop? p <;> rfl

/-- A run with the advice on its program, if nothing went wrong. -/
def advise (flag : Option Check.Advice) : Text × Option RunError → Text × Option RunError
  | (output, none) => (output, flag.map .advised)
  | stopped => stopped

section Run

variable {settings : Settings} {language : Language} {code : Text} {timeoutMs : Nat}

/-- The statements of a program fail with errors of their own, never with advice. -/
lemma isAdvice_of_applyRows {s : Session} {rows : List Row} {error : RunError}
    (failed : applyRows s rows = .error error) : error.isAdvice = false := by
  induction rows generalizing s with
  | nil => cases failed
  | cons row rest ih =>
      rw [applyRows] at failed
      split at failed
      · cases failed
        rfl
      · exact ih failed

lemma isAdvice_of_interpret {p : Program} {allowance : Allowance} {error : RunError}
    (failed : interpret settings allowance p = .error error) : error.isAdvice = false := by
  unfold interpret at failed
  split at failed
  · cases failed
    rfl
  · cases applied : applyRows (.start p.language settings) p.rows with
    | error error' =>
        rw [applied] at failed
        cases failed
        exact isAdvice_of_applyRows applied
    | ok s =>
        rw [applied] at failed
        cases failed

/-- **What the checks do to a run**: they put in their advice where nothing went wrong. -/
theorem runInPlace_eq_advise (settings : Settings) (language : Language) (code : Text)
    (timeoutMs : Nat) :
    Engine.runInPlace settings language code timeoutMs =
      advise (flag? settings (.ofCode language code))
        (Engine.runInPlace settings.unchecked language code timeoutMs) := by
  -- a program is run alike whether it is checked afterwards or not
  have alike (p : Program) : interpret settings.unchecked (some timeoutMs) p =
      interpret settings (some timeoutMs) p := rfl
  simp only [Engine.runInPlace, advice?_eq_flag?, flag?_unchecked, alike]
  cases Check.formError? language code with
  | some error => rfl
  | none => cases interpret settings (some timeoutMs) (.ofCode language code) <;> rfl

/-- Without checks there is no advice. -/
lemma isAdvice_of_unchecked {error : RunError}
    (raised : (Engine.runInPlace settings.unchecked language code timeoutMs).2 = some error) :
    error.isAdvice = false := by
  simp only [Engine.runInPlace, advice?_eq_flag?, flag?_unchecked] at raised
  split at raised
  · cases raised
    rfl
  · split at raised
    · rename_i failed
      cases raised
      exact isAdvice_of_interpret failed
    · cases raised

end Run

/-! ## Two engines side by side -/

section Engines

variable {e e' : Engine} {language : Language}

/-- **Settings that differ in their checks only** lead to the same runs, up to their advice. -/
lemma runInPlace_congr {settings settings' : Settings}
    (alike : settings.unchecked = settings'.unchecked) (language : Language) (code : Text)
    (timeoutMs : Nat) :
    ∃ ran : Text × Option RunError,
      (∀ error ∈ ran.2, error.isAdvice = false) ∧
      Engine.runInPlace settings language code timeoutMs =
        advise (flag? settings (.ofCode language code)) ran ∧
      Engine.runInPlace settings' language code timeoutMs =
        advise (flag? settings' (.ofCode language code)) ran :=
  ⟨Engine.runInPlace settings.unchecked language code timeoutMs,
    fun _ raised => isAdvice_of_unchecked raised,
    runInPlace_eq_advise settings language code timeoutMs,
    alike ▸ runInPlace_eq_advise settings' language code timeoutMs⟩

lemma output_advise (flag : Option Check.Advice) (ran : Text × Option RunError) :
    (advise flag ran).1 = ran.1 := by
  rcases ran with ⟨output, _ | error⟩ <;> rfl

lemma runOnce_inPlace (inPlace : language.isScripted = false) (e : Engine) (code : Text)
    (timeoutMs : Nat) :
    e.runOnce language code timeoutMs =
      (Engine.runInPlace e.settings language code timeoutMs, e) := by
  rw [Engine.runOnce, inPlace, if_neg Bool.false_ne_true]

lemma execute_inPlace (inPlace : language.isScripted = false) (e : Engine) (code : Text)
    (timeoutMs : Nat) :
    (e.execute language code timeoutMs).1 =
      ⟨(Engine.runInPlace e.settings language code timeoutMs).1,
        (Engine.runInPlace e.settings language code timeoutMs).2, []⟩ := by
  simp only [Engine.execute, runOnce_inPlace inPlace]

/-- **Tests come out alike** whatever is looked for afterwards. -/
theorem runTests_congr (inPlace : language.isScripted = false)
    (alike : e.settings.unchecked = e'.settings.unchecked) (code : Text) (timeoutMs number : Nat)
    (tests : List TestCase) :
    (e.runTests language code timeoutMs number tests).1 =
      (e'.runTests language code timeoutMs number tests).1 := by
  induction tests generalizing number with
  | nil => rfl
  | cons test rest ih =>
      obtain ⟨ran, -, here, there⟩ :=
        runInPlace_congr alike language (inject language test.input code) timeoutMs
      simp only [Engine.runTests, runOnce_inPlace inPlace, here, there, output_advise, ih]

/-- **A request is answered alike**, advice apart: the output and what came of every test. -/
theorem run_congr (alike : e.settings.unchecked = e'.settings.unchecked) (request : Request)
    (inPlace : (Language.ofTag request.language).isScripted = false) :
    (e.run request).1.output = (e'.run request).1.output ∧
      (e.run request).1.tests = (e'.run request).1.tests := by
  have timeout : e.settings.timeoutMs = e'.settings.timeoutMs := by
    simpa only [Settings.unchecked] using congrArg Settings.timeoutMs alike
  simp only [Engine.run, timeout]
  cases request.tests.getD [] with
  | nil =>
      obtain ⟨ran, -, here, there⟩ :=
        runInPlace_congr alike (Language.ofTag request.language) request.code
          (request.timeoutMs.getD e'.settings.timeoutMs)
      simp only [execute_inPlace inPlace, here, there, output_advise, and_self]
  | cons test rest =>
      simp only [Engine.executeTests, runTests_congr inPlace alike, and_self]

/-- **The checks are advisory.**  Two engines whose settings differ in nothing but the checks judge
tests alike.  Without tests they write the same; an error that is no advice is raised by both or by
neither, and where there is none, each flags the program for what it looks for. -/
theorem checks_are_advisory (inPlace : language.isScripted = false)
    (alike : e.settings.unchecked = e'.settings.unchecked) (code : Text) (tests : List TestCase)
    (timeoutMs : Nat) :
    let p := Program.ofCode language code
    let report := (e.execute language code timeoutMs).1
    let report' := (e'.execute language code timeoutMs).1
    (e.executeTests language code tests timeoutMs).1 =
      (e'.executeTests language code tests timeoutMs).1 ∧
    report.output = report'.output ∧ report.tests = report'.tests ∧
    (∀ error, error.isAdvice = false →
      (report.error = some error ↔ report'.error = some error)) ∧
    ((∀ error ∈ report.error, error.isAdvice = true) →
      report.error = (flag? e.settings p).map .advised ∧
      report'.error = (flag? e'.settings p).map .advised) := by
  intro p report report'
  obtain ⟨ran, own, here, there⟩ := runInPlace_congr alike language code timeoutMs
  have first : report = ⟨_, _, []⟩ := execute_inPlace inPlace e code timeoutMs
  have second : report' = ⟨_, _, []⟩ := execute_inPlace inPlace e' code timeoutMs
  rw [here] at first
  rw [there] at second
  rw [first, second]
  refine ⟨?_, ?_, rfl, ?_⟩
  · simp only [Engine.executeTests, runTests_congr inPlace alike]
  · simp only [output_advise]
  · rcases ran with ⟨output, _ | error⟩
    · -- nothing went wrong, so that all there is is advice
      refine ⟨fun error other => ?_, fun _ => ⟨rfl, rfl⟩⟩
      have none_ (flag : Option Check.Advice) : flag.map RunError.advised ≠ some error := by
        rintro raised
        obtain ⟨advice, -, rfl⟩ := Option.map_eq_some_iff.1 raised
        cases other
      exact iff_of_false (none_ _) (none_ _)
    · -- the error is there in both, and is no advice
      refine ⟨fun _ _ => Iff.rfl, fun advice => ?_⟩
      have advised : error.isAdvice = true := advice error rfl
      rw [own error rfl] at advised
      cases advised

/-- A program with an access out of bounds and a loop without a way out, looked over for both and
for loops alone. -/
theorem checks_are_advisory_loops_alone :
    let code : Text := "int[] a = new int[3];\na[3] = 1;\nwhile (true) \x7b\n\x7d"
    let e := Engine.new .standard
    let e' := Engine.new { Settings.standard with checkBounds := false }
    Language.java.isScripted = false ∧ e.settings.unchecked = e'.settings.unchecked ∧
      (e.execute .java code 5000).1.error = some (.advised (.outOfBounds ⟨"a", 3, 3, 2⟩)) ∧
      (e'.execute .java code 5000).1.error = some (.advised (.endlessLoop 3)) := by
  intro code e e'
  obtain ⟨-, -, -, -, flags⟩ := @checks_are_advisory e e' .java rfl rfl code [] 5000
  obtain ⟨first, second⟩ := flags (by decide +kernel)
  exact ⟨rfl, rfl, first.trans (by decide +kernel), second.trans (by decide +kernel)⟩

end Engines

end Batch

end SnippetLab

import SnippetLab.Proofs.Batch.Advisory
import SnippetLab.Proofs.Text.Parts

/-!
# Tests whose run was stopped

A test is judged by what its run has written, and by nothing else: the error of a run that stopped
before its end is dropped.  Such a run leaves no output behind, so **it passes exactly the tests
that expect nothing**.

* `Stopped`, `Engine.testRuns` — runs that did not get to their end, and the runs of some tests.
* `output_of_stopped` — what is left of a run that stopped.
* `stopped_passes_iff_blank` — **how the tests of stopped runs come out**, and when success means
  that all runs got to their end.
-/

namespace SnippetLab.Batch

/-- **A run that stopped**: it has an error that is no advice. -/
def Stopped (ran : Text × Option RunError) : Prop :=
  ∃ error, ran.2 = some error ∧ error.isAdvice = false

instance (ran : Text × Option RunError) : Decidable (Stopped ran) :=
  decidable_of_iff (ran.2.any (!·.isAdvice) = true) (by simp [Stopped, Option.any_eq_true])

/-- **The runs of some tests**, one after another, each of the code with the input put in. -/
def Engine.testRuns (e : Engine) (language : Language) (code : Text) (timeoutMs : Nat) :
    List TestCase → List (Text × Option RunError)
  | [] => []
  | test :: rest =>
    let (ran, e') := e.runOnce language (inject language test.input code) timeoutMs
    ran :: e'.testRuns language code timeoutMs rest

section Tests

variable (e : Engine) (language : Language) (code : Text) (timeoutMs : Nat)

/-- In place, an error that is no advice leaves no output. -/
lemma output_of_runInPlace {settings : Settings}
    (stopped : Stopped (Engine.runInPlace settings language code timeoutMs)) :
    (Engine.runInPlace settings language code timeoutMs).1 = [] := by
  obtain ⟨error, raised, severe⟩ := stopped
  unfold Engine.runInPlace at raised ⊢
  cases formed : Check.formError? language code with
  | some error => rfl
  | none =>
      simp only [formed] at raised ⊢
      cases interpreted : interpret settings (some timeoutMs) (.ofCode language code) with
      | error error => rfl
      | ok output =>
          -- a run that got to its end has advice at most
          simp only [interpreted, Option.map_eq_some_iff] at raised
          obtain ⟨advice, -, rfl⟩ := raised
          cases severe

/-- **A run that stopped leaves no output**, wherever it was run. -/
lemma output_of_stopped (stopped : Stopped (e.runOnce language code timeoutMs).1) :
    (e.runOnce language code timeoutMs).1.1 = [] := by
  cases scripted : language.isScripted with
  | true =>
      obtain ⟨error, raised, -⟩ := stopped
      simp only [Engine.runOnce, scripted, if_true] at raised ⊢
      rcases ran : e.runScript code timeoutMs with ⟨_ | _, e'⟩
      · rfl
      · simp [ran] at raised
  | false =>
      rw [runOnce_inPlace scripted] at stopped ⊢
      exact output_of_runInPlace language code timeoutMs stopped

/-- There is a run for each test. -/
lemma length_testRuns (tests : List TestCase) :
    (e.testRuns language code timeoutMs tests).length = tests.length := by
  induction tests generalizing e with
  | nil => rfl
  | cons test rest ih => exact congrArg Nat.succ (ih _)

lemma length_runTests (number : Nat) (tests : List TestCase) :
    (e.runTests language code timeoutMs number tests).1.length = tests.length := by
  induction tests generalizing e number with
  | nil => rfl
  | cons test rest ih => exact congrArg Nat.succ (ih _ _)

/-- **A test is judged by the output of its run.** -/
lemma getElem?_runTests {tests : List TestCase} {i : Nat} {test : TestCase}
    (listed : tests[i]? = some test) (number : Nat) :
    ∃ ran, (e.testRuns language code timeoutMs tests)[i]? = some ran ∧
      (e.runTests language code timeoutMs number tests).1[i]? =
        some (Engine.testReport (number + i) test ran.1) ∧
      (Stopped ran → ran.1 = []) := by
  induction tests generalizing e number i with
  | nil => cases listed
  | cons first rest ih =>
      cases i with
      | zero =>
          obtain rfl : first = test := Option.some.inj listed
          exact ⟨_, rfl, rfl, output_of_stopped e language _ timeoutMs⟩
      | succ i =>
          obtain ⟨ran, here, entry, empty⟩ := ih _ listed (number + 1)
          refine ⟨ran, here, ?_, empty⟩
          rw [Nat.add_right_comm number 1 i] at entry
          exact entry

/-- Without output a test passes if it expects nothing. -/
lemma passed_of_nil (number : Nat) (test : TestCase) :
    (Engine.testReport number test []).passed = true ↔ test.expected.isAllBlank = true := by
  have blank : test.expected.trim = [] ↔ test.expected.isAllBlank = true := by
    rw [Text.trim_eq_nil_iff, Text.trimStart, List.dropWhile_eq_nil_iff, Text.isAllBlank,
      List.all_eq_true]
  have nothing : Text.trim [] = [] := rfl
  rw [Engine.testReport, nothing, beq_iff_eq, ← blank]
  exact eq_comm

/-- **How the tests of stopped runs come out.**  Every test has its run and its report; the test of
a run that stopped passes exactly if it expects nothing.  So where every test expects something,
success means that all runs got to their end. -/
theorem stopped_passes_iff_blank (tests : List TestCase) :
    let runs := e.testRuns language code timeoutMs tests
    let report := (e.executeTests language code tests timeoutMs).1
    runs.length = tests.length ∧ report.tests.length = tests.length ∧
    (∀ (i : Nat) (test : TestCase) (entry : TestReport) (ran : Text × Option RunError),
      tests[i]? = some test → report.tests[i]? = some entry → runs[i]? = some ran →
        (entry.passed = true ↔ ran.1.trim = test.expected.trim) ∧
        (Stopped ran → (entry.passed = true ↔ test.expected.isAllBlank = true))) ∧
    ((∀ test ∈ tests, test.expected.isAllBlank = false) → report.success = true →
      ∀ ran ∈ runs, ¬Stopped ran) := by
  intro runs report
  have judged {i : Nat} {test : TestCase} (listed : tests[i]? = some test) :=
    getElem?_runTests e language code timeoutMs listed 1
  refine ⟨length_testRuns e language code timeoutMs tests,
    length_runTests e language code timeoutMs 1 tests, ?_, ?_⟩
  · intro i test entry ran listed told here
    obtain ⟨ran', here', told', empty⟩ := judged listed
    obtain rfl : ran = ran' := Option.some.inj (here.symm.trans here')
    obtain rfl : entry = _ := Option.some.inj (told.symm.trans told')
    refine ⟨beq_iff_eq, fun stopped => ?_⟩
    rw [empty stopped]
    exact passed_of_nil (1 + i) test
  · intro expecting success ran among stopped
    obtain ⟨i, here⟩ := List.getElem?_of_mem among
    have within : i < tests.length := by
      rw [← length_testRuns e language code timeoutMs tests]
      exact (List.getElem?_eq_some_iff.1 here).1
    obtain ⟨ran', here', told, empty⟩ := judged (List.getElem?_eq_getElem within)
    obtain rfl : ran = ran' := Option.some.inj (here.symm.trans here')
    have passed : (Engine.testReport (1 + i) tests[i] ran.1).passed = true :=
      List.all_eq_true.1 (Bool.and_eq_true_iff.1 success).2 _ (List.mem_of_getElem? told)
    rw [empty stopped, passed_of_nil, expecting _ (List.getElem_mem within)] at passed
    cases passed

/-- **Code that does not run passes a test**, and is a success. -/
theorem stopped_run_succeeds :
    let tests : List TestCase := [⟨none, "", ""⟩]
    let e := Engine.new .standard
    let report := (e.executeTests .java "int x = (1;" tests 5000).1
    (∃ ran ∈ e.testRuns .java "int x = (1;" 5000 tests, Stopped ran) ∧
      report.tests.map TestReport.passed = [true] ∧ report.success = true := by
  decide +kernel

end Tests

end SnippetLab.Batch

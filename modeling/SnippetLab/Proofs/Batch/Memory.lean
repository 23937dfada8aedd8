import SnippetLab.Proofs.Batch.Serving
import SnippetLab.Proofs.Session.Written

/-!
# What an engine remembers

An engine changes its settings between requests, but the scripts it interprets are interpreted under
the settings it was made with.  **Nothing else of its past is felt**: neither requests it has served
nor settings it had in between.  And of the settings it was made with, only the limit for output
counts, and that only for a script that writes more than it.

* `writes` — all that a program writes, whether it is kept or not.
* `interpret_untimed`, `evaluateScript_congr` — **the settings cut what a script writes**, and do
  nothing else to it.
* `report_after_jobs` — an engine with a past, an engine without one, and a new engine.
-/

namespace SnippetLab.Batch

/-! ## What a program writes -/

/-- What the statements of some rows write, up to the first that fails. -/
def written (s : Session) : List Row → Text
  | [] => []
  | row :: rest =>
    match s.apply row.number row.statement with
    | .error _ => []
    | .ok (effect, s') => effect.written ++ written s' rest

/-- **All that a program writes.**  No settings play a part in it. -/
def writes (p : Program) : Text := written (.start p.language .standard) p.rows

/-- The statements of some rows do the same whatever is kept, and write the same text. -/
theorem applyRows_keeping (s : Session) (out : Output) (entries : List HistoryEntry) (limit : Nat)
    (rows : List Row) : applyRows (s.keeping out entries limit) rows =
      (applyRows s rows).map (·.keeping (out.write (written s rows)) entries limit) := by
  induction rows generalizing s out with
  | nil =>
      rw [written, Output.write_nil]
      rfl
  | cons row rest ih =>
      unfold applyRows written
      rw [Session.apply_keeping]
      cases s.apply row.number row.statement with
      | error cause => rfl
      | ok result =>
          obtain ⟨effect, s'⟩ := result
          simp only [Except.map]
          rw [ih, Output.write_append]
          rfl

/-- **What a program comes to without a limit of time**: its settings cut what it writes. -/
theorem interpret_untimed (settings : Settings) (p : Program) :
    interpret settings none p = (applyRows (.start p.language .standard) p.rows).map fun _ =>
      Text.trimEnd ((writes p).take settings.maxOutputChars) := by
  have kept : applyRows (.start p.language settings) p.rows = _ :=
    applyRows_keeping (.start p.language .standard) (.empty settings.maxOutputChars) []
      settings.historyLimit p.rows
  have untimed : (exhausted none && !p.rows.isEmpty) = false := rfl
  rw [interpret, untimed, kept]
  cases applyRows (.start p.language .standard) p.rows with
  | error error => rfl
  | ok final =>
      show Except.ok
        (Text.trimEnd ((Output.empty settings.maxOutputChars).write (writes p)).text) = _
      rw [Output.text_write_empty]
      rfl

/-- A script is evaluated alike under settings that cut alike what it writes. -/
lemma evaluateScript_congr {settings settings' : Settings} {script : Text}
    (alike : (writes (.ofCode .javaScript script)).take settings.maxOutputChars =
      (writes (.ofCode .javaScript script)).take settings'.maxOutputChars) :
    evaluateScript settings script = evaluateScript settings' script := by
  unfold evaluateScript
  rw [interpret_untimed, interpret_untimed, alike]

/-! ## Requests to an engine that interprets its scripts -/

lemma eq_javaScript_of_isScripted {language : Language} (scripted : language.isScripted = true) :
    language = .javaScript := by
  cases language with
  | javaScript => rfl
  | java => cases scripted
  | python => cases scripted

/-- What a run comes to that is not late, under some settings, if scripts are interpreted under
others. -/
def resultInTime (made settings : Settings) (language : Language) (timeoutMs : Nat) (code : Text) :
    Text × Option RunError :=
  if language.isScripted then (evaluateScript made code).result settings.maxOutputChars
  else Engine.runInPlace settings language code timeoutMs

lemma ScriptSource.result_of_inTime {delays : List Nat} {timeoutMs i : Nat} {language : Language}
    (made settings : Settings) (code : Text)
    (inTime : language.isScripted = true → delays[i]?.getD 0 ≤ timeoutMs) :
    (ScriptSource.interpreter made delays).result settings language timeoutMs i code =
      resultInTime made settings language timeoutMs code := by
  unfold result resultInTime
  cases scripted : language.isScripted with
  | true => simp [evaluation, Evaluation.result, Nat.not_lt.2 (inTime scripted)]
  | false => rfl

/-- A run of a request none of whose scripts is late is not late. -/
lemma inTime_of_forall_mem {delays : List Nat} {count timeoutMs i : Nat} {request : Request}
    {code : Text} (all : ∀ delayMs ∈ (delays.drop count).take request.scripts, delayMs ≤ timeoutMs)
    (listed : request.codes[i]? = some code)
    (scripted : (Language.ofTag request.language).isScripted = true) :
    delays[count + i]?.getD 0 ≤ timeoutMs := by
  cases taken : delays[count + i]? with
  | none => exact Nat.zero_le timeoutMs
  | some delayMs =>
      have within : i < request.scripts := by
        obtain ⟨within, -⟩ := List.getElem?_eq_some_iff.1 listed
        simpa [Request.scripts, scriptsPerRun, scripted] using within
      refine all delayMs (List.mem_of_getElem? (i := i) ?_)
      rw [List.getElem?_take_of_lt within, List.getElem?_drop, taken]

/-- **A request none of whose scripts is late**, behind some jobs. -/
lemma report_of_inTime {e : Engine} {made : Settings} {delays : List Nat} (ready : e.Ready)
    (interpreted : e.source = .interpreter made delays) (jobs : List Job) (request : Request)
    (inTime : ∀ delayMs ∈ (delays.drop (scriptCount jobs)).take request.scripts,
      delayMs ≤ request.timeoutMs.getD (settingsAfter e.settings jobs).timeoutMs) :
    let current := settingsAfter e.settings jobs
    ((e.after jobs).run request).1 = request.report fun _ =>
      resultInTime made current (Language.ofTag request.language)
        (request.timeoutMs.getD current.timeoutMs) := by
  intro current
  rw [Engine.run_after ready jobs request, interpreted]
  exact request.report_congr fun i code listed =>
    ScriptSource.result_of_inTime made current code (inTime_of_forall_mem inTime listed)

/-- A request to an engine without a past. -/
lemma report_of_new (made settings : Settings) (request : Request) :
    ({ Engine.new made with settings }.run request).1 = request.report fun _ =>
      resultInTime made settings (Language.ofTag request.language)
        (request.timeoutMs.getD settings.timeoutMs) := by
  refine report_of_inTime (e := { Engine.new made with settings }) ?_ rfl [] request (by simp)
  intro _ there
  cases there

/-! ## The result -/

/-- **An engine remembers the limit it was made with, and nothing else.**  Whatever it has run
before and however its settings were changed, if none of the next request's scripts is late, then
the report is that of an engine just made and set at once as it is set now.  It is that of an engine
just made with the settings in force now, unless it is a request of scripts and the two limits for
output cut something that these write in different places. -/
theorem report_after_jobs (initial : Settings) (delays : List Nat) (jobs : List Job)
    (request : Request)
    (inTime : ∀ delayMs ∈ (delays.drop (scriptCount jobs)).take request.scripts,
      delayMs ≤ request.timeoutMs.getD (settingsAfter initial jobs).timeoutMs) :
    let current := settingsAfter initial jobs
    let language := Language.ofTag request.language
    let used := ((Engine.new initial).withSource (.interpreter initial delays)).after jobs
    (used.run request).1 = ({ Engine.new initial with settings := current }.run request).1 ∧
      ((language.isScripted = true → ∀ code ∈ request.codes,
          (writes (.ofCode language code)).take initial.maxOutputChars =
            (writes (.ofCode language code)).take current.maxOutputChars) →
        (used.run request).1 = ((Engine.new current).run request).1) := by
  intro current language used
  have ready : ((Engine.new initial).withSource (.interpreter initial delays)).Ready :=
    fun _ there => by cases there
  have served : (used.run request).1 = request.report fun _ =>
      resultInTime initial current language (request.timeoutMs.getD current.timeoutMs) :=
    report_of_inTime ready rfl jobs request inTime
  rw [served]
  refine ⟨(report_of_new initial current request).symm, fun alike => ?_⟩
  have fresh : ((Engine.new current).run request).1 = _ := report_of_new current current request
  rw [fresh]
  refine request.report_congr fun i code listed => ?_
  unfold resultInTime
  cases scripted : language.isScripted with
  | false => rfl
  | true =>
      have cut := alike scripted code (List.mem_of_getElem? listed)
      rw [eq_javaScript_of_isScripted scripted] at cut
      rw [evaluateScript_congr cut]

/-- A script that was late, and settings with another limit: a script that writes no more than
either limit is answered as if there had been neither. -/
theorem report_after_jobs_late :
    let initial : Settings := { Settings.standard with maxOutputChars := 3 }
    let late : Request := ⟨"console.log(1);", "js", none, none⟩
    let request : Request := ⟨"console.log(\"ab\");", "js", none, some 20⟩
    let e := (Engine.new initial).withSource (.interpreter initial [9000, 10])
    (e.run late).1.error = some (.timeout 5000) ∧
      ((e.after [.run late, .configure .standard]).run request).1 =
        ((Engine.new .standard).run request).1 := by
  intro initial late request e
  have inTime : ∀ delayMs ∈ ([9000, 10].drop (scriptCount [.run late, .configure .standard])).take
      request.scripts, delayMs ≤ 20 := by decide +kernel
  have alike : ∀ code ∈ request.codes,
      (writes (.ofCode (Language.ofTag request.language) code)).take initial.maxOutputChars =
        (writes (.ofCode (Language.ofTag request.language) code)).take
          Settings.standard.maxOutputChars := by
    decide +kernel
  exact ⟨by decide +kernel, (report_after_jobs initial [9000, 10]
    [.run late, .configure .standard] request inTime).2 fun _ => alike⟩

/-- **The limit an engine was made with still cuts what a script writes** when there is another, and
does not cut what a snippet writes that is interpreted in place. -/
theorem limit_made_with_is_remembered :
    let narrow : Settings := { Settings.standard with maxOutputChars := 3 }
    let used := (Engine.new narrow).after [.configure .standard]
    let script : Request := ⟨"console.log(\"abcdef\");", "js", none, none⟩
    let snippet : Request := ⟨"print(\"abcdef\")", "python", none, none⟩
    (used.run script).1.output = "abc" ∧
      ((Engine.new .standard).run script).1.output = "abcdef" ∧
      (used.run snippet).1.output = "abcdef" := by
  decide +kernel

end SnippetLab.Batch

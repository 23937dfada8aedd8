import SnippetLab.Batch.Worker
import SnippetLab.Proofs.Batch.Bridge

/-!
# An engine that serves one request after another

Whatever an engine has served before, with scripts that failed, were late or stopped the script
engine, and with settings changed in between, **the runs of its next request take the evaluations
that come next**, one for each script and none for a run in place.  Two things carry this from run
to run: a bridge that is kept is idle, and any other is abandoned.

* `ScriptSource.evaluation`, `ScriptSource.skip` — the evaluations of a source by their number.
* `Evaluation.result` — what a run comes to that is given an evaluation.
* `Engine.Ready`, `Engine.Moves` — between two runs, and over some of them.
* `Engine.run_of_ready` — one request: its report, and the engine after it.
* `Engine.moves_after` — the engine after some jobs.
* `report_of_prepared` — the two together, for prepared evaluations.
-/

namespace SnippetLab.Batch

/-! ## Evaluations by their number -/

namespace ScriptSource

/-- The evaluation of a script that is the source's number `i`, counted from zero. -/
def evaluation (source : ScriptSource) (i : Nat) (script : Text) : Evaluation :=
  match source with
  | .interpreter settings delays => ⟨delays[i]?.getD 0, some (evaluateScript settings script)⟩
  | .prepared queue => queue[i]?.getD ⟨0, some (.ok script)⟩

/-- The source when it has evaluated `n` scripts. -/
def skip (source : ScriptSource) (n : Nat) : ScriptSource :=
  match source with
  | .interpreter settings delays => .interpreter settings (delays.drop n)
  | .prepared queue => .prepared (queue.drop n)

lemma next_eq (source : ScriptSource) (script : Text) :
    source.next script = (source.evaluation 0 script, source.skip 1) := by
  rcases source with ⟨settings, _ | ⟨delay, rest⟩⟩ | _ | ⟨evaluation, rest⟩ <;> rfl

lemma evaluation_skip (source : ScriptSource) (n i : Nat) (script : Text) :
    (source.skip n).evaluation i script = source.evaluation (n + i) script := by
  cases source <;> simp only [skip, evaluation, List.getElem?_drop]

lemma skip_zero (source : ScriptSource) : source.skip 0 = source := by
  cases source <;> rfl

lemma skip_skip (source : ScriptSource) (m n : Nat) :
    (source.skip m).skip n = source.skip (m + n) := by
  cases source <;> simp only [skip, List.drop_drop]

end ScriptSource

/-! ## What a run comes to -/

/-- What a reply means for a run: its output, and what went wrong. -/
def Reply.result (reply : Reply) (limit : Nat) : Text × Option RunError :=
  if reply.success then ((Text.trimEnd reply.output).take limit, none)
  else ([], some (.script (reply.error.getD "Script failed")))

/-- **What a run comes to that is given an evaluation.** -/
def Evaluation.result (evaluation : Evaluation) (limit timeoutMs : Nat) : Text × Option RunError :=
  if timeoutMs < evaluation.delayMs then ([], some (.timeout timeoutMs))
  else
    match evaluation.reply with
    | some reply => reply.result limit
    | none => ([], some .engineStopped)

/-- What a run comes to under some settings, if its script is evaluated as number `i`. -/
def ScriptSource.result (source : ScriptSource) (settings : Settings) (language : Language)
    (timeoutMs i : Nat) (code : Text) : Text × Option RunError :=
  if language.isScripted then (source.evaluation i code).result settings.maxOutputChars timeoutMs
  else Engine.runInPlace settings language code timeoutMs

/-- The report on a request, given what its runs come to. -/
def Request.report (request : Request) (result : Nat → Text → Text × Option RunError) : Report :=
  match request.tests.getD [] with
  | [] => ⟨(result 0 request.code).1, (result 0 request.code).2, []⟩
  | tests =>
    let reports := tests.mapIdx fun i test => Engine.testReport (i + 1) test
      (result i (inject (Language.ofTag request.language) test.input request.code)).1
    ⟨Engine.testSummary reports, none, reports⟩

/-- How many scripts a run in a language is. -/
def scriptsPerRun (language : Language) : Nat := if language.isScripted then 1 else 0

section

variable (source : ScriptSource) (settings : Settings) (language : Language) (timeoutMs i : Nat)
  (code : Text)

lemma ScriptSource.result_skip (n : Nat) :
    (source.skip n).result settings language timeoutMs i code =
      source.result settings language timeoutMs (n + i) code := by
  simp only [result, evaluation_skip]

/-- Behind a run, the runs count from one on. -/
lemma ScriptSource.result_behind_run :
    source.result settings language timeoutMs (scriptsPerRun language + i) code =
      source.result settings language timeoutMs (i + 1) code := by
  unfold result scriptsPerRun
  cases language.isScripted with
  | true => simp only [if_true, Nat.add_comm 1 i]
  | false => rfl

end

/-- What a request runs: its code, or for each test the code with the test's input. -/
def Request.codes (request : Request) : List Text :=
  match request.tests.getD [] with
  | [] => [request.code]
  | tests => tests.map fun test =>
    inject (Language.ofTag request.language) test.input request.code

/-- How many scripts a request is. -/
def Request.scripts (request : Request) : Nat :=
  scriptsPerRun (Language.ofTag request.language) * request.codes.length

/-- A report looks at the runs of its request alone. -/
lemma Request.report_congr (request : Request)
    {result result' : Nat → Text → Text × Option RunError}
    (same : ∀ i code, request.codes[i]? = some code → result i code = result' i code) :
    request.report result = request.report result' := by
  unfold report
  unfold codes at same
  cases listed : request.tests.getD [] with
  | nil =>
      rw [listed] at same
      simp only [same 0 request.code rfl]
  | cons test rest =>
      rw [listed] at same
      have results : ∀ i (within : i < (test :: rest).length),
          let code := inject (Language.ofTag request.language) (test :: rest)[i].input request.code
          result i code = result' i code := by
        intro i within code
        refine same i code ?_
        rw [List.getElem?_map, List.getElem?_eq_getElem within]
        rfl
      have reports : ((test :: rest).mapIdx fun i test => Engine.testReport (i + 1) test
            (result i (inject (Language.ofTag request.language) test.input request.code)).1) =
          (test :: rest).mapIdx fun i test => Engine.testReport (i + 1) test
            (result' i (inject (Language.ofTag request.language) test.input request.code)).1 :=
        List.mapIdx_eq_mapIdx_iff.2 fun i within => by rw [results i within]
      simp only [reports]

/-! ## Between two runs -/

namespace Engine

/-- The bridge, if there is one, has nothing left over. -/
def Ready (e : Engine) : Prop := ∀ b ∈ e.bridge, b.Idle

/-- From one ready engine to another: some scripts have been evaluated, and nothing else has
changed. -/
structure Moves (e e' : Engine) (scripts : Nat) : Prop where
  settings : e'.settings = e.settings
  source : e'.source = e.source.skip scripts
  ready : e'.Ready

lemma Moves.refl {e : Engine} (h : e.Ready) : e.Moves e 0 := ⟨rfl, e.source.skip_zero.symm, h⟩

lemma Moves.trans {e e' e'' : Engine} {m n : Nat} (first : e.Moves e' m) (second : e'.Moves e'' n) :
    e.Moves e'' (m + n) where
  settings := second.settings.trans first.settings
  source := by rw [second.source, first.source, ScriptSource.skip_skip]
  ready := second.ready

/-! ## One run -/

lemma Ready.idle {e : Engine} (h : e.Ready) : (e.bridge.getD .start).Idle := by
  cases there : e.bridge with
  | none => exact Bridge.idle_start
  | some b => exact h b there

section Run

variable {e : Engine} {language : Language} {code : Text} {timeoutMs : Nat} {b : Bridge}
  {source : ScriptSource}

/-- A run whose bridge has a reply keeps the bridge. -/
lemma runOnce_of_reply (scripted : language.isScripted = true) {reply : Reply}
    (ran : (e.bridge.getD .start).run e.source code timeoutMs = (.ok reply, b, source)) :
    e.runOnce language code timeoutMs =
      (reply.result e.settings.maxOutputChars, { e with bridge := some b, source }) := by
  simp only [runOnce, scripted, if_true, runScript, ran, outcomeOf, Reply.result]
  cases reply.success <;> rfl

/-- A run whose bridge is of no more use abandons it. -/
lemma runOnce_of_error (scripted : language.isScripted = true) {error : RunError}
    (ran : (e.bridge.getD .start).run e.source code timeoutMs = (.error error, b, source))
    (abandoned : abandons error = true) :
    e.runOnce language code timeoutMs = (([], some error), { e with bridge := none, source }) := by
  simp only [runOnce, scripted, if_true, runScript, ran, abandoned]

lemma abandons_stopError (time deadline timeoutMs : Nat) :
    abandons (Bridge.stopError time deadline timeoutMs) = true := by
  unfold Bridge.stopError
  split <;> rfl

/-- **A script is run with the next evaluation.**  A reply in time leaves the bridge idle; after a
late one, and after a stop, the bridge is abandoned. -/
lemma runOnce_scripted (h : e.Ready) (scripted : language.isScripted = true) :
    (e.runOnce language code timeoutMs).1 =
        (e.source.evaluation 0 code).result e.settings.maxOutputChars timeoutMs ∧
      e.Moves (e.runOnce language code timeoutMs).2 1 := by
  have idle := h.idle
  have next := e.source.next_eq code
  have noWait : max (e.bridge.getD .start).now (e.bridge.getD .start).idleAt =
      (e.bridge.getD .start).now := Nat.max_eq_left idle.done
  have moves : ∀ bridge : Option Bridge, (∀ b ∈ bridge, b.Idle) →
      e.Moves { e with bridge, source := e.source.skip 1 } 1 := fun _ kept => ⟨rfl, rfl, kept⟩
  generalize e.source.evaluation 0 code = evaluation at next ⊢
  rcases evaluation with ⟨delayMs, _ | reply⟩
  · -- the script engine stops, in time or not
    obtain ⟨b, ran, -⟩ := Bridge.run_of_stop timeoutMs idle.isOpen next
    rw [noWait] at ran
    rw [runOnce_of_error scripted ran (abandons_stopError _ _ _)]
    refine ⟨?_, moves none (by simp)⟩
    simp only [Evaluation.result, Bridge.stopError, Nat.add_le_add_iff_left]
    by_cases late : timeoutMs < delayMs
    · rw [if_pos late, if_neg (Nat.not_le_of_lt late)]
    · rw [if_neg late, if_pos (Nat.le_of_not_lt late)]
  · by_cases late : timeoutMs < delayMs
    · obtain ⟨b, ran, -⟩ := Bridge.run_of_late timeoutMs idle.isOpen next (by omega)
      rw [runOnce_of_error scripted ran rfl]
      exact ⟨by rw [Evaluation.result, if_pos late], moves none (by simp)⟩
    · obtain ⟨b, ran, kept, -⟩ := Bridge.run_of_reply timeoutMs idle.isOpen next (by omega)
      rw [runOnce_of_reply scripted ran]
      exact ⟨by rw [Evaluation.result, if_neg late], moves (some b) (by simpa using kept)⟩

variable (language code timeoutMs) in
/-- **A run takes the next evaluation if it is a script**, and none otherwise. -/
theorem runOnce_of_ready (h : e.Ready) :
    (e.runOnce language code timeoutMs).1 = e.source.result e.settings language timeoutMs 0 code ∧
      e.Moves (e.runOnce language code timeoutMs).2 (scriptsPerRun language) := by
  unfold ScriptSource.result scriptsPerRun
  cases scripted : language.isScripted with
  | true => exact runOnce_scripted h scripted
  | false =>
      rw [runOnce, scripted]
      exact ⟨rfl, .refl h⟩

end Run

/-! ## One request -/

/-- **The tests of a request take one evaluation each**, in turn. -/
theorem runTests_of_ready {e : Engine} (h : e.Ready) (language : Language) (code : Text)
    (timeoutMs number : Nat) (tests : List TestCase) :
    (e.runTests language code timeoutMs number tests).1 =
        (tests.mapIdx fun i test => testReport (number + i) test
          (e.source.result e.settings language timeoutMs i (inject language test.input code)).1) ∧
      e.Moves (e.runTests language code timeoutMs number tests).2
        (scriptsPerRun language * tests.length) := by
  induction tests generalizing e number with
  | nil => exact ⟨rfl, .refl h⟩
  | cons test rest ih =>
      obtain ⟨here, first⟩ :=
        runOnce_of_ready language (inject language test.input code) timeoutMs h
      obtain ⟨later, moves⟩ := ih first.ready (number + 1)
      have shift : ∀ i, number + 1 + i = number + (i + 1) := fun i => Nat.add_right_comm number 1 i
      simp only [first.settings, first.source, ScriptSource.result_skip,
        ScriptSource.result_behind_run, shift] at later
      constructor
      · simp only [runTests, here, later, List.mapIdx_cons, Nat.add_zero]
      · rw [List.length_cons, Nat.mul_succ, Nat.add_comm]
        exact first.trans moves

/-- **A request gets the evaluations that come next.** -/
theorem run_of_ready {e : Engine} (h : e.Ready) (request : Request) :
    (e.run request).1 = request.report (e.source.result e.settings
        (Language.ofTag request.language) (request.timeoutMs.getD e.settings.timeoutMs)) ∧
      e.Moves (e.run request).2 request.scripts := by
  unfold run Request.report Request.scripts Request.codes
  dsimp only
  cases request.tests.getD [] with
  | nil =>
      obtain ⟨here, moves⟩ := runOnce_of_ready (Language.ofTag request.language) request.code
        (request.timeoutMs.getD e.settings.timeoutMs) h
      constructor
      · simp only [execute, here]
      · show e.Moves _ (_ * 1)
        rw [Nat.mul_one]
        exact moves
  | cons test rest =>
      obtain ⟨reports, moves⟩ := runTests_of_ready h (Language.ofTag request.language) request.code
        (request.timeoutMs.getD e.settings.timeoutMs) 1 (test :: rest)
      constructor
      · simp only [executeTests, reports, Nat.add_comm 1]
      · rw [List.length_map]
        exact moves

/-! ## One job after another -/

/-- The engine after a job. -/
def take (e : Engine) : Job → Engine
  | .run request => (e.run request).2
  | .configure settings => { e with settings }

/-- The engine after some jobs. -/
def after (e : Engine) (jobs : List Job) : Engine := jobs.foldl take e

end Engine

/-- The settings in force after some jobs. -/
def settingsAfter (settings : Settings) : List Job → Settings
  | [] => settings
  | .run _ :: rest => settingsAfter settings rest
  | .configure settings' :: rest => settingsAfter settings' rest

/-- How many scripts some jobs are. -/
def scriptCount : List Job → Nat
  | [] => 0
  | .run request :: rest => request.scripts + scriptCount rest
  | .configure _ :: rest => scriptCount rest

/-- **The engine after some jobs** is ready, has the settings set last, and has taken an evaluation
for each script. -/
theorem Engine.after_of_ready {e : Engine} (h : e.Ready) (jobs : List Job) :
    (e.after jobs).settings = settingsAfter e.settings jobs ∧
      (e.after jobs).source = e.source.skip (scriptCount jobs) ∧ (e.after jobs).Ready := by
  induction jobs generalizing e with
  | nil => exact ⟨rfl, e.source.skip_zero.symm, h⟩
  | cons job rest ih =>
      cases job with
      | run request =>
          have moves := (run_of_ready h request).2
          obtain ⟨settings, source, ready⟩ := ih moves.ready
          rw [moves.settings] at settings
          rw [moves.source, ScriptSource.skip_skip] at source
          exact ⟨settings, source, ready⟩
      | configure settings => exact ih (e := { e with settings }) h

/-- The next request after some jobs. -/
theorem Engine.run_after {e : Engine} (h : e.Ready) (jobs : List Job) (request : Request) :
    let settings := settingsAfter e.settings jobs
    ((e.after jobs).run request).1 = request.report fun i =>
      e.source.result settings (Language.ofTag request.language)
        (request.timeoutMs.getD settings.timeoutMs) (scriptCount jobs + i) := by
  obtain ⟨settings, source, ready⟩ := after_of_ready h jobs
  rw [(run_of_ready ready request).1, settings, source]
  exact request.report_congr fun i _ code => ScriptSource.result_skip ..

/-! ## Prepared evaluations -/

/-- **No failure of a script is felt by a later one.**  Whatever an engine with prepared evaluations
has run before, and however its settings were changed, run `i` of its next request, counted from
zero, is given the evaluation that comes behind one for each script so far, and settings that are in
force now: the reply's output or failure if it arrives in time, the end of the run's own time if it
does not, word of a stop, and the script itself when the evaluations are used up.  A run in place
takes none. -/
theorem report_of_prepared (settings : Settings) (queue : List Evaluation) (jobs : List Job)
    (request : Request) :
    let e := ((Engine.new settings).withSource (.prepared queue)).after jobs
    let current := settingsAfter settings jobs
    let language := Language.ofTag request.language
    let timeoutMs := request.timeoutMs.getD current.timeoutMs
    (e.run request).1 = request.report fun i code =>
      if language.isScripted then
        (queue[scriptCount jobs + i]?.getD ⟨0, some (.ok code)⟩).result current.maxOutputChars
          timeoutMs
      else Engine.runInPlace current language code timeoutMs := by
  have ready : ((Engine.new settings).withSource (.prepared queue)).Ready := fun _ there => by
    cases there
  exact Engine.run_after ready jobs request

end SnippetLab.Batch

import SnippetLab.Proofs.Batch.Memory
import SnippetLab.Proofs.Batch.Threads

/-!
# Orders performed in time

An engine that interprets its scripts is given some orders, and no script takes longer than its run
may.  Then **what a run reports depends on nothing that was run before it**: only the settings in
force count, and those the engine was made with.

* `InTime` — no script among some jobs is late.
* `timely` — what the callbacks are handed, computed without an engine.
* `handed_of_inTime` — an engine hands them just that.
-/

namespace SnippetLab.Batch

variable {κ : Type}

/-- **No script is late**, if the scripts of some jobs take one delay after another. -/
def InTime (settings : Settings) (delays : List Nat) (jobs : List Job) : Prop :=
  ∀ (before : List Job) (request : Request) (after : List Job),
    jobs = before ++ .run request :: after →
      ∀ delayMs ∈ (delays.drop (scriptCount before)).take request.scripts,
        delayMs ≤ request.timeoutMs.getD (settingsAfter settings before).timeoutMs

/-- Scripts that take no time are not late. -/
lemma inTime_nil (settings : Settings) (jobs : List Job) : InTime settings [] jobs := by
  intro before request after _ delayMs found
  simp at found

/-- What comes first is in time if all is. -/
lemma InTime.of_append {settings : Settings} {delays : List Nat} {jobs later : List Job}
    (h : InTime settings delays (jobs ++ later)) : InTime settings delays jobs := by
  rintro before request after rfl
  exact h before request (after ++ later) (by simp)

/-- The report on a request that is in time, under settings in force; scripts are interpreted under
those the engine was made with. -/
def Request.timely (made settings : Settings) (request : Request) : Report :=
  request.report fun _ => resultInTime made settings (Language.ofTag request.language)
    (request.timeoutMs.getD settings.timeoutMs)

/-- **What callbacks are handed if no script is late.** -/
def timely (made settings : Settings) : List (Order κ) → List (κ × Report)
  | [] => []
  | .run request callback :: rest =>
    (callback, request.timely made settings) :: timely made settings rest
  | .configure settings' :: rest => timely made settings' rest

lemma settingsAfter_append (settings : Settings) (jobs later : List Job) :
    settingsAfter settings (jobs ++ later) = settingsAfter (settingsAfter settings jobs) later := by
  induction jobs generalizing settings with
  | nil => rfl
  | cons job rest ih =>
      cases job with
      | run request => exact ih settings
      | configure settings' => exact ih settings'

lemma timely_append (made settings : Settings) (orders later : List (Order κ)) :
    timely made settings (orders ++ later) = timely made settings orders ++
      timely made (settingsAfter settings (orders.map Order.job)) later := by
  induction orders generalizing settings with
  | nil => rfl
  | cons order rest ih =>
      cases order with
      | run request callback => exact congrArg (_ :: ·) (ih settings)
      | configure settings' => exact ih settings'

/-- **An engine hands over what is handed in time**, behind some jobs. -/
theorem handed_of_inTime {e : Engine} {made : Settings} {delays : List Nat} (ready : e.Ready)
    (interpreted : e.source = .interpreter made delays) (before : List Job)
    (orders : List (Order κ))
    (inTime : InTime e.settings delays (before ++ orders.map Order.job)) :
    handed (e.after before) orders =
      timely made (settingsAfter e.settings before) orders := by
  induction orders generalizing before with
  | nil => rfl
  | cons order rest ih =>
      have here : (e.after before).take order.job = e.after (before ++ [order.job]) := by
        unfold Engine.after
        rw [List.foldl_append]
        rfl
      rw [List.map_cons, List.append_cons] at inTime
      rw [handed, here, ih (before ++ [order.job]) inTime, settingsAfter_append]
      cases order with
      | configure settings => rfl
      | run request callback =>
          have report : ((e.after before).run request).1 = request.timely made _ :=
            report_of_inTime ready interpreted before request
              (inTime before request (rest.map Order.job) (by simp [Order.job]))
          rw [Order.handed, report]
          rfl

end SnippetLab.Batch

import SnippetLab.Proofs.Host.Service

/-!
# What can be heard of a host

The front of a host says one thing after another, and its worker reports on one run after another;
what goes out is woven of the two.  A report cannot go out before its request is served, and nothing
else keeps the two threads in step.  **So what can be heard of a host can be told without its
threads**, and without an engine if no script is late.

* `Front.Heard` — what can be heard of a front with some requests before it.
* `Service.Step.heard`, `Service.exists_run_of_heard` — a step back, and a run forth.
* `Service.canSend_iff` — **what hosts send is what can be heard, and all of it.**
-/

namespace SnippetLab.Host

open Batch (Order Threads)

variable {τ : Type}

/-- **What can be heard** of a front that has requests to serve and something to say, while some
reports are due. -/
inductive Front.Heard (made : Settings) :
    Front → List (Request × τ) → List (Said τ) → List (Said τ) → List (Said τ) → Prop where
  | silence {f : Front} : Heard made f [] [] [] []
  | spoken {f : Front} {requests : List (Request × τ)} {m : Said τ}
      {unsaid due messages : List (Said τ)} (rest : Heard made f requests unsaid due messages) :
      Heard made f requests (m :: unsaid) due (m :: messages)
  | report {f : Front} {requests : List (Request × τ)} {m : Said τ}
      {unsaid due messages : List (Said τ)} (rest : Heard made f requests unsaid due messages) :
      Heard made f requests unsaid (m :: due) (m :: messages)
  | serve {f : Front} {r : Request} {mark : τ} {requests : List (Request × τ)}
      {due messages : List (Said τ)}
      (rest : Heard made (f.after (r.outcome f)) requests (f.saysTo r mark)
        (due ++ f.reportsTo made r mark) messages) :
      Heard made f ((r, mark) :: requests) [] due messages

section

variable {made : Settings} {f : Front} {requests : List (Request × τ)}
  {unsaid due messages : List (Said τ)}

/-- All that is to be said can be said at once. -/
lemma Front.Heard.allSpoken (said : List (Said τ))
    (rest : f.Heard made requests unsaid due messages) :
    f.Heard made requests (said ++ unsaid) due (said ++ messages) := by
  induction said with
  | nil => exact rest
  | cons m said ih => exact .spoken ih

/-- All that is due can be reported at once. -/
lemma Front.Heard.allReported (reports : List (Said τ))
    (rest : f.Heard made requests unsaid due messages) :
    f.Heard made requests unsaid (reports ++ due) (reports ++ messages) := by
  induction reports with
  | nil => exact rest
  | cons m reports ih => exact .report ih

end

namespace Service

/-! ## Reports that are due -/

/-- **The next request is reported on in time.** -/
def Prompt (made : Settings) (s : Service τ) : Prop :=
  ∀ r mark rest, s.pending = (r, mark) :: rest →
    Batch.handed s.worker.settled (s.front.ordersFor r mark) =
      Batch.timely made s.front.settings (s.front.ordersFor r mark)

variable {made settings : Settings} {delays : List Nat} {requests : List (Request × τ)}
  {s t : Service τ}

/-- A host whose scripts are in time is prompt all the way. -/
lemma Run.prompt (run : (fresh settings delays requests).Run s)
    (inTime : RunsInTime settings delays requests) : s.Prompt settings := by
  intro r mark rest next
  obtain ⟨actions, worked, given, set⟩ := run.serves.given
  obtain ⟨accounts, -⟩ := worked.accounts
  have ready : ((Batch.Engine.new settings).withSource (.interpreter settings delays)).Ready :=
    fun _ there => by cases there
  have split : (Front.orders ⟨settings, .new settings⟩ requests).map Order.job =
      ((Batch.accepted actions).map Order.job ++ (s.front.ordersFor r mark).map Order.job) ++
        ((s.front.after (r.outcome s.front)).orders rest).map Order.job := by
    rw [← given, next, Front.orders, List.map_append, List.map_append, List.append_assoc]
  rw [RunsInTime, split] at inTime
  rw [accounts.settled, set]
  exact Batch.handed_of_inTime ready rfl _ _ inTime.of_append

lemma due_serve {r : Request} {mark : τ} {rest : List (Request × τ)} (prompt : s.Prompt made)
    (next : s.pending = (r, mark) :: rest) :
    (s.serve r mark rest).due = s.due ++ s.front.reportsTo made r mark := by
  have waits : (s.serve r mark rest).worker.waiting =
      s.worker.waiting ++ s.front.ordersFor r mark := (List.append_assoc _ _ _).symm
  rw [due, waits, Front.reportsTo, ← prompt r mark rest next]
  show List.map _ (Batch.handed s.worker.engine _) = _
  rw [Batch.handed_append, List.map_append]
  rfl

/-- A worker that receives an order has the same to do. -/
lemma due_receive {w : Threads (Nat × τ)} (received : s.worker.Step .receive w) :
    ({ s with worker := w } : Service τ).due = s.due := by
  cases received with
  | receive idle first =>
      rw [due, due, Threads.waiting_of_idle idle, first]
      rfl

/-! ## Nothing else is sent -/

/-- **What can be heard behind a step can be heard before it.** -/
lemma Step.heard {later : List (Said τ)} (step : s.Step t) (prompt : s.Prompt made)
    (h : t.front.Heard made t.pending t.unsent t.due later) :
    ∃ messages, s.front.Heard made s.pending s.unsent s.due messages ∧
      s.sent ++ messages = t.sent ++ later := by
  cases step with
  | @serve r mark rest free next here =>
      rw [due_serve prompt next] at h
      rw [free, next]
      exact ⟨later, .serve h, rfl⟩
  | @send m rest next =>
      rw [next]
      exact ⟨m :: later, .spoken h, by simp⟩
  | receive received =>
      rw [due_receive received] at h
      exact ⟨later, h, rfl⟩
  | @finish order busy =>
      rw [due_finish busy]
      exact ⟨_, h.allReported _, (List.append_assoc _ _ _).symm⟩
  | leave free none here => exact ⟨later, h, rfl⟩
  | left returned =>
      cases returned
      exact ⟨later, h, rfl⟩

/-- What can be heard behind a run can be heard from the start. -/
lemma Run.heard {later : List (Said τ)}
    (run : (fresh settings delays requests).Run s) (inTime : RunsInTime settings delays requests)
    (h : s.front.Heard settings s.pending s.unsent s.due later) :
    Front.Heard settings ⟨settings, .new settings⟩ requests [] [] (s.sent ++ later) := by
  induction run generalizing later with
  | nothing => exact h
  | andThen run step ih =>
      obtain ⟨messages, before, same⟩ := step.heard (run.prompt inTime) h
      rw [← same]
      exact ih before

/-- **A host sends what can be heard.** -/
theorem CanSend.heard {messages : List (Said τ)} (sends : CanSend settings delays requests messages)
    (inTime : RunsInTime settings delays requests) :
    Front.Heard settings ⟨settings, .new settings⟩ requests [] [] messages := by
  obtain ⟨s, run, gone, rfl⟩ := sends
  obtain ⟨free, served⟩ := run.serves.ended (by simp [gone])
  obtain ⟨actions, worked, -⟩ := run.serves.given
  have none : s.due = [] := by
    rw [due, worked.accounts.1.drained gone]
    rfl
  rw [← List.append_nil s.sent]
  refine run.heard inTime ?_
  rw [free, served, none]
  exact .silence

/-! ## All of it is sent -/

/-- The worker can go on to the next report. -/
lemma exists_reported {m : Said τ} {rest : List (Said τ)} (next : s.due = m :: rest) :
    ∃ t, s.WorksOn t ∧ t.sent = s.sent ++ [m] ∧ t.due = rest := by
  induction waits : s.worker.waiting generalizing s with
  | nil =>
      rw [due, waits] at next
      cases next
  | cons order later ih =>
      obtain ⟨t, worked, left, due, sent⟩ := exists_performed waits
      rw [due] at next
      cases order with
      | run request callback =>
          obtain ⟨rfl, rfl⟩ := List.cons.inj next
          exact ⟨t, worked, sent, rfl⟩
      | configure settings =>
          obtain ⟨u, more, said, same⟩ := ih next left
          refine ⟨u, worked.trans more, ?_, same⟩
          rw [said, sent]
          exact congrArg (· ++ [m]) (List.append_nil _)

/-- **What can be heard of a host, a run of it sends.** -/
lemma exists_run_of_heard {f : Front} {ahead : List (Request × τ)}
    {unsaid reports messages : List (Said τ)} (h : f.Heard settings ahead unsaid reports messages)
    (inTime : RunsInTime settings delays requests) (run : (fresh settings delays requests).Run s)
    (here : s.worker.owner = .present) (front : s.front = f) (pending : s.pending = ahead)
    (unsent : s.unsent = unsaid) (due : s.due = reports) :
    ∃ t, s.Run t ∧ t.worker.owner = .gone ∧ t.sent = s.sent ++ messages := by
  induction h generalizing s with
  | silence =>
      obtain ⟨t, worked, empty, sent⟩ := s.exists_drained
      have left := (worked.run.andThen (.leave (worked.unsent.trans unsent)
        (worked.pending.trans pending) (worked.owner.trans here))).andThen
          (.left (.returned rfl empty))
      rw [due] at sent
      exact ⟨_, left, rfl, sent⟩
  | @spoken f ahead m unsaid reports messages rest ih =>
      have sent := Step.send unsent
      obtain ⟨t, more, gone, said⟩ := ih (run.andThen sent) here front pending rfl due
      exact ⟨t, sent.run.trans more, gone, said.trans (List.append_assoc _ _ _)⟩
  | @report f ahead m unsaid reports messages rest ih =>
      obtain ⟨t, worked, sent, left⟩ := exists_reported due
      obtain ⟨u, more, gone, said⟩ := ih (run.trans worked.run) (worked.owner.trans here)
        (worked.front.trans front) (worked.pending.trans pending) (worked.unsent.trans unsent) left
      refine ⟨u, worked.run.trans more, gone, ?_⟩
      rw [said, sent, List.append_assoc]
      rfl
  | @serve f r mark ahead reports messages rest ih =>
      have served := Step.serve unsent pending here
      subst front
      have next := due_serve (run.prompt inTime) pending
      rw [due] at next
      obtain ⟨t, more, gone, said⟩ := ih (run.andThen served) here rfl rfl rfl next
      exact ⟨t, served.run.trans more, gone, said⟩

/-- **What hosts send is what can be heard**, and all of it, if no script is late. -/
theorem canSend_iff (inTime : RunsInTime settings delays requests) {messages : List (Said τ)} :
    CanSend settings delays requests messages ↔
      Front.Heard settings ⟨settings, .new settings⟩ requests [] [] messages := by
  constructor
  · exact fun sends => sends.heard inTime
  · exact fun heard => exists_run_of_heard heard inTime .nothing rfl rfl rfl rfl rfl

end Service

end SnippetLab.Host

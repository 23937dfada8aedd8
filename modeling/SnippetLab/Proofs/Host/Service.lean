import SnippetLab.Proofs.Batch.Timely
import SnippetLab.Proofs.Host.Outcomes

/-!
# A host and its worker

A host serves requests on a thread of its own, and runs are reported from the thread of its worker,
whenever they are done; the messages of both go out one by one.  Every request carries a mark, which
is passed on to all that is said to it.

* `Service`, `Service.Step`, `Service.Run` — a host at work, a step of either thread, and any
  interleaving of steps.
* `Service.Serves` — **what every run keeps**: what the front has said, is saying and will say, and
  what the worker has been given and will be given.
* `Server.transcript` — what a server says that reports at once.
* `Service.exists_finished` — every host can come to its end.
* `Service.CanSend.alike` — **what a host can have sent by then is what such a server says, and each
  of its threads says it in the same order.**
-/

namespace SnippetLab.Host

open Batch (Order Threads)

variable {τ : Type}

/-- A message as it is said, with the mark of the request it is about. -/
abbrev Said (τ : Type) : Type := (Text × Content) × τ

/-- A report with the number and the mark of its request. -/
def reportOf (call : (Nat × τ) × Batch.Report) : Said τ := (reported call.1.1 call.2, call.1.2)

/-- A host at work, between two steps of either thread. -/
structure Service (τ : Type) where
  front : Front
  worker : Threads (Nat × τ)
  /-- Requests that are still to be served, with their marks. -/
  pending : List (Request × τ)
  /-- What the front has still to say about the request that it is at. -/
  unsent : List (Said τ)
  /-- The messages sent so far. -/
  sent : List (Said τ)

/-- Reports are reports. -/
lemma filter_reportOf (calls : List ((Nat × τ) × Batch.Report)) :
    ((calls.map reportOf).filter fun m => !isReport m.1) = [] ∧
      ((calls.map reportOf).filter fun m => isReport m.1) = calls.map reportOf := by
  have reports : ∀ m ∈ calls.map reportOf, isReport m.1 = true := by
    intro m there
    obtain ⟨call, -, rfl⟩ := List.mem_map.1 there
    exact isReport_reported call.1.1 call.2
  constructor
  · exact List.filter_eq_nil_iff.2 fun m there => by
      rw [reports m there]
      exact Bool.false_ne_true
  · exact List.filter_eq_self.2 reports

namespace Front

/-- What the front says to a request, with the request's mark. -/
def saysTo (f : Front) (r : Request) (mark : τ) : List (Said τ) :=
  (f.speech r (r.outcome f)).map (·, mark)

/-- What the worker is given for a request. -/
def ordersFor (f : Front) (r : Request) (mark : τ) : List (Order (Nat × τ)) :=
  (r.outcome f).orders (r.seq, mark)

/-- **What the front says to some requests**, one after another. -/
def spoken (f : Front) : List (Request × τ) → List (Said τ)
  | [] => []
  | (r, mark) :: rest => f.saysTo r mark ++ (f.after (r.outcome f)).spoken rest

/-- **What the worker is given for some requests**, one after another. -/
def orders (f : Front) : List (Request × τ) → List (Order (Nat × τ))
  | [] => []
  | (r, mark) :: rest => f.ordersFor r mark ++ (f.after (r.outcome f)).orders rest

/-- The engine is given the settings that the front has. -/
lemma settings_after (f : Front) (r : Request) (mark : τ) :
    (f.after (r.outcome f)).settings =
      Batch.settingsAfter f.settings ((f.ordersFor r mark).map Order.job) := by
  unfold ordersFor
  cases r.outcome f with
  | _ => rfl

/-- The front says no reports. -/
lemma isReport_saysTo {f : Front} {r : Request} {mark : τ} {m : Said τ}
    (said : m ∈ f.saysTo r mark) : isReport m.1 = false := by
  obtain ⟨content, there, rfl⟩ := List.mem_map.1 said
  exact isReport_speech there

lemma filter_saysTo (f : Front) (r : Request) (mark : τ) :
    ((f.saysTo r mark).filter fun m => !isReport m.1) = f.saysTo r mark ∧
      ((f.saysTo r mark).filter fun m => isReport m.1) = [] := by
  constructor
  · exact List.filter_eq_self.2 fun m said => by rw [isReport_saysTo said]; rfl
  · exact List.filter_eq_nil_iff.2 fun m said => by
      rw [isReport_saysTo said]
      exact Bool.false_ne_true

end Front

namespace Service

/-! ## Steps -/

/-- A host that has just been started, before it serves some requests. -/
def start (settings : Settings) (engine : Batch.Engine) (requests : List (Request × τ)) :
    Service τ :=
  ⟨⟨settings, .new settings⟩, .start engine, requests, [], []⟩

/-- The front takes up a request. -/
def serve (s : Service τ) (r : Request) (mark : τ) (rest : List (Request × τ)) : Service τ :=
  { s with
    front := s.front.after (r.outcome s.front)
    worker := { s.worker with queue := s.worker.queue ++ s.front.ordersFor r mark }
    pending := rest
    unsent := s.front.saysTo r mark }

/-- The worker has performed an order, and reports if it was a run. -/
def finish (s : Service τ) (order : Order (Nat × τ)) : Service τ :=
  { s with
    worker := s.worker.perform order
    sent := s.sent ++ (order.handed s.worker.engine).map reportOf }

/-- **A step of the front or of the worker.**  The front takes up a request when it has said all
about the one before, and when there are none it waits for the worker to end. -/
inductive Step : Service τ → Service τ → Prop where
  | serve {s : Service τ} {r : Request} {mark : τ} {rest : List (Request × τ)}
      (free : s.unsent = []) (next : s.pending = (r, mark) :: rest)
      (here : s.worker.owner = .present) : Step s (s.serve r mark rest)
  | send {s : Service τ} {m : Said τ} {rest : List (Said τ)} (next : s.unsent = m :: rest) :
      Step s { s with unsent := rest, sent := s.sent ++ [m] }
  | receive {s : Service τ} {w : Threads (Nat × τ)} (received : s.worker.Step .receive w) :
      Step s { s with worker := w }
  | finish {s : Service τ} {order : Order (Nat × τ)} (busy : s.worker.current = some order) :
      Step s (s.finish order)
  | leave {s : Service τ} (free : s.unsent = []) (none : s.pending = [])
      (here : s.worker.owner = .present) : Step s { s with worker.owner := .leaving }
  | left {s : Service τ} {w : Threads (Nat × τ)} (returned : s.worker.Step .returned w) :
      Step s { s with worker := w }

/-- **Any interleaving of steps.** -/
inductive Run (s : Service τ) : Service τ → Prop where
  | nothing : Run s s
  | andThen {t u : Service τ} (run : Run s t) (step : t.Step u) : Run s u

/-! ## What every run keeps -/

/-- **What holds while a host serves some requests** that it was started with, at a front and an
engine. -/
structure Serves (f : Front) (engine : Batch.Engine) (requests : List (Request × τ))
    (s : Service τ) : Prop where
  /-- What the front has said, is saying and will say. -/
  spoken : (s.sent.filter fun m => !isReport m.1) ++ (s.unsent ++ s.front.spoken s.pending) =
    f.spoken requests
  /-- What the worker has been given and will be given. -/
  given : ∃ actions, (Threads.start engine).Run actions s.worker ∧
    Batch.accepted actions ++ s.front.orders s.pending = f.orders requests ∧
      s.front.settings =
        Batch.settingsAfter f.settings ((Batch.accepted actions).map Order.job)
  agrees : s.front.Agrees
  reports : (s.sent.filter fun m => isReport m.1) = s.worker.called.map reportOf
  plain : ∀ m ∈ s.unsent, isReport m.1 = false
  ended : s.worker.owner ≠ .present → s.unsent = [] ∧ s.pending = []

/-- Orders are accepted one after another while the owner is present. -/
lemma run_accepted {κ : Type} {w : Threads κ} (here : w.owner = .present) (orders : List (Order κ)) :
    ∃ actions, w.Run actions { w with queue := w.queue ++ orders } ∧
      Batch.accepted actions = orders := by
  induction orders generalizing w with
  | nil =>
      refine ⟨[], ?_, rfl⟩
      rw [List.append_nil]
      exact .nothing
  | cons order rest ih =>
      obtain ⟨actions, run, taken⟩ := ih (w := w.push order) here
      refine ⟨[.send order (.ok ())] ++ actions, ?_, ?_⟩
      · have sent := (Threads.Step.accepted order here).run.append run
        rwa [Threads.push, List.append_assoc] at sent
      · rw [Threads.accepted_append, taken]
        rfl

section

variable {f : Front} {engine : Batch.Engine} {requests : List (Request × τ)} {s t : Service τ}

lemma serves_start (settings : Settings) (engine : Batch.Engine) (requests : List (Request × τ)) :
    (start settings engine requests).Serves ⟨settings, .new settings⟩ engine requests where
  spoken := rfl
  given := ⟨[], .nothing, rfl, rfl⟩
  agrees := rfl
  reports := rfl
  plain := nofun
  ended := fun gone => absurd rfl gone

/-- A step of the worker's own, or of its owner, that gives it nothing and says nothing. -/
lemma Serves.works (h : s.Serves f engine requests) {w : Threads (Nat × τ)}
    {action : Batch.Action (Nat × τ)} (step : s.worker.Step action w)
    (nothing : Batch.accepted [action] = []) (called : w.called = s.worker.called)
    (ended : w.owner ≠ .present → s.unsent = [] ∧ s.pending = []) :
    ({ s with worker := w } : Service τ).Serves f engine requests where
  spoken := h.spoken
  given := by
    obtain ⟨actions, run, given⟩ := h.given
    refine ⟨actions ++ [action], run.andThen step, ?_⟩
    rw [Threads.accepted_append, nothing, List.append_nil]
    exact given
  agrees := h.agrees
  reports := called ▸ h.reports
  plain := h.plain
  ended := ended

/-- The front begins to say what it says to a request, and gives the worker its orders. -/
lemma Serves.serve (h : s.Serves f engine requests) {r : Request} {mark : τ}
    {rest : List (Request × τ)} (free : s.unsent = []) (next : s.pending = (r, mark) :: rest)
    (here : s.worker.owner = .present) : (s.serve r mark rest).Serves f engine requests where
  spoken := by
    rw [← h.spoken, free, next]
    rfl
  given := by
    obtain ⟨actions, run, given, set⟩ := h.given
    obtain ⟨more, sent, taken⟩ := run_accepted here (s.front.ordersFor r mark)
    refine ⟨actions ++ more, run.append sent, ?_, ?_⟩
    · rw [Threads.accepted_append, taken, ← given, next, List.append_assoc]
      rfl
    · rw [Threads.accepted_append, taken, List.map_append, Batch.settingsAfter_append, ← set]
      exact s.front.settings_after r mark
  agrees := h.agrees.after r
  reports := h.reports
  plain := fun _ said => Front.isReport_saysTo said
  ended := fun gone => absurd here gone

/-- A message of the front goes out. -/
lemma Serves.send (h : s.Serves f engine requests) {m : Said τ} {rest : List (Said τ)}
    (next : s.unsent = m :: rest) :
    ({ s with unsent := rest, sent := s.sent ++ [m] } : Service τ).Serves f engine requests := by
  have plain : isReport m.1 = false := h.plain m (next ▸ List.mem_cons_self)
  refine ⟨?_, h.given, h.agrees, ?_, ?_, ?_⟩
  · rw [← h.spoken, next, List.filter_append, List.append_assoc]
    simp [plain]
  · rw [← h.reports, List.filter_append]
    simp [plain]
  · exact fun other later => h.plain other (next ▸ List.mem_cons_of_mem m later)
  · intro gone
    have none := (h.ended gone).1
    rw [next] at none
    cases none

/-- The worker has performed an order, and a report of it goes out if it was a run. -/
lemma Serves.finish (h : s.Serves f engine requests) {order : Order (Nat × τ)}
    (busy : s.worker.current = some order) : (s.finish order).Serves f engine requests := by
  obtain ⟨none, all⟩ := filter_reportOf (order.handed s.worker.engine)
  refine ⟨?_, ?_, h.agrees, ?_, h.plain, h.ended⟩
  · show (s.sent ++ _).filter _ ++ _ = _
    rw [List.filter_append, none, List.append_nil]
    exact h.spoken
  · obtain ⟨actions, run, given⟩ := h.given
    refine ⟨actions ++ [.finish], run.andThen (.finish busy), ?_⟩
    have same : Batch.accepted (actions ++ [.finish]) = Batch.accepted actions :=
      (Threads.accepted_append _ _).trans (List.append_nil _)
    rw [same]
    exact given
  · show (s.sent ++ _).filter _ = _
    rw [List.filter_append, all, h.reports]
    exact List.map_append.symm

/-- **Every step keeps it.** -/
theorem Serves.step (h : s.Serves f engine requests) (step : s.Step t) :
    t.Serves f engine requests := by
  cases step with
  | serve free next here => exact h.serve free next here
  | send next => exact h.send next
  | receive received =>
      refine h.works received rfl ?_ ?_
      · cases received
        rfl
      · cases received
        exact h.ended
  | finish busy => exact h.finish busy
  | leave free none here =>
      refine h.works (.shutdown (by simp [here])) rfl rfl fun _ => ⟨free, none⟩
  | left returned =>
      refine h.works returned rfl ?_ ?_
      · cases returned
        rfl
      · intro gone
        refine h.ended ?_
        cases returned with
        | returned leaving done => simp [leaving]

/-- **Every run keeps it.** -/
theorem Run.serves {settings : Settings} (run : (start settings engine requests).Run s) :
    s.Serves ⟨settings, .new settings⟩ engine requests := by
  induction run with
  | nothing => exact serves_start settings engine requests
  | andThen _ step ih => exact ih.step step

/-- **What has been said in the end**: all that the front says, and a report of every run. -/
theorem Serves.of_gone (h : s.Serves f engine requests) (gone : s.worker.owner = .gone) :
    (s.sent.filter fun m => !isReport m.1) = f.spoken requests ∧
      (s.sent.filter fun m => isReport m.1) =
        (Batch.handed engine (f.orders requests)).map reportOf := by
  obtain ⟨free, served⟩ := h.ended (by simp [gone])
  constructor
  · have spoken := h.spoken
    rw [free, served] at spoken
    rw [← spoken]
    exact (List.append_nil _).symm
  · obtain ⟨actions, run, given, -⟩ := h.given
    obtain ⟨accounts, -⟩ := run.accounts
    have due := accounts.due
    rw [Threads.due, accounts.drained gone] at due
    have called : s.worker.called = Batch.handed engine (Batch.accepted actions) :=
      (List.append_nil _).symm.trans due
    rw [served] at given
    rw [h.reports, called, ← given]
    exact congrArg (fun orders => (Batch.handed engine orders).map reportOf)
      (List.append_nil _).symm

/-! ## The end -/

lemma Run.trans {u : Service τ} (run : s.Run t) (more : t.Run u) : s.Run u := by
  induction more with
  | nothing => exact run
  | andThen _ step ih => exact ih.andThen step

lemma Step.run (step : s.Step t) : s.Run t := Run.nothing.andThen step

/-- What the front has still to say can be said. -/
lemma exists_said (s : Service τ) : ∃ t, s.Run t ∧ t.unsent = [] ∧ t.pending = s.pending ∧
    t.worker = s.worker := by
  induction said : s.unsent generalizing s with
  | nil => exact ⟨s, .nothing, said, rfl, rfl⟩
  | cons m rest ih =>
      obtain ⟨t, run, free, same, still⟩ := ih { s with unsent := rest, sent := s.sent ++ [m] } rfl
      exact ⟨t, (Step.send said).run.trans run, free, same, still⟩

/-- All requests can be served. -/
lemma exists_served (s : Service τ) (here : s.worker.owner = .present) : ∃ t, s.Run t ∧
    t.unsent = [] ∧ t.pending = [] ∧ t.worker.owner = .present := by
  induction waiting : s.pending generalizing s with
  | nil =>
      obtain ⟨t, run, free, same, still⟩ := s.exists_said
      exact ⟨t, run, free, same.trans waiting, still ▸ here⟩
  | cons request rest ih =>
      obtain ⟨t, run, free, same, still⟩ := s.exists_said
      have present : t.worker.owner = .present := still ▸ here
      have taken := Step.serve free (same.trans waiting) present
      obtain ⟨u, more, ended⟩ := ih (t.serve request.1 request.2 rest) present rfl
      exact ⟨u, (run.andThen taken).trans more, ended⟩

/-- **The worker has gone on, and the front has not.** -/
structure WorksOn (s t : Service τ) : Prop where
  run : s.Run t
  front : t.front = s.front
  pending : t.pending = s.pending
  unsent : t.unsent = s.unsent
  owner : t.worker.owner = s.worker.owner

lemma WorksOn.trans {u : Service τ} (first : s.WorksOn t) (more : t.WorksOn u) : s.WorksOn u where
  run := first.run.trans more.run
  front := more.front.trans first.front
  pending := more.pending.trans first.pending
  unsent := more.unsent.trans first.unsent
  owner := more.owner.trans first.owner

/-- The reports of what the worker has still to do. -/
def due (s : Service τ) : List (Said τ) :=
  (Batch.handed s.worker.engine s.worker.waiting).map reportOf

/-- A report that goes out is no longer due. -/
lemma due_finish {order : Order (Nat × τ)} (busy : s.worker.current = some order) :
    s.due = (order.handed s.worker.engine).map reportOf ++ (s.finish order).due := by
  rw [due, Threads.waiting_of_busy busy, Batch.handed, List.map_append]
  rfl

/-- The worker can perform its next order. -/
lemma exists_performed {order : Order (Nat × τ)} {rest : List (Order (Nat × τ))}
    (first : s.worker.waiting = order :: rest) :
    ∃ t, s.WorksOn t ∧ t.worker.waiting = rest ∧
      s.due = (order.handed s.worker.engine).map reportOf ++ t.due ∧
      t.sent = s.sent ++ (order.handed s.worker.engine).map reportOf := by
  cases busy : s.worker.current with
  | some current =>
      obtain ⟨rfl, queue⟩ := List.cons.inj ((Threads.waiting_of_busy busy).symm.trans first)
      exact ⟨s.finish current, ⟨(Step.finish busy).run, rfl, rfl, rfl, rfl⟩, queue,
        due_finish busy, rfl⟩
  | none =>
      have waits := (Threads.waiting_of_idle busy).symm.trans first
      let t : Service τ :=
        { s with worker := { s.worker with current := some order, queue := rest } }
      have received : s.Step t := .receive (.receive busy waits)
      have finished : t.Step (t.finish order) := .finish rfl
      have same : s.due = t.due := by
        rw [due, first]
        rfl
      exact ⟨t.finish order, ⟨received.run.andThen finished, rfl, rfl, rfl, rfl⟩, rfl,
        same.trans (due_finish rfl), rfl⟩

/-- **The worker can do all it has to do.** -/
lemma exists_drained (s : Service τ) :
    ∃ t, s.WorksOn t ∧ t.worker.waiting = [] ∧ t.sent = s.sent ++ s.due := by
  induction waits : s.worker.waiting generalizing s with
  | nil =>
      refine ⟨s, ⟨.nothing, rfl, rfl, rfl, rfl⟩, waits, ?_⟩
      rw [due, waits]
      exact (List.append_nil _).symm
  | cons order rest ih =>
      obtain ⟨t, worked, left, due, sent⟩ := exists_performed waits
      obtain ⟨u, more, empty, said⟩ := ih t left
      refine ⟨u, worked.trans more, empty, ?_⟩
      rw [said, sent, due, List.append_assoc]

/-- **A host can always come to its end**: it serves what is left, and its worker does its work. -/
theorem exists_finished (s : Service τ) : ∃ t, s.Run t ∧ t.worker.owner = .gone := by
  have leaves : ∀ t : Service τ, t.worker.owner = .leaving →
      ∃ u, t.Run u ∧ u.worker.owner = .gone := by
    intro t leaving
    obtain ⟨u, worked, empty, -⟩ := t.exists_drained
    exact ⟨_, worked.run.andThen (.left (.returned (worked.owner.trans leaving) empty)), rfl⟩
  cases owner : s.worker.owner with
  | gone => exact ⟨s, .nothing, owner⟩
  | leaving => exact leaves s owner
  | present =>
      obtain ⟨t, run, free, none, here⟩ := s.exists_served owner
      obtain ⟨u, more, gone⟩ := leaves { t with worker.owner := .leaving } rfl
      exact ⟨u, (run.andThen (.leave free none here)).trans more, gone⟩

end

end Service

/-! ## A server that reports at once -/

/-- **What a server says to some requests**, each message with the mark of its request. -/
def Server.transcript (s : Server) : List (Request × τ) → List (Said τ)
  | [] => []
  | (r, mark) :: rest =>
    (s.respond r).2.map (fun m => (m.said, mark)) ++ (s.respond r).1.transcript rest

/-- Without marks, this is what is sent. -/
lemma Server.map_fst_transcript (s : Server) (requests : List (Request × τ)) :
    (s.transcript requests).map Prod.fst =
      (s.sendAll (requests.map Prod.fst)).map Message.said := by
  induction requests generalizing s with
  | nil => rfl
  | cons request rest ih =>
      rw [transcript, List.map_append, ih, List.map_map, List.map_cons, sendAll, List.map_append]
      rfl

namespace Front

/-- What the worker reports on a request if no script is late. -/
def reportsTo (made : Settings) (f : Front) (r : Request) (mark : τ) : List (Said τ) :=
  (Batch.timely made f.settings (f.ordersFor r mark)).map reportOf

/-- What is said to a request if no script is late. -/
def tellsTo (made : Settings) (f : Front) (r : Request) (mark : τ) : List (Said τ) :=
  f.saysTo r mark ++ f.reportsTo made r mark

/-- **What is said to some requests if no script is late.**  There is no engine any more. -/
def transcript (made : Settings) (f : Front) : List (Request × τ) → List (Said τ)
  | [] => []
  | (r, mark) :: rest => f.tellsTo made r mark ++ (f.after (r.outcome f)).transcript made rest

/-- What is said consists of what the front says and the reports. -/
lemma filter_transcript (made : Settings) (f : Front) (requests : List (Request × τ)) :
    ((f.transcript made requests).filter fun m => !isReport m.1) = f.spoken requests ∧
      ((f.transcript made requests).filter fun m => isReport m.1) =
        (Batch.timely made f.settings (f.orders requests)).map reportOf := by
  induction requests generalizing f with
  | nil => exact ⟨rfl, rfl⟩
  | cons request rest ih =>
      obtain ⟨r, mark⟩ := request
      obtain ⟨spoken, reports⟩ := ih (f.after (r.outcome f))
      obtain ⟨none, all⟩ := filter_reportOf (Batch.timely made f.settings (f.ordersFor r mark))
      obtain ⟨stays, goes⟩ := f.filter_saysTo r mark
      rw [f.settings_after r mark] at reports
      constructor
      · rw [transcript, tellsTo, reportsTo, List.filter_append, List.filter_append, none, stays,
          spoken, List.append_nil]
        rfl
      · rw [transcript, tellsTo, reportsTo, List.filter_append, List.filter_append, all, goes,
          reports, List.nil_append, ← List.map_append, ← Batch.timely_append]
        rfl

end Front

namespace Server

/-- What is said to a request, with its mark. -/
lemma said_marked (s : Server) (r : Request) (mark : τ) :
    (s.respond r).2.map (fun m => (m.said, mark)) = s.front.saysTo r mark ++
      (Batch.handed s.engine (s.front.ordersFor r mark)).map reportOf := by
  have marked : (s.respond r).2.map (fun m => (m.said, mark)) =
      ((s.respond r).2.map Message.said).map (·, mark) := by
    rw [List.map_map]
    rfl
  rw [marked, said_respond, List.map_append, List.map_map]
  unfold Front.saysTo Front.ordersFor
  cases r.outcome s.front with
  | _ => rfl

/-- The engine after a request, whatever the mark is. -/
lemma engine_marked (s : Server) (r : Request) (mark : τ) :
    (s.respond r).1.engine = s.engine.afterOrders (s.front.ordersFor r mark) := by
  rw [engine_respond]
  unfold Front.ordersFor
  cases r.outcome s.front with
  | _ => rfl

/-- **The engine of a server has done some jobs** that set the settings now in force; it was made
with others. -/
def HasWorked (made : Settings) (s : Server) : Prop :=
  ∃ jobs : List Batch.Job, s.engine = (Batch.Engine.new made).after jobs ∧
    s.settings = Batch.settingsAfter made jobs

lemma hasWorked_start (settings : Settings) : HasWorked settings (start settings) :=
  ⟨[], rfl, rfl⟩

lemma HasWorked.respond {made : Settings} {s : Server} (h : HasWorked made s) (r : Request) :
    HasWorked made (s.respond r).1 := by
  obtain ⟨jobs, engine, settings⟩ := h
  refine ⟨jobs ++ (s.front.ordersFor r ()).map Order.job, ?_, ?_⟩
  · rw [s.engine_marked r (), engine, Batch.Engine.afterOrders, Batch.Engine.after,
      Batch.Engine.after, ← List.foldl_append]
    rfl
  · rw [Batch.settingsAfter_append, ← settings]
    have front := congrArg Front.settings (s.front_respond r)
    exact front.trans (s.front.settings_after r ())

/-- **A server says what is said if no script is late.** -/
lemma transcript_eq {made : Settings} {s : Server} (h : HasWorked made s)
    (requests : List (Request × τ)) : s.transcript requests = s.front.transcript made requests := by
  induction requests generalizing s with
  | nil => rfl
  | cons request rest ih =>
      obtain ⟨r, mark⟩ := request
      have handed : Batch.handed s.engine (s.front.ordersFor r mark) =
          Batch.timely made s.front.settings (s.front.ordersFor r mark) := by
        obtain ⟨jobs, engine, settings⟩ := h
        have ready : (Batch.Engine.new made).Ready := fun _ there => by cases there
        rw [engine, Batch.handed_of_inTime ready rfl jobs _ (Batch.inTime_nil _ _)]
        exact congrArg (Batch.timely made · _) settings.symm
      rw [transcript, said_marked, handed, ih (h.respond r), front_respond]
      rfl

/-- What a server says that has not been asked anything. -/
lemma transcript_start (settings : Settings) (requests : List (Request × τ)) :
    (start settings).transcript requests =
      Front.transcript settings ⟨settings, .new settings⟩ requests :=
  transcript_eq (hasWorked_start settings) requests

end Server

/-! ## The result -/

/-- **The same messages, and those of either thread in the same order.** -/
def Alike (messages messages' : List (Said τ)) : Prop :=
  (messages.filter fun m => !isReport m.1) = (messages'.filter fun m => !isReport m.1) ∧
    (messages.filter fun m => isReport m.1) = messages'.filter fun m => isReport m.1

/-- **No run among some requests is late**, if the scripts take one delay after another. -/
def RunsInTime (settings : Settings) (delays : List Nat) (requests : List (Request × τ)) : Prop :=
  Batch.InTime settings delays ((Front.orders ⟨settings, .new settings⟩ requests).map Order.job)

namespace Service

/-- A host just started whose scripts are interpreted, and take one delay after another. -/
def fresh (settings : Settings) (delays : List Nat) (requests : List (Request × τ)) : Service τ :=
  start settings ((Batch.Engine.new settings).withSource (.interpreter settings delays)) requests

/-- **What a host can have sent** when it has served some requests to the end. -/
def CanSend (settings : Settings) (delays : List Nat) (requests : List (Request × τ))
    (messages : List (Said τ)) : Prop :=
  ∃ s, (fresh settings delays requests).Run s ∧ s.worker.owner = .gone ∧ s.sent = messages

variable {settings : Settings} {delays : List Nat} {requests : List (Request × τ)}

/-- There is something it can have sent. -/
lemma exists_canSend (settings : Settings) (delays : List Nat) (requests : List (Request × τ)) :
    ∃ messages, CanSend settings delays requests messages := by
  obtain ⟨s, run, gone⟩ := (fresh settings delays requests).exists_finished
  exact ⟨s.sent, s, run, gone, rfl⟩

/-- **A host says what a server says that reports at once**, however the steps of its threads come
in turn, if no script is late. -/
theorem CanSend.alike {messages : List (Said τ)} (sends : CanSend settings delays requests messages)
    (inTime : RunsInTime settings delays requests) :
    Alike messages ((Server.start settings).transcript requests) := by
  obtain ⟨s, run, gone, rfl⟩ := sends
  obtain ⟨spoken, reports⟩ := run.serves.of_gone gone
  obtain ⟨spoken', reports'⟩ := Front.filter_transcript settings ⟨settings, .new settings⟩ requests
  have ready : ((Batch.Engine.new settings).withSource (.interpreter settings delays)).Ready :=
    fun _ there => by cases there
  have handed := Batch.handed_of_inTime ready rfl []
    (Front.orders ⟨settings, .new settings⟩ requests) inTime
  rw [Server.transcript_start]
  constructor
  · rw [spoken, spoken']
  · rw [reports, reports']
    exact congrArg (List.map reportOf) handed

end Service

end SnippetLab.Host

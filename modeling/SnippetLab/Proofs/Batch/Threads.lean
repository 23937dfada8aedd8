import SnippetLab.Proofs.Batch.Serving

/-!
# A worker beside its owner

A worker's thread works while its owner goes on calling, so the steps of the two come in any order.
The owner's calls send orders into a queue; the thread receives one, performs it, calls the callback
if it was a run, and receives the next.  A shutdown lets go of the sending end and returns when the
thread has come to the end of the queue.  Callbacks may be of any kind, and return.

* `Order` — what is sent: a job, and a callback if it is a run.
* `handed` — **the specification**: what the callbacks are handed when one engine performs some
  orders, one after another.
* `Threads.Step`, `Threads.Run` — a step of the owner or of the thread, and any interleaving of such
  steps.
* `Threads.Step.worker_eq` — these steps are those of the library's `Worker`.
* `Threads.due` — what has been handed over together with what the waiting orders will give: no step
  of the thread changes it.
* `callbacks_are_called_in_order` — every run that was accepted has its callback called once, in
  order, with what one engine reports; what comes after a shutdown is refused.
-/

namespace SnippetLab.Batch

variable {κ : Type}

/-! ## Orders -/

/-- What an owner sends to its worker: a request with the callback that its report is for, or other
settings. -/
inductive Order (κ : Type) where
  | run (request : Request) (callback : κ)
  | configure (settings : Settings)

namespace Order

/-- What there is to do. -/
def job : Order κ → Job
  | .run request _ => .run request
  | .configure settings => .configure settings

/-- The callback of a run. -/
def callback? : Order κ → Option κ
  | .run _ callback => some callback
  | .configure _ => none

/-- What an order's callback is handed when an engine performs the order. -/
def handed (e : Engine) : Order κ → List (κ × Report)
  | .run request callback => [(callback, (e.run request).1)]
  | .configure _ => []

end Order

/-- **What the callbacks are handed when one engine performs some orders**, one after another. -/
def handed (e : Engine) : List (Order κ) → List (κ × Report)
  | [] => []
  | order :: rest => order.handed e ++ handed (e.take order.job) rest

/-- The engine that has performed some orders. -/
def Engine.afterOrders (e : Engine) (orders : List (Order κ)) : Engine :=
  e.after (orders.map Order.job)

lemma Engine.afterOrders_cons (e : Engine) (order : Order κ) (rest : List (Order κ)) :
    e.afterOrders (order :: rest) = (e.take order.job).afterOrders rest := rfl

lemma Engine.afterOrders_append (e : Engine) (orders later : List (Order κ)) :
    e.afterOrders (orders ++ later) = (e.afterOrders orders).afterOrders later := by
  rw [afterOrders, List.map_append, after, List.foldl_append]
  rfl

lemma handed_append (e : Engine) (orders later : List (Order κ)) :
    handed e (orders ++ later) = handed e orders ++ handed (e.afterOrders orders) later := by
  induction orders generalizing e with
  | nil => rfl
  | cons order rest ih =>
      rw [List.cons_append, handed, handed, ih, List.append_assoc, Engine.afterOrders_cons]

/-- **Every run is handed back once, in order.** -/
lemma map_fst_handed (e : Engine) (orders : List (Order κ)) :
    (handed e orders).map Prod.fst = orders.filterMap Order.callback? := by
  induction orders generalizing e with
  | nil => rfl
  | cons order rest ih =>
      cases order with
      | run request callback => exact congrArg (callback :: ·) (ih _)
      | configure settings => exact ih _

/-- A worker that finishes a queue does what its engine does with the orders, one after another. -/
lemma Worker.shutdown_orders (e : Engine) (orders : List (Order κ)) (isOpen : Bool)
    (delivered : List Report) :
    (⟨e, orders.map Order.job, isOpen, delivered⟩ : Worker).shutdown =
      ⟨e.afterOrders orders, [], false, delivered ++ (handed e orders).map Prod.snd⟩ := by
  have performed : ∀ (e : Engine) (delivered : List Report),
      (orders.map Order.job).foldl Worker.perform ⟨e, [], false, delivered⟩ =
        ⟨e.afterOrders orders, [], false, delivered ++ (handed e orders).map Prod.snd⟩ := by
    induction orders with
    | nil =>
        intro e delivered
        simp [handed, Engine.afterOrders, Engine.after]
    | cons order rest ih =>
        intro e delivered
        rw [List.map_cons, List.foldl_cons, handed, Engine.afterOrders_cons, List.map_append,
          ← List.append_assoc]
        cases order with
        | run request callback => exact ih _ _
        | configure settings =>
            rw [Order.handed, List.map_nil, List.append_nil]
            exact ih _ _
  exact performed e delivered

/-! ## The two threads -/

/-- Where the owner of a worker stands. -/
inductive Owner where
  /-- It can send orders. -/
  | present
  /-- It has let go of the sending end, and waits for the thread to end. -/
  | leaving
  /-- The thread has ended. -/
  | gone
  deriving DecidableEq

/-- A worker and its owner, between two steps of either. -/
structure Threads (κ : Type) where
  engine : Engine
  /-- Orders sent and not yet received, oldest first. -/
  queue : List (Order κ)
  /-- The order that the thread is at. -/
  current : Option (Order κ)
  owner : Owner
  /-- The callbacks called so far, oldest first, with what they were handed. -/
  called : List (κ × Report)

/-- What happens: a call of the owner, the return of a shutdown, or a step of the thread. -/
inductive Action (κ : Type) where
  /-- The owner sends an order, and is told whether it has been accepted. -/
  | send (order : Order κ) (outcome : Except RunError Unit)
  /-- The owner calls for a shutdown. -/
  | shutdown
  /-- That call returns. -/
  | returned
  /-- The thread receives an order. -/
  | receive
  /-- The thread has performed its order and, if that was a run, called the callback. -/
  | finish

/-- Is an action a step of the thread? -/
def Action.isWork : Action κ → Bool
  | .receive | .finish => true
  | _ => false

/-- The orders accepted among some actions. -/
def accepted : List (Action κ) → List (Order κ)
  | [] => []
  | .send order (.ok ()) :: rest => order :: accepted rest
  | _ :: rest => accepted rest

namespace Threads

/-- A worker just started. -/
def start (engine : Engine) : Threads κ := ⟨engine, [], none, .present, []⟩

/-- The orders not yet performed, oldest first. -/
def waiting (s : Threads κ) : List (Order κ) := s.current.toList ++ s.queue

/-- An order sent is the last in the queue. -/
def push (s : Threads κ) (order : Order κ) : Threads κ := { s with queue := s.queue ++ [order] }

/-- The thread has performed an order. -/
def perform (s : Threads κ) (order : Order κ) : Threads κ :=
  { s with
    engine := s.engine.take order.job
    current := none
    called := s.called ++ order.handed s.engine }

/-- **A step of the owner or of the thread.**  An order is accepted as long as the owner holds the
sending end, and refused when it has let go of it; while a shutdown waits, the owner makes no other
call. -/
inductive Step : Threads κ → Action κ → Threads κ → Prop where
  | accepted {s : Threads κ} (order : Order κ) (here : s.owner = .present) :
      Step s (.send order (.ok ())) (s.push order)
  | refused {s : Threads κ} (order : Order κ) (gone : s.owner = .gone) :
      Step s (.send order (.error .workerGone)) s
  | shutdown {s : Threads κ} (free : s.owner ≠ .leaving) :
      Step s .shutdown { s with owner := .leaving }
  | returned {s : Threads κ} (leaving : s.owner = .leaving) (done : s.waiting = []) :
      Step s .returned { s with owner := .gone }
  | receive {s : Threads κ} {order : Order κ} {rest : List (Order κ)} (idle : s.current = none)
      (first : s.queue = order :: rest) :
      Step s .receive { s with current := some order, queue := rest }
  | finish {s : Threads κ} {order : Order κ} (busy : s.current = some order) :
      Step s .finish (s.perform order)

/-- **Any interleaving of steps**, with the actions that they are. -/
inductive Run (s : Threads κ) : List (Action κ) → Threads κ → Prop where
  | nothing : Run s [] s
  | andThen {actions : List (Action κ)} {action : Action κ} {t u : Threads κ}
      (run : Run s actions t) (step : t.Step action u) : Run s (actions ++ [action]) u

/-- The same worker with its queue worked off by calls, as the library has it: what waits is its
queue, and callbacks are forgotten. -/
def worker (s : Threads κ) : Worker :=
  ⟨s.engine, s.waiting.map Order.job, s.owner == .present, s.called.map Prod.snd⟩

/-! ## What a step changes -/

/-- **What callbacks have been handed and will be handed**, if nothing more is sent. -/
def due (s : Threads κ) : List (κ × Report) := s.called ++ handed s.engine s.waiting

/-- The engine when all orders sent so far have been performed. -/
def settled (s : Threads κ) : Engine := s.engine.afterOrders s.waiting

section

variable {s t : Threads κ} {action : Action κ}

@[simp] lemma owner_push (s : Threads κ) (order : Order κ) : (s.push order).owner = s.owner := rfl

@[simp] lemma owner_perform (s : Threads κ) (order : Order κ) :
    (s.perform order).owner = s.owner := rfl

lemma waiting_push (s : Threads κ) (order : Order κ) :
    (s.push order).waiting = s.waiting ++ [order] := (List.append_assoc _ _ _).symm

lemma due_push (s : Threads κ) (order : Order κ) :
    (s.push order).due = s.due ++ order.handed s.settled := by
  have single : handed s.settled [order] = order.handed s.settled := List.append_nil _
  rw [due, waiting_push, due, List.append_assoc, ← single]
  exact congrArg (s.called ++ ·) (handed_append s.engine s.waiting [order])

lemma settled_push (s : Threads κ) (order : Order κ) :
    (s.push order).settled = s.settled.take order.job := by
  rw [settled, waiting_push]
  exact Engine.afterOrders_append s.engine s.waiting [order]

lemma waiting_of_idle (idle : s.current = none) : s.waiting = s.queue := by
  rw [waiting, idle]
  rfl

lemma waiting_of_busy {order : Order κ} (busy : s.current = some order) :
    s.waiting = order :: s.queue := by
  rw [waiting, busy]
  rfl

lemma waiting_perform (s : Threads κ) (order : Order κ) : (s.perform order).waiting = s.queue := rfl

lemma due_perform {order : Order κ} (busy : s.current = some order) :
    (s.perform order).due = s.due := by
  rw [due, due, waiting_perform, waiting_of_busy busy, handed, ← List.append_assoc]
  rfl

lemma settled_perform {order : Order κ} (busy : s.current = some order) :
    (s.perform order).settled = s.settled := by
  rw [settled, settled, waiting_perform, waiting_of_busy busy, Engine.afterOrders_cons]
  rfl

/-- **Every step is a step of the library's worker**: a call is answered as the worker answers it,
and an order performed is a job worked off. -/
theorem Step.worker_eq (step : s.Step action t) :
    match action with
    | .send order outcome => s.worker.accept order.job = outcome.map fun _ => t.worker
    | .shutdown => t.worker = { s.worker with isOpen := false }
    | .returned | .receive => t.worker = s.worker
    | .finish => t.worker = s.worker.work := by
  cases step with
  | accepted order here => simp [worker, Worker.accept, here, push, waiting, Except.map]
  | refused order gone => simp [worker, Worker.accept, gone, Except.map]
  | shutdown free => rfl
  | returned leaving done => simp [worker, leaving, waiting]
  | receive idle first => simp [worker, waiting, idle, first]
  | finish busy =>
      rename_i order
      have ahead : s.worker = ⟨s.engine, order.job :: s.queue.map Order.job, s.owner == .present,
          s.called.map Prod.snd⟩ := by
        rw [worker, waiting_of_busy busy]
        rfl
      show (s.perform order).worker = s.worker.work
      rw [ahead, worker, waiting_perform, perform, List.map_append]
      cases order with
      | run request callback => rfl
      | configure settings => exact congrArg (Worker.mk _ _ _) (List.append_nil _)

end

/-! ## Runs -/

/-- What holds after some actions of a worker started with an engine. -/
structure Accounts (e : Engine) (actions : List (Action κ)) (s : Threads κ) : Prop where
  /-- Nothing that was accepted is lost, doubled or moved. -/
  due : s.due = handed e (accepted actions)
  settled : s.settled = e.afterOrders (accepted actions)
  drained : s.owner = .gone → s.waiting = []
  here : s.owner = .present ↔ Action.shutdown ∉ actions

/-- Are orders refused behind a shutdown, and no others? -/
def Answered (actions : List (Action κ)) : Prop :=
  ∀ (before : List (Action κ)) (order : Order κ) (outcome : Except RunError Unit)
    (after : List (Action κ)), actions = before ++ .send order outcome :: after →
      (Action.shutdown ∉ before → outcome = .ok ()) ∧
        (Action.shutdown ∈ before → outcome = .error .workerGone)

lemma accepted_append (actions later : List (Action κ)) :
    accepted (actions ++ later) = accepted actions ++ accepted later := by
  induction actions with
  | nil => rfl
  | cons action rest ih =>
      cases action with
      | send order outcome =>
          cases outcome with
          | ok _ => exact congrArg (order :: ·) ih
          | error _ => exact ih
      | _ => exact ih

/-- An action at the end that is no order leaves the answers as they are. -/
lemma Answered.concat {actions : List (Action κ)} (h : Answered actions) {action : Action κ}
    (last : ∀ order outcome, action = .send order outcome →
      (Action.shutdown ∉ actions → outcome = .ok ()) ∧
        (Action.shutdown ∈ actions → outcome = .error .workerGone)) :
    Answered (actions ++ [action]) := by
  intro before order outcome after split
  rcases List.eq_nil_or_concat after with rfl | ⟨after, other, rfl⟩
  · obtain ⟨rfl, same⟩ := List.append_inj' split rfl
    exact last order outcome (List.singleton_inj.1 same)
  · rw [List.concat_eq_append, ← List.cons_append, ← List.append_assoc] at split
    exact h before order outcome after (List.append_inj' split rfl).1

lemma accounts_start (e : Engine) : (start e : Threads κ).Accounts e [] where
  due := rfl
  settled := rfl
  drained := nofun
  here := by simp [start]

section

variable {e : Engine} {actions : List (Action κ)} {action : Action κ} {s t : Threads κ}

/-- A step of the thread, and one of the owner that sends nothing, leaves the accounts balanced. -/
lemma Accounts.unsent (h : s.Accounts e actions) (none : accepted [action] = [])
    (due : t.due = s.due) (settled : t.settled = s.settled)
    (drained : t.owner = .gone → t.waiting = [])
    (here : t.owner = .present ↔ Action.shutdown ∉ actions ++ [action]) :
    t.Accounts e (actions ++ [action]) where
  due := by rw [due, h.due, accepted_append, none, List.append_nil]
  settled := by rw [settled, h.settled, accepted_append, none, List.append_nil]
  drained := drained
  here := here

/-- **Every step keeps the accounts.** -/
theorem Accounts.step (h : s.Accounts e actions) (step : s.Step action t) :
    t.Accounts e (actions ++ [action]) := by
  cases step with
  | accepted order here =>
      exact {
        due := by
          rw [due_push, h.due, h.settled, accepted_append, handed_append]
          exact congrArg (handed e (accepted actions) ++ ·) (List.append_nil _).symm
        settled := by
          rw [settled_push, h.settled, accepted_append, Engine.afterOrders_append]
          rfl
        drained := fun gone => by
          rw [owner_push, here] at gone
          cases gone
        here := by simpa using h.here }
  | refused order gone =>
      exact h.unsent rfl rfl rfl h.drained (by simpa using h.here)
  | shutdown free =>
      exact h.unsent rfl rfl rfl nofun (by simp)
  | returned leaving done =>
      have passed : Action.shutdown ∈ actions := by
        by_contra never
        rw [h.here.2 never] at leaving
        cases leaving
      exact h.unsent rfl rfl rfl (fun _ => done) (by simp [passed])
  | receive idle first =>
      have same : s.waiting = _ := (waiting_of_idle idle).trans first
      refine h.unsent rfl ?_ ?_ ?_ (by simpa using h.here)
      · rw [Threads.due, Threads.due, same]
        rfl
      · rw [Threads.settled, Threads.settled, same]
        rfl
      · intro gone
        rw [h.drained gone] at same
        cases same
  | finish busy =>
      refine h.unsent rfl (due_perform busy) (settled_perform busy) ?_ (by simpa using h.here)
      intro gone
      have drained := h.drained gone
      rw [waiting_of_busy busy] at drained
      cases drained

/-- **Every step answers as it should.** -/
lemma Accounts.answered (h : s.Accounts e actions) (answered : Answered actions)
    (step : s.Step action t) : Answered (actions ++ [action]) := by
  refine answered.concat fun order outcome sent => ?_
  cases step with
  | accepted order here =>
      cases sent
      exact ⟨fun _ => rfl, fun passed => absurd passed (h.here.1 here)⟩
  | refused order gone =>
      cases sent
      refine ⟨fun never => ?_, fun _ => rfl⟩
      rw [h.here.2 never] at gone
      cases gone
  | _ => cases sent

/-- **Every run keeps the accounts**, and answers as it should. -/
theorem Run.accounts (run : (start e : Threads κ).Run actions s) :
    s.Accounts e actions ∧ Answered actions := by
  induction run with
  | nothing =>
      refine ⟨accounts_start e, fun before order outcome after none => ?_⟩
      cases before <;> cases none
  | andThen _ step ih => exact ⟨ih.1.step step, ih.1.answered ih.2 step⟩

end

/-! ## The end of a shutdown -/

lemma Run.append {s t u : Threads κ} {actions later : List (Action κ)} (run : s.Run actions t)
    (more : t.Run later u) : s.Run (actions ++ later) u := by
  induction more with
  | nothing => rwa [List.append_nil]
  | andThen _ step ih =>
      rw [← List.append_assoc]
      exact .andThen ih step

/-- One action is a run. -/
lemma Step.run {s t : Threads κ} {action : Action κ} (step : s.Step action t) :
    s.Run [action] t := .andThen .nothing step

/-- An idle thread works off the queue, whatever the owner does. -/
lemma exists_drained_of_idle {s : Threads κ} (idle : s.current = none) :
    ∃ (work : List (Action κ)) (t : Threads κ), (∀ action ∈ work, action.isWork = true) ∧
      s.Run work t ∧ t.waiting = [] ∧ t.owner = s.owner := by
  induction size : s.queue generalizing s with
  | nil => exact ⟨[], s, by simp, .nothing, by rw [waiting_of_idle idle, size], rfl⟩
  | cons order rest ih =>
      let busy : Threads κ := { s with current := some order, queue := rest }
      have received : s.Step .receive busy := .receive idle size
      have finished : busy.Step .finish (busy.perform order) := .finish rfl
      obtain ⟨work, t, works, run, drained, same⟩ := ih (s := busy.perform order) rfl rfl
      refine ⟨[.receive] ++ [.finish] ++ work, t, ?_, ?_, drained, same⟩
      · simpa [Action.isWork] using works
      · exact (received.run.append finished.run).append run

/-- **The thread works off what waits**, whatever the owner does. -/
theorem exists_drained (s : Threads κ) :
    ∃ (work : List (Action κ)) (t : Threads κ), (∀ action ∈ work, action.isWork = true) ∧
      s.Run work t ∧ t.waiting = [] ∧ t.owner = s.owner := by
  cases busy : s.current with
  | none => exact exists_drained_of_idle busy
  | some order =>
      have finished := Step.finish busy
      obtain ⟨work, t, works, run, drained, same⟩ :=
        exists_drained_of_idle (s := s.perform order) rfl
      refine ⟨[.finish] ++ work, t, ?_, finished.run.append run, drained, same⟩
      simpa [Action.isWork] using works

end Threads

/-! ## The result -/

/-- **A worker loses, doubles and reorders nothing.**  However the calls of a worker's owner and the
steps of its thread come in turn: orders are accepted until a shutdown is called for and refused
behind it, and what has been called back is a beginning of what one engine hands over when it
performs the accepted orders one after another.  Once a shutdown has returned it is all of that, each
accepted run has been called back once and in order, and the reports are those of a worker that is
given the same jobs and then works off its queue.  And a shutdown returns as soon as the thread has
done its work, which nothing keeps it from. -/
theorem callbacks_are_called_in_order (engine : Engine) {actions : List (Action κ)} {s : Threads κ}
    (run : (Threads.start engine).Run actions s) :
    Threads.Answered actions ∧
      s.called <+: handed engine (accepted actions) ∧
      (s.owner = .gone →
        s.called = handed engine (accepted actions) ∧
          s.called.map Prod.fst = (accepted actions).filterMap Order.callback? ∧
          s.worker = (⟨engine, (accepted actions).map Order.job, true, []⟩ : Worker).shutdown) ∧
      (s.owner = .leaving → ∃ (work : List (Action κ)) (t : Threads κ),
        (∀ action ∈ work, action.isWork = true) ∧ s.Run (work ++ [.returned]) t) := by
  obtain ⟨accounts, answered⟩ := run.accounts
  refine ⟨answered, ⟨_, accounts.due⟩, fun gone => ?_, fun leaving => ?_⟩
  · have drained := accounts.drained gone
    have called : s.called = handed engine (accepted actions) := by
      rw [← accounts.due, Threads.due, drained]
      exact (List.append_nil _).symm
    have settled : s.engine = engine.afterOrders (accepted actions) := by
      rw [← accounts.settled, Threads.settled, drained]
      rfl
    refine ⟨called, ?_, ?_⟩
    · rw [called, map_fst_handed]
    · rw [Worker.shutdown_orders, Threads.worker, drained, gone, called, settled]
      rfl
  · obtain ⟨work, t, works, drains, empty, same⟩ := s.exists_drained
    exact ⟨work, _, works, .andThen drains (.returned (same.trans leaving) empty)⟩

/-- Two runs with other settings between them, sent while the thread is busy, and a third behind a
shutdown: the callbacks `1` and `2` are called, each with what was written under its settings. -/
theorem callbacks_are_called_in_order_interleaved :
    let request : Request := ⟨"print(\"abcdef\")", "python", none, none⟩
    let narrow : Settings := { Settings.standard with maxOutputChars := 3 }
    ∃ (actions : List (Action Nat)) (s : Threads Nat),
      (Threads.start (.new .standard)).Run actions s ∧
        s.called.map (fun call => (call.1, call.2.output)) =
          [(1, ("abcdef" : Text)), (2, ("abc" : Text))] ∧
        Threads.Answered actions ∧
        .send (.configure narrow) (.ok ()) ∈ actions ∧
        .send (.run request 3) (.error .workerGone) ∈ actions := by
  intro request narrow
  have first := (Threads.Run.nothing (s := Threads.start (κ := Nat) (.new .standard))).andThen
    (.accepted (.run request 1) rfl)
  have busy := first.andThen (.receive rfl rfl)
  have sent := (busy.andThen (.accepted (.configure narrow) rfl)).andThen
    (.accepted (.run request 2) rfl)
  have leaving := (sent.andThen (.finish rfl)).andThen (.shutdown nofun)
  have configured := (leaving.andThen (.receive rfl rfl)).andThen (.finish rfl)
  have done := (configured.andThen (.receive rfl rfl)).andThen (.finish rfl)
  have refused := (done.andThen (.returned rfl rfl)).andThen (.refused (.run request 3) rfl)
  obtain ⟨answered, -, gone, -⟩ := callbacks_are_called_in_order (.new .standard) refused
  refine ⟨_, _, refused, ?_, answered, by simp, by simp⟩
  rw [(gone rfl).1]
  decide +kernel

end SnippetLab.Batch

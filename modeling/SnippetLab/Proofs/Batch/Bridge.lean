import Mathlib.Data.List.Basic
import Mathlib.Tactic.Lemma
import SnippetLab.Batch.Script

/-!
# Runs over a bridge

A caller sends one script after another, waits for each no longer than it likes, and may let time
pass before the next; the engine works on what it was sent, in order, and takes as long as it takes.
A reply that is late stays in the mailbox, in front of all later ones.  **The number of the request
keeps them apart**: everything in the mailbox of a bridge between two runs answers an earlier
request, so it is dropped on the way to the reply that is waited for, or left for the next run to
drop.

* `receive_own`, `receive_stale` — what a mailbox of late replies gives, with the own reply behind
  them and without.
* `IsOpen`, `Idle`, `Stops` — the engine may still be busy, has done all it was sent, or stops.
* `run_of_reply`, `run_of_late`, `run_of_stop`, `run_stopped` — one run from such a bridge.
* `answers` — the engine by itself: when it is done with each script it was sent.
* `exchanges_get_their_replies` — **every run gets its own reply exactly if that arrives in time**,
  and learns exactly in time that the engine has stopped.
-/

namespace SnippetLab.Batch

namespace Bridge

/-! ## The mailbox -/

lemma receive_isSuffix (request deadline : Nat) (mailbox : List Delivery) :
    (receive request deadline mailbox).2 <:+ mailbox := by
  induction mailbox with
  | nil => exact List.suffix_rfl
  | cons d rest ih =>
      unfold receive
      split
      · exact List.suffix_rfl
      · split
        · exact List.suffix_cons d rest
        · exact ih.trans (List.suffix_cons d rest)

section Receive

variable {request : Nat} (deadline : Nat) {mailbox : List Delivery}

/-- Late replies to other requests give nothing. -/
lemma receive_stale (stale : ∀ d ∈ mailbox, d.request ≠ request) :
    (receive request deadline mailbox).1 = none := by
  induction mailbox with
  | nil => rfl
  | cons d rest ih =>
      obtain ⟨other, later⟩ := List.forall_mem_cons.1 stale
      rw [receive, if_neg other]
      split
      · rfl
      · exact ih later

/-- **The own reply is found behind all late ones**, if it arrives in time; these are all gone
then. -/
lemma receive_own {own : Delivery} (stale : ∀ d ∈ mailbox, d.request ≠ request)
    (early : ∀ d ∈ mailbox, d.arrival ≤ own.arrival) (answers : own.request = request)
    (inTime : own.arrival ≤ deadline) :
    receive request deadline (mailbox ++ [own]) = (some own, []) := by
  induction mailbox with
  | nil => simp [receive, Nat.not_lt.2 inTime, answers]
  | cons d rest ih =>
      obtain ⟨other, later⟩ := List.forall_mem_cons.1 stale
      obtain ⟨first, behind⟩ := List.forall_mem_cons.1 early
      rw [List.cons_append, receive, if_neg (by omega), if_neg other]
      exact ih later behind

/-- A reply that arrives too late is not found. -/
lemma receive_late {own : Delivery} (stale : ∀ d ∈ mailbox, d.request ≠ request)
    (late : deadline < own.arrival) : (receive request deadline (mailbox ++ [own])).1 = none := by
  induction mailbox with
  | nil => simp [receive, late]
  | cons d rest ih =>
      obtain ⟨other, later⟩ := List.forall_mem_cons.1 stale
      rw [List.cons_append, receive, if_neg other]
      split
      · rfl
      · exact ih later

end Receive

/-! ## Between two runs -/

/-- The engine is there, and all replies in the mailbox are to earlier requests; it has done with
these. -/
structure IsOpen (b : Bridge) : Prop where
  running : b.stopsAt = none
  stale : ∀ d ∈ b.mailbox, d.request ≤ b.requests
  early : ∀ d ∈ b.mailbox, d.arrival ≤ b.idleAt

/-- The engine has done all it was sent, and every reply has been taken. -/
structure Idle (b : Bridge) : Prop where
  running : b.stopsAt = none
  empty : b.mailbox = []
  done : b.idleAt ≤ b.now

/-- The engine stops at a time, or has stopped then. -/
structure Stops (b : Bridge) (time : Nat) : Prop where
  stopping : b.stopsAt = some time
  stale : ∀ d ∈ b.mailbox, d.request ≤ b.requests

lemma idle_start : start.Idle := ⟨rfl, rfl, Nat.le_refl 0⟩

lemma Idle.isOpen {b : Bridge} (h : b.Idle) : b.IsOpen where
  running := h.running
  stale := by simp [h.empty]
  early := by simp [h.empty]

/-- Let time pass. -/
def pass (b : Bridge) (ms : Nat) : Bridge := { b with now := b.now + ms }

lemma IsOpen.pass {b : Bridge} (h : b.IsOpen) (ms : Nat) : (b.pass ms).IsOpen :=
  ⟨h.running, h.stale, h.early⟩

lemma Stops.pass {b : Bridge} {time : Nat} (h : b.Stops time) (ms : Nat) :
    (b.pass ms).Stops time := ⟨h.stopping, h.stale⟩

/-! ## One run -/

/-- What becomes of a run whose engine stops. -/
def stopError (time deadline timeoutMs : Nat) : RunError :=
  if time ≤ deadline then .engineStopped else .timeout timeoutMs

section Run

variable {b : Bridge} {source source' : ScriptSource} {script : Text} {delayMs : Nat}
  (timeoutMs : Nat)

/-- **A reply that arrives in time is what the run gets.**  The engine is idle then. -/
lemma run_of_reply (h : b.IsOpen) {reply : Reply}
    (next : source.next script = (⟨delayMs, some reply⟩, source'))
    (inTime : max b.now b.idleAt + delayMs ≤ b.now + timeoutMs) :
    ∃ b', b.run source script timeoutMs = (.ok reply, b', source') ∧ b'.Idle ∧
      b'.idleAt = max b.now b.idleAt + delayMs := by
  let own : Delivery := ⟨max b.now b.idleAt + delayMs, b.requests + 1, reply⟩
  have early : ∀ d ∈ b.mailbox, d.arrival ≤ own.arrival := by
    intro d listed
    have before := h.early d listed
    show d.arrival ≤ max b.now b.idleAt + delayMs
    omega
  have found : receive (b.requests + 1) (b.now + timeoutMs) (b.mailbox ++ [own]) = (some own, []) :=
    receive_own _ (fun d listed => Nat.ne_of_lt (Nat.lt_succ_of_le (h.stale d listed))) early rfl
      inTime
  refine ⟨⟨max b.now (max b.now b.idleAt + delayMs), max b.now b.idleAt + delayMs, b.stopsAt, [],
    b.requests + 1⟩, ?_, ⟨h.running, rfl, Nat.le_max_right _ _⟩, rfl⟩
  simp only [run, h.running, Option.isSome_none, Bool.false_eq_true, if_false, next, send, await]
  rw [found]

/-- **A reply that arrives too late is not waited for.** -/
lemma run_of_late (h : b.IsOpen) {reply : Reply}
    (next : source.next script = (⟨delayMs, some reply⟩, source'))
    (late : b.now + timeoutMs < max b.now b.idleAt + delayMs) :
    ∃ b', b.run source script timeoutMs = (.error (.timeout timeoutMs), b', source') ∧
      b'.IsOpen ∧ b'.idleAt = max b.now b.idleAt + delayMs := by
  let own : Delivery := ⟨max b.now b.idleAt + delayMs, b.requests + 1, reply⟩
  have missed : (receive (b.requests + 1) (b.now + timeoutMs) (b.mailbox ++ [own])).1 = none :=
    receive_late _ (fun d listed => Nat.ne_of_lt (Nat.lt_succ_of_le (h.stale d listed))) late
  have left := receive_isSuffix (b.requests + 1) (b.now + timeoutMs) (b.mailbox ++ [own])
  refine ⟨⟨b.now + timeoutMs, own.arrival, b.stopsAt,
    (receive (b.requests + 1) (b.now + timeoutMs) (b.mailbox ++ [own])).2, b.requests + 1⟩, ?_,
    ⟨h.running, ?_, ?_⟩, rfl⟩
  · simp only [run, h.running, Option.isSome_none, Bool.false_eq_true, if_false, next, send, await]
    rw [missed]
    rfl
  · intro d listed
    rcases List.mem_append.1 (left.subset listed) with listed | listed
    · exact Nat.le_succ_of_le (h.stale d listed)
    · obtain rfl := List.mem_singleton.1 listed
      exact Nat.le_refl _
  · intro d listed
    rcases List.mem_append.1 (left.subset listed) with listed | listed
    · have before := h.early d listed
      show d.arrival ≤ max b.now b.idleAt + delayMs
      omega
    · obtain rfl := List.mem_singleton.1 listed
      exact Nat.le_refl _

/-- A run whose script the engine answers, in time or not: the bridge stays open. -/
lemma run_of_answer (h : b.IsOpen) {reply : Reply}
    (next : source.next script = (⟨delayMs, some reply⟩, source')) :
    let done := max b.now b.idleAt + delayMs
    ∃ b', b.run source script timeoutMs =
        (if done ≤ b.now + timeoutMs then .ok reply else .error (.timeout timeoutMs), b', source') ∧
      b'.IsOpen ∧ b'.idleAt = done := by
  intro done
  by_cases inTime : done ≤ b.now + timeoutMs
  · obtain ⟨b', ran, idle, free⟩ := run_of_reply timeoutMs h next inTime
    exact ⟨b', by rw [if_pos inTime, ran], idle.isOpen, free⟩
  · obtain ⟨b', ran, isOpen, free⟩ := run_of_late timeoutMs h next (Nat.lt_of_not_le inTime)
    exact ⟨b', by rw [if_neg inTime, ran], isOpen, free⟩

/-- What waiting for an engine that stops comes to. -/
lemma await_stops {time : Nat} (stopping : b.stopsAt = some time)
    (stale : ∀ d ∈ b.mailbox, d.request < b.requests) :
    ∃ b', b.await timeoutMs = (.error (stopError time (b.now + timeoutMs) timeoutMs), b') ∧
      b'.Stops time := by
  have missed := receive_stale (b.now + timeoutMs) fun d listed => Nat.ne_of_lt (stale d listed)
  have left := receive_isSuffix b.requests (b.now + timeoutMs) b.mailbox
  have kept : ∀ d ∈ (receive b.requests (b.now + timeoutMs) b.mailbox).2, d.request ≤ b.requests :=
    fun d listed => Nat.le_of_lt (stale d (left.subset listed))
  by_cases inTime : time ≤ b.now + timeoutMs
  · refine ⟨⟨max b.now time, b.idleAt, b.stopsAt,
      (receive b.requests (b.now + timeoutMs) b.mailbox).2, b.requests⟩, ?_, stopping, kept⟩
    simp only [await, stopError, stopping, inTime, missed, Option.filter, decide_true, if_true]
  · refine ⟨⟨b.now + timeoutMs, b.idleAt, b.stopsAt,
      (receive b.requests (b.now + timeoutMs) b.mailbox).2, b.requests⟩, ?_, stopping, kept⟩
    simp only [await, stopError, stopping, inTime, missed, Option.filter, decide_false, if_false,
      Bool.false_eq_true]

/-- A run whose script stops the engine. -/
lemma run_of_stop (h : b.IsOpen) (next : source.next script = (⟨delayMs, none⟩, source')) :
    let time := max b.now b.idleAt + delayMs
    ∃ b', b.run source script timeoutMs =
        (.error (stopError time (b.now + timeoutMs) timeoutMs), b', source') ∧ b'.Stops time := by
  intro time
  obtain ⟨b', waited, stops⟩ := await_stops (b := { b with
      requests := b.requests + 1, stopsAt := some time }) timeoutMs rfl
    (fun d listed => Nat.lt_succ_of_le (h.stale d listed))
  refine ⟨b', ?_, stops⟩
  simp only [run, h.running, Option.isSome_none, Bool.false_eq_true, if_false, next, send]
  rw [waited]

variable (source script) in
/-- A run after that: the script is not evaluated. -/
lemma run_stopped {time : Nat} (h : b.Stops time) :
    ∃ b', b.run source script timeoutMs =
        (.error (stopError time (b.now + timeoutMs) timeoutMs), b', source) ∧ b'.Stops time := by
  obtain ⟨b', waited, stops⟩ := await_stops (b := { b with requests := b.requests + 1 }) timeoutMs
    h.stopping (fun d listed => Nat.lt_succ_of_le (h.stale d listed))
  refine ⟨b', ?_, stops⟩
  have stopping : b.stopsAt.isSome = true := by rw [h.stopping]; rfl
  simp only [run, stopping, if_true]
  rw [waited]

end Run

end Bridge

/-! ## Many runs -/

/-- A run to be made: the time that passes before it, and what it is given. -/
structure Call where
  pauseMs : Nat
  script : Text
  timeoutMs : Nat
  deriving Repr, DecidableEq

/-- A run that was made: when its script was sent, and what it came to. -/
structure Exchange where
  sentAt : Nat
  result : Except RunError Reply
  deriving Repr, DecidableEq

/-- Make some runs over a bridge, one after another. -/
def Bridge.exchanges (b : Bridge) (source : ScriptSource) : List Call → List Exchange
  | [] => []
  | call :: rest =>
    let b := b.pass call.pauseMs
    let (result, b', source') := b.run source call.script call.timeoutMs
    ⟨b.now, result⟩ :: b'.exchanges source' rest

/-- What an engine makes of some scripts. -/
def ScriptSource.evaluations (source : ScriptSource) : List Text → List Evaluation
  | [] => []
  | script :: rest =>
    let (evaluation, source') := source.next script
    evaluation :: source'.evaluations rest

/-- **The engine by itself**: sent some scripts, each at its time, it begins a script when it has
it and has done with those before, from `idleAt` on.  Told is when it is done with each, and the
reply; at a script without one it stops, and does nothing more. -/
def answers (idleAt : Nat) : List (Nat × Evaluation) → List (Nat × Option Reply)
  | [] => []
  | (sentAt, ⟨delayMs, reply⟩) :: rest =>
    let done := max sentAt idleAt + delayMs
    (done, reply) :: if reply.isSome then answers done rest else []

/-- What a run gets, made as number `i`, when the engine does what `done` tells. -/
structure Exchange.Gets (x : Exchange) (timeoutMs : Nat) (done : List (Nat × Option Reply))
    (i : Nat) : Prop where
  /-- Its own reply, exactly if the engine gives it in time. -/
  own : ∀ reply, x.result = .ok reply ↔
    ∃ time ≤ x.sentAt + timeoutMs, done[i]? = some (time, some reply)
  /-- Word that the engine has stopped, exactly if it has in time. -/
  stopped : x.result = .error .engineStopped ↔
    ∃ time ≤ x.sentAt + timeoutMs, ∃ j ≤ i, done[j]? = some (time, none)
  /-- Nothing else but the end of its time. -/
  other : (∃ reply, x.result = .ok reply) ∨ x.result = .error .engineStopped ∨
    x.result = .error (.timeout timeoutMs)

namespace Exchange.Gets

variable (sentAt timeoutMs i time : Nat)

/-- The first run, if the engine answers it. -/
lemma of_reply (reply : Reply) (rest : List (Nat × Option Reply)) :
    Gets ⟨sentAt, if time ≤ sentAt + timeoutMs then .ok reply else .error (.timeout timeoutMs)⟩
      timeoutMs ((time, some reply) :: rest) 0 := by
  have never : ¬ ∃ t ≤ sentAt + timeoutMs, ∃ j ≤ 0, ((time, some reply) :: rest)[j]? =
      some (t, none) := by
    rintro ⟨t, -, j, first, stop⟩
    rw [Nat.le_zero.1 first] at stop
    cases stop
  by_cases inTime : time ≤ sentAt + timeoutMs
  · rw [if_pos inTime]
    refine ⟨fun other => ?_, iff_of_false (by simp) never, .inl ⟨reply, rfl⟩⟩
    constructor
    · rintro ⟨⟩
      exact ⟨time, inTime, rfl⟩
    · rintro ⟨t, -, same⟩
      cases same
      rfl
  · rw [if_neg inTime]
    refine ⟨fun other => iff_of_false (by simp) ?_, iff_of_false (by simp) never, .inr (.inr rfl)⟩
    rintro ⟨t, early, same⟩
    cases same
    exact inTime early

/-- Any run from one at which the engine stops. -/
lemma of_stop : Gets ⟨sentAt, .error (Bridge.stopError time (sentAt + timeoutMs) timeoutMs)⟩
    timeoutMs [(time, none)] i := by
  have only : ∀ (j t : Nat) (r : Option Reply), [(time, none)][j]? = some (t, r) →
      t = time ∧ r = none := by
    intro j t r found
    cases j with
    | zero =>
        cases found
        exact ⟨rfl, rfl⟩
    | succ j => cases found
  have noReply : ∀ reply, ¬ ∃ t ≤ sentAt + timeoutMs, [(time, (none : Option Reply))][i]? =
      some (t, some reply) := by
    rintro reply ⟨t, -, found⟩
    cases (only i t _ found).2
  unfold Bridge.stopError
  by_cases inTime : time ≤ sentAt + timeoutMs
  · rw [if_pos inTime]
    exact ⟨fun reply => iff_of_false (by simp) (noReply reply),
      iff_of_true rfl ⟨time, inTime, 0, Nat.zero_le i, rfl⟩, .inr (.inl rfl)⟩
  · rw [if_neg inTime]
    refine ⟨fun reply => iff_of_false (by simp) (noReply reply), iff_of_false (by simp) ?_,
      .inr (.inr rfl)⟩
    rintro ⟨t, early, j, -, stop⟩
    rw [(only j t none stop).1] at early
    exact inTime early

variable {timeoutMs i} {done : List (Nat × Option Reply)}

/-- The runs after one that the engine answers are runs of their own. -/
lemma succ {x : Exchange} (h : x.Gets timeoutMs done i) (time : Nat) (reply : Reply) :
    x.Gets timeoutMs ((time, some reply) :: done) (i + 1) where
  own := h.own
  stopped := by
    rw [h.stopped]
    refine exists_congr fun t => and_congr_right fun _ => ?_
    constructor
    · rintro ⟨j, upTo, stop⟩
      exact ⟨j + 1, Nat.succ_le_succ upTo, stop⟩
    · rintro ⟨j, upTo, stop⟩
      cases j with
      | zero => cases stop
      | succ j => exact ⟨j, Nat.le_of_succ_le_succ upTo, stop⟩
  other := h.other

end Exchange.Gets

namespace Bridge

/-- The runs over a bridge whose engine stops. -/
lemma exchanges_of_stops {b : Bridge} {time : Nat} (h : b.Stops time) (source : ScriptSource)
    {calls : List Call} {i : Nat} {call : Call} (made : calls[i]? = some call) :
    ∃ sentAt, (b.exchanges source calls)[i]? =
      some ⟨sentAt, .error (stopError time (sentAt + call.timeoutMs) call.timeoutMs)⟩ := by
  induction calls generalizing b i with
  | nil => cases made
  | cons first rest ih =>
      obtain ⟨b', ran, stops⟩ := run_stopped source first.script first.timeoutMs
        (h.pass first.pauseMs)
      simp only [exchanges, ran]
      cases i with
      | zero =>
          cases made
          exact ⟨_, rfl⟩
      | succ i => exact ih stops made

/-- **The runs over an open bridge.**  An engine that answers leaves an open bridge, so the runs
after are runs of their own; one that stops leaves one on which every run finds out. -/
theorem exchanges_of_isOpen {b : Bridge} (h : b.IsOpen) (source : ScriptSource)
    {calls : List Call} {i : Nat} {call : Call} (made : calls[i]? = some call) :
    ∃ x, (b.exchanges source calls)[i]? = some x ∧
      x.Gets call.timeoutMs (answers b.idleAt (((b.exchanges source calls).map Exchange.sentAt).zip
        (source.evaluations (calls.map Call.script)))) i := by
  induction calls generalizing b source i with
  | nil => cases made
  | cons first rest ih =>
      have ready := h.pass first.pauseMs
      rcases next : source.next first.script with ⟨⟨delayMs, _ | reply⟩, source'⟩
      · obtain ⟨b', ran, stops⟩ := run_of_stop first.timeoutMs ready next
        simp only [exchanges, ran, ScriptSource.evaluations, next, List.map_cons,
          List.zip_cons_cons, answers, Option.isSome_none, Bool.false_eq_true, if_false]
        cases i with
        | zero =>
            cases made
            exact ⟨_, rfl, .of_stop _ _ _ _⟩
        | succ i =>
            have later : rest[i]? = some call := made
            obtain ⟨sentAt, there⟩ := exchanges_of_stops stops source' later
            exact ⟨_, there, .of_stop _ _ _ _⟩
      · obtain ⟨b', ran, isOpen, free⟩ := run_of_answer first.timeoutMs ready next
        simp only [exchanges, ran, ScriptSource.evaluations, next, List.map_cons,
          List.zip_cons_cons, answers, Option.isSome_some, if_true]
        cases i with
        | zero =>
            cases made
            exact ⟨_, rfl, .of_reply _ _ _ reply _⟩
        | succ i =>
            obtain ⟨x, there, gets⟩ := ih isOpen source' made
            rw [free] at gets
            exact ⟨x, there, gets.succ _ reply⟩

end Bridge

/-! ## The result -/

/-- **Every run over a bridge gets its own reply or none.**  Whatever the engine makes of the
scripts, however long it takes over each, and whenever they are sent: a run is given a reply exactly
if that is what the engine has answered to its own script, and in time; it is told that the engine
has stopped exactly if it has, at this script or an earlier one, before the time was up; and there
is nothing else but the end of that time.  So no late reply is given to a later run, none that is
waited for is lost, and a run made after the engine has stopped is told so. -/
theorem exchanges_get_their_replies (source : ScriptSource) (calls : List Call) (i : Nat)
    (call : Call) (made : calls[i]? = some call) :
    let exchanges := Bridge.start.exchanges source calls
    let done := answers 0 ((exchanges.map Exchange.sentAt).zip
      (source.evaluations (calls.map Call.script)))
    ∃ x, exchanges[i]? = some x ∧ x.Gets call.timeoutMs done i :=
  Bridge.exchanges_of_isOpen Bridge.idle_start.isOpen source made

/-- A reply that is late for its own run is not taken for the next, which waits for its own; the run
after that stops the engine. -/
theorem exchanges_get_their_replies_late :
    let source : ScriptSource :=
      .prepared [⟨150, some (.ok "first")⟩, ⟨150, some (.ok "second")⟩, ⟨0, none⟩]
    let calls : List Call := [⟨0, "first", 20⟩, ⟨0, "second", 2000⟩, ⟨5, "third", 10⟩]
    let exchanges := Bridge.start.exchanges source calls
    calls[1]? = some ⟨0, "second", 2000⟩ ∧
      exchanges = [⟨0, .error (.timeout 20)⟩, ⟨20, .ok (.ok "second")⟩,
        ⟨305, .error .engineStopped⟩] ∧
      ∃ x, exchanges[1]? = some x ∧ x.Gets 2000
        [(150, some (.ok "first")), (300, some (.ok "second")), (305, none)] 1 := by
  intro source calls exchanges
  exact ⟨rfl, by decide, exchanges_get_their_replies source calls 1 ⟨0, "second", 2000⟩ rfl⟩

end SnippetLab.Batch

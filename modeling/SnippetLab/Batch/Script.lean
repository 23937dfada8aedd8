import SnippetLab.Batch.Interpret

/-!
# The script engine and the way to it

Scripts are evaluated by an engine that works beside its caller, one script after another, and
answers with a reply that carries the number of the request.  A caller waits for its reply up to a
timeout; a reply to a request given up arrives later and is dropped.

Time is a number of milliseconds that passes only while a caller waits.  An engine is described by
what it makes of each script: how long it takes, and the reply, or that it stops for good.

* `ScriptSource` — where evaluations come from: the interpreter of this library, or a queue of
  prepared ones.
* `Bridge.run` — send a script and wait for its reply.
-/

namespace SnippetLab.Batch

/-- What an engine answers. -/
structure Reply where
  success : Bool
  output : Text
  error : Option Text
  deriving Repr, DecidableEq

/-- The reply of a script that went through. -/
def Reply.ok (output : Text) : Reply := ⟨true, output, none⟩

/-- The reply of a script that failed. -/
def Reply.failed (error : Text) : Reply := ⟨false, [], some error⟩

/-- What becomes of a script: after `delayMs` there is a reply, or the engine stops. -/
structure Evaluation where
  delayMs : Nat
  reply : Option Reply
  deriving Repr, DecidableEq

/-- **Evaluate a script by interpreting its lines**, without a limit of time. -/
def evaluateScript (settings : Settings) (script : Text) : Reply :=
  match Check.formError? .javaScript script with
  | some error => .failed error.message
  | none =>
    match interpret settings none (.ofCode .javaScript script) with
    | .ok output => .ok output
    | .error error => .failed error.message

/-- Where evaluations come from. -/
inductive ScriptSource where
  /-- The interpreter, under settings of its own.  Its evaluations take the times given, in turn; once
  these are used up, none. -/
  | interpreter (settings : Settings) (delays : List Nat)
  /-- Prepared evaluations, taken in order; after the last, scripts are answered by themselves. -/
  | prepared (queue : List Evaluation)
  deriving Repr, DecidableEq

/-- The evaluation of the next script, and the source after it. -/
def ScriptSource.next (source : ScriptSource) (script : Text) : Evaluation × ScriptSource :=
  match source with
  | .interpreter settings delays =>
    (⟨delays.headD 0, some (evaluateScript settings script)⟩, .interpreter settings delays.tail)
  | .prepared [] => (⟨0, some (.ok script)⟩, source)
  | .prepared (evaluation :: rest) => (evaluation, .prepared rest)

/-! ## The bridge -/

/-- A reply on its way: when it arrives, and the request it answers. -/
structure Delivery where
  arrival : Nat
  request : Nat
  reply : Reply
  deriving Repr, DecidableEq

/-- A caller's side of an engine. -/
structure Bridge where
  /-- The time, in milliseconds since the engine was started. -/
  now : Nat
  /-- When the engine will have evaluated all it was sent. -/
  idleAt : Nat
  /-- When the engine stops, if it does. -/
  stopsAt : Option Nat
  /-- Replies not yet taken, in the order of their arrival. -/
  mailbox : List Delivery
  /-- How many requests have been made. -/
  requests : Nat
  deriving Repr, DecidableEq

namespace Bridge

/-- The bridge to an engine just started. -/
def start : Bridge := ⟨0, 0, none, [], 0⟩

/-- Hand a script's evaluation to the engine, which begins it when it has done with those before;
an engine that stops leaves it undone. -/
def send (b : Bridge) (evaluation : Evaluation) : Bridge :=
  let finish := max b.now b.idleAt + evaluation.delayMs
  match evaluation.reply with
  | some reply =>
    { b with idleAt := finish, mailbox := b.mailbox ++ [⟨finish, b.requests, reply⟩] }
  | none => { b with stopsAt := some finish }

/-- Take deliveries up to a deadline until one answers the request, dropping all others. -/
def receive (request deadline : Nat) : List Delivery → Option Delivery × List Delivery
  | [] => (none, [])
  | d :: rest =>
    if deadline < d.arrival then (none, d :: rest)
    else if d.request = request then (some d, rest)
    else receive request deadline rest

/-- Wait for the reply to the latest request. -/
def await (b : Bridge) (timeoutMs : Nat) : Except RunError Reply × Bridge :=
  let deadline := b.now + timeoutMs
  let (found, mailbox) := receive b.requests deadline b.mailbox
  match found with
  | some d => (.ok d.reply, { b with now := max b.now d.arrival, mailbox })
  | none =>
    match b.stopsAt.filter (· ≤ deadline) with
    | some t => (.error .engineStopped, { b with now := max b.now t, mailbox })
    | none => (.error (.timeout timeoutMs), { b with now := deadline, mailbox })

/-- **Send a script and wait for its reply.**  An engine that will have stopped evaluates nothing
more. -/
def run (b : Bridge) (source : ScriptSource) (script : Text) (timeoutMs : Nat) :
    Except RunError Reply × Bridge × ScriptSource :=
  let b := { b with requests := b.requests + 1 }
  if b.stopsAt.isSome then
    let (result, b) := b.await timeoutMs
    (result, b, source)
  else
    let (evaluation, source) := source.next script
    let (result, b) := (b.send evaluation).await timeoutMs
    (result, b, source)

end Bridge

end SnippetLab.Batch

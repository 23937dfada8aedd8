import SnippetLab.Host.Encode
import SnippetLab.Host.Message

/-!
# The host server

One stepper and one batch engine under common settings, controlled by requests.  **Every request is
answered by one response**, and the events it gave rise to follow; messages are numbered from one
on.  Payloads that are no requests are passed over.

* `Server.answer` — what a command comes to.
* `Server.receive` — a payload, and the messages it is answered with.
* `serve` — a whole input.
-/

namespace SnippetLab.Host

/-- The commands that are understood. -/
def commandNames : List Text :=
  ["initialize", "configure", "execute", "validate", "load", "toggleBreakpoint",
    "clearBreakpoints", "stepOver", "stepInto", "stepOut", "continue", "runToLine", "stop",
    "restart", "variables", "stackTrace", "history", "disconnect"]

/-- What requests act on. -/
structure Server where
  settings : Settings
  stepper : Stepper
  engine : Batch.Engine
  /-- How many messages have been sent. -/
  sent : Nat
  deriving Repr, DecidableEq

/-- What a request comes to: the body of its response or what is wrong with it, and the events that
follow. -/
structure Answer where
  result : Except Text Json
  events : List (Text × Option Json)

namespace Server

/-- A server that has not been asked anything. -/
def start (settings : Settings) : Server :=
  ⟨settings, .new settings, .new settings, 0⟩

/-- An answer without events. -/
def replying (s : Server) (result : Except Text Json) : Server × Answer := (s, ⟨result, []⟩)

/-! ## Arguments -/

/-- The positive line number that arguments give. -/
def lineArgument (arguments : Json) : Except Text Nat :=
  match ((arguments.get? "line").bind Json.word?).filter (0 < ·) with
  | some line => .ok line
  | none => .error "expected a positive `line`"

/-! ## Commands -/

/-- Lay a patch over the settings of the server, the stepper and the engine. -/
def configure (s : Server) (arguments : Json) : Server × Answer :=
  match s.settings.merge arguments with
  | .error e => s.replying (.error e.message)
  | .ok settings =>
    let s' : Server :=
      { s with
        settings
        stepper := (s.stepper.perform (.configure settings)).1
        engine := { s.engine with settings } }
    s'.replying (.ok settings.toJson)

/-- Run a snippet. -/
def execute (s : Server) (arguments : Json) : Server × Answer :=
  match Batch.Request.ofJson arguments with
  | .error e => s.replying (.error e.message)
  | .ok request =>
    let (report, engine) := s.engine.run request
    { s with engine }.replying (.ok (report.toJson 0))

/-- Judge a learner's code. -/
def validate (s : Server) (arguments : Json) : Server × Answer :=
  match Fix.Request.ofJson arguments with
  | .error e => s.replying (.error e.message)
  | .ok request => s.replying (.ok (Fix.validate request).toJson)

/-- Load a snippet. -/
def load (s : Server) (arguments : Json) : Server × Answer :=
  match (arguments.get? "code").bind Json.text? with
  | none => s.replying (.error "missing `code`")
  | some code =>
    let tag := (arguments.get? "language").bind Json.text?
    let stepper := (s.stepper.perform (.load code (tag.map Language.ofTag))).1
    { s with stepper }.replying
      (.ok (Json.object
        [("lines", .nat stepper.program.length),
          ("language", .str stepper.program.language.tag)]))

/-- Set or remove a breakpoint. -/
def toggleBreakpoint (s : Server) (line : Nat) : Server × Answer :=
  let stepper := (s.stepper.perform (.toggleBreakpoint line)).1
  { s with stepper }.replying
    (.ok (Json.object
      [("line", .nat line), ("enabled", .bool (stepper.breakpoints.contains line)),
        ("breakpoints", .arr (stepper.breakpoints.map Json.nat))]))

/-- Tell the stepper to do something, and say where it has come to. -/
def step (s : Server) (command : Command) : Server × Answer :=
  let (stepper, events) := s.stepper.perform command
  ({ s with stepper },
    ⟨.ok (Json.object
        [("state", .str stepper.phase.name),
          ("line", Json.ofOption Json.nat stepper.currentLine)]),
      events.map fun event => (event.name, some event.body)⟩)

/-- Do something with the line that arguments give. -/
def withLine (s : Server) (arguments : Json) (act : Nat → Server × Answer) : Server × Answer :=
  match lineArgument arguments with
  | .ok line => act line
  | .error message => s.replying (.error message)

/-- **What a command comes to.** -/
def answer (s : Server) (command : Text) (arguments : Json) : Server × Answer :=
  if command = "initialize" then
    (s, ⟨.ok (Json.object [("commands", .arr (commandNames.map .str))]),
      [("initialized", none)]⟩)
  else if command = "configure" then s.configure arguments
  else if command = "execute" then s.execute arguments
  else if command = "validate" then s.validate arguments
  else if command = "load" then s.load arguments
  else if command = "toggleBreakpoint" then s.withLine arguments s.toggleBreakpoint
  else if command = "clearBreakpoints" then
    { s with stepper := (s.stepper.perform .clearBreakpoints).1 }.replying (.ok (Json.object []))
  else if command = "stepOver" then s.step .stepOver
  else if command = "stepInto" then s.step .stepInto
  else if command = "stepOut" then s.step .stepOut
  else if command = "continue" then s.step .resume
  else if command = "runToLine" then s.withLine arguments fun line => s.step (.runTo line)
  else if command = "stop" then s.step .stop
  else if command = "restart" then s.step .restart
  else if command = "variables" then
    s.replying (.ok (Json.object
      [("variables", .arr (s.stepper.session.bindings.map fun v => v.2.toJson))]))
  else if command = "stackTrace" then
    s.replying (.ok (Json.object
      [("frames", .arr (s.stepper.session.stack.frames.map Frame.toJson))]))
  else if command = "history" then
    s.replying (.ok (Json.object
      [("steps", .arr (s.stepper.session.history.map HistoryEntry.toJson))]))
  else if command = "disconnect" then s.replying (.ok (Json.object []))
  else s.replying (.error ("unknown command: " ++ command))

/-! ## Messages -/

/-- The content of the response to a request. -/
def response (requestSeq : Nat) (command : Text) : Except Text Json → Content
  | .ok body => .response requestSeq true command none (some body)
  | .error message => .response requestSeq false command (some message) none

/-- Number messages that follow those sent so far. -/
def numbered (sent : Nat) : List (Text × Content) → List Message
  | [] => []
  | (kind, content) :: rest => ⟨sent + 1, kind, content⟩ :: numbered (sent + 1) rest

/-- **Serve a request**: the response, and then the events. -/
def request (s : Server) (seq : Nat) (command : Text) (arguments : Json) :
    Server × List Message :=
  let (s', answer) := s.answer command arguments
  let contents : List (Text × Content) :=
    ("response", response seq command answer.result) ::
      answer.events.map fun (name, body) => ("event", .event name body)
  ({ s' with sent := s.sent + contents.length }, numbered s.sent contents)

/-- Serve a payload: the server after it, the messages sent, and whether it goes on. -/
def receive (s : Server) (payload : Bytes) : Server × List Message × Bool :=
  match (decodeText? payload).bind Message.read? with
  | some ⟨seq, _, .request command arguments⟩ =>
    let (s', messages) := s.request seq command (arguments.getD .null)
    (s', messages, command != "disconnect")
  | _ => (s, [], true)

/-- Serve payloads until one disconnects: the messages sent, and whether one did. -/
def receiveAll (s : Server) : List Bytes → List Message × Bool
  | [] => ([], false)
  | payload :: rest =>
    let (s', messages, goesOn) := s.receive payload
    if goesOn then
      let (later, disconnected) := s'.receiveAll rest
      (messages ++ later, disconnected)
    else (messages, true)

end Server

/-- **Serve a whole input**: the messages sent, and the error that ended it.  What follows a
disconnect is not looked at. -/
def serve (settings : Settings) (input : Bytes) : List Message × Option FrameError :=
  let (payloads, error) := readAll input
  let (messages, disconnected) := (Server.start settings).receiveAll payloads
  (messages, if disconnected then none else error)

end SnippetLab.Host

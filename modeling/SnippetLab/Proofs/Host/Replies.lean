import Mathlib.Data.List.Permutation
import SnippetLab.Host.Server
import SnippetLab.Proofs.Host.Framing
import SnippetLab.Proofs.Stepper.Replay

/-!
# Every request is answered once, in order

What a server sends is decided by the requests among the payloads it receives, up to the first that
disconnects: one response to each, followed by the events that the request gave rise to.  Which
events those are is said without the server: a request gives a stepper at most one command
(`Request.commandFor`), and **the events are those of a stepper that is given these commands**.

* `Request` — what there is to a request once it has been read.
* `Request.served` — the requests up to the first that disconnects.
* `Replies` — messages that are responses to some requests, each followed by its events.
* `requests_are_answered` — the messages sent for a whole input are such replies, numbered from one
  on; what is no request, and what follows a disconnect, leaves them unchanged.
-/

namespace SnippetLab.Host

/-! ## Requests -/

/-- A request; arguments that are missing are null. -/
structure Request where
  seq : Nat
  command : Text
  arguments : Json

namespace Request

/-- The request that a payload is, if it is one. -/
def read? (payload : Bytes) : Option Request :=
  match (decodeText? payload).bind Message.read? with
  | some ⟨seq, _, .request command arguments⟩ => some ⟨seq, command, arguments.getD .null⟩
  | _ => none

/-- Does a request end the service? -/
def disconnects (r : Request) : Bool := r.command == "disconnect"

/-- **The requests that are served**: those up to the first that disconnects. -/
def served : List Request → List Request
  | [] => []
  | r :: rest => if r.disconnects then [r] else r :: served rest

/-- **The command that a request gives a stepper**, if it gives one. -/
def commandFor (r : Request) (s : Stepper) : Option Command :=
  if r.command = "configure" then (s.settings.merge r.arguments).toOption.map .configure
  else if r.command = "load" then
    ((r.arguments.get? "code").bind Json.text?).map fun code =>
      .load code (((r.arguments.get? "language").bind Json.text?).map Language.ofTag)
  else if r.command = "toggleBreakpoint" then
    (Server.lineArgument r.arguments).toOption.map .toggleBreakpoint
  else if r.command = "clearBreakpoints" then some .clearBreakpoints
  else if r.command = "stepOver" then some .stepOver
  else if r.command = "stepInto" then some .stepInto
  else if r.command = "stepOut" then some .stepOut
  else if r.command = "continue" then some .resume
  else if r.command = "runToLine" then (Server.lineArgument r.arguments).toOption.map .runTo
  else if r.command = "stop" then some .stop
  else if r.command = "restart" then some .restart
  else none

/-- What a stepper does when it hears a request, and the events it reports. -/
def performOn (r : Request) (s : Stepper) : Stepper × List Event :=
  match r.commandFor s with
  | some command => s.perform command
  | none => (s, [])

/-- **The events that a request gives rise to**: the greeting, and what the stepper reports. -/
def events (r : Request) (s : Stepper) : List (Text × Option Json) :=
  let told := (r.performOn s).2.map fun event => (event.name, some event.body)
  if r.command = "initialize" then ("initialized", none) :: told else told

section

variable {r : Request} {s : Stepper}

lemma performOn_of_none (none : r.commandFor s = none) : r.performOn s = (s, []) := by
  rw [performOn, none]

lemma performOn_of_given {command : Command} (given : r.commandFor s = some command) :
    r.performOn s = s.perform command := by
  rw [performOn, given]

lemma events_of_ne (other : r.command ≠ "initialize") :
    r.events s = (r.performOn s).2.map fun event => (event.name, some event.body) := by
  rw [events, if_neg other]

end

end Request

/-! ## Replies -/

/-- What a message says, apart from its number. -/
def Message.said (m : Message) : Text × Content := (m.kind, m.content)

/-- **Messages that reply to some requests**: to each in turn one response, which carries its number
and its command, and then its events.  The stepper hears the requests one after another. -/
inductive Replies : Stepper → List Request → List Message → Prop
  | nothing (s : Stepper) : Replies s [] []
  | answered {s : Stepper} {r : Request} {rest : List Request} {response : Message}
      {told later : List Message}
      (responds : ∃ success message body, response.said =
        (("response" : Text), Content.response r.seq success r.command message body))
      (tells : told.map Message.said =
        (r.events s).map fun (name, body) => (("event" : Text), Content.event name body))
      (others : Replies (r.performOn s).1 rest later) :
      Replies s (r :: rest) (response :: (told ++ later))

/-! ## What a server does with a request -/

namespace Server

/-- What a server says and how it is changed is what the stepper makes of a request. -/
structure Hears (s : Server) (r : Request) (result : Server × Answer) : Prop where
  stepper_eq : result.1.stepper = (r.performOn s.stepper).1
  settings_eq : result.1.settings = result.1.stepper.settings
  events_eq : result.2.events = r.events s.stepper

variable {s : Server} {r : Request}

/-- A request that gives the stepper no command. -/
lemma hears_replying (agrees : s.settings = s.stepper.settings)
    (none : r.commandFor s.stepper = none) (other : r.command ≠ "initialize")
    (result : Except Text Json) : Hears s r (s.replying result) where
  stepper_eq := by rw [Request.performOn_of_none none, replying]
  settings_eq := agrees
  events_eq := by
    rw [Request.events_of_ne other, Request.performOn_of_none none]
    rfl

/-- A request that gives the stepper a command which leads to no events. -/
lemma hears_quiet (agrees : s.settings = s.stepper.settings) {command : Command}
    (given : r.commandFor s.stepper = some command) (other : r.command ≠ "initialize")
    (quiet : (s.stepper.perform command).2 = [])
    (steady : (s.stepper.perform command).1.settings = s.stepper.settings)
    (result : Except Text Json) :
    Hears s r ({ s with stepper := (s.stepper.perform command).1 }.replying result) where
  stepper_eq := by
    rw [Request.performOn_of_given given]
    rfl
  settings_eq := agrees.trans steady.symm
  events_eq := by
    rw [Request.events_of_ne other, Request.performOn_of_given given, quiet]
    rfl

/-- A request that lets the stepper do something and tells where it has come to. -/
lemma hears_step (agrees : s.settings = s.stepper.settings) {command : Command}
    (given : r.commandFor s.stepper = some command) (other : r.command ≠ "initialize")
    (steady : (s.stepper.perform command).1.settings = s.stepper.settings) :
    Hears s r (s.step command) where
  stepper_eq := by
    rw [Request.performOn_of_given given]
    rfl
  settings_eq := agrees.trans steady.symm
  events_eq := by
    rw [Request.events_of_ne other, Request.performOn_of_given given]
    rfl

/-- The greeting. -/
lemma hears_initialize (agrees : s.settings = s.stepper.settings) (named : r.command = "initialize")
    (result : Except Text Json) : Hears s r (s, ⟨result, [("initialized", none)]⟩) := by
  have none : r.commandFor s.stepper = none := by simp [Request.commandFor, named]
  constructor
  · rw [Request.performOn_of_none none]
  · exact agrees
  · rw [Request.events, if_pos named, Request.performOn_of_none none]
    rfl

/-- A patch over the settings. -/
lemma hears_configure (agrees : s.settings = s.stepper.settings)
    (named : r.command = "configure") : Hears s r (s.configure r.arguments) := by
  have given : r.commandFor s.stepper =
      (s.settings.merge r.arguments).toOption.map .configure := by
    rw [agrees, Request.commandFor, if_pos named]
  have other : r.command ≠ "initialize" := by simp [named]
  unfold configure
  cases merged : s.settings.merge r.arguments with
  | error e =>
      rw [merged] at given
      exact hears_replying agrees given other _
  | ok settings =>
      rw [merged] at given
      exact {
        stepper_eq := by
          rw [Request.performOn_of_given given]
          rfl
        settings_eq := rfl
        events_eq := by
          rw [Request.events_of_ne other, Request.performOn_of_given given]
          rfl }

/-- A run of a snippet is not the stepper's. -/
lemma hears_execute (agrees : s.settings = s.stepper.settings) (named : r.command = "execute") :
    Hears s r (s.execute r.arguments) := by
  have none : r.commandFor s.stepper = none := by simp [Request.commandFor, named]
  have other : r.command ≠ "initialize" := by simp [named]
  unfold execute
  cases Batch.Request.ofJson r.arguments with
  | error e => exact hears_replying agrees none other _
  | ok request =>
      have replied := hears_replying agrees none other (.ok ((s.engine.run request).1.toJson 0))
      exact ⟨replied.stepper_eq, replied.settings_eq, replied.events_eq⟩

/-- Neither is a judgement. -/
lemma hears_validate (agrees : s.settings = s.stepper.settings) (named : r.command = "validate") :
    Hears s r (s.validate r.arguments) := by
  have none : r.commandFor s.stepper = none := by simp [Request.commandFor, named]
  have other : r.command ≠ "initialize" := by simp [named]
  unfold validate
  cases Fix.Request.ofJson r.arguments with
  | error e => exact hears_replying agrees none other _
  | ok request => exact hears_replying agrees none other _

/-- A snippet to load. -/
lemma hears_load (agrees : s.settings = s.stepper.settings) (named : r.command = "load") :
    Hears s r (s.load r.arguments) := by
  have given : r.commandFor s.stepper =
      ((r.arguments.get? "code").bind Json.text?).map fun code =>
        .load code (((r.arguments.get? "language").bind Json.text?).map Language.ofTag) := by
    rw [Request.commandFor, if_neg (by simp [named]), if_pos named]
  have other : r.command ≠ "initialize" := by simp [named]
  unfold load
  cases found : (r.arguments.get? "code").bind Json.text? with
  | none =>
      rw [found] at given
      exact hears_replying agrees given other _
  | some code =>
      rw [found] at given
      exact hears_quiet agrees given other rfl rfl _

/-- A line that the arguments must give. -/
lemma hears_withLine (agrees : s.settings = s.stepper.settings) {command : Nat → Command}
    (given : r.commandFor s.stepper = (lineArgument r.arguments).toOption.map command)
    (other : r.command ≠ "initialize") {act : Nat → Server × Answer}
    (acts : ∀ line, r.commandFor s.stepper = some (command line) → Hears s r (act line)) :
    Hears s r (s.withLine r.arguments act) := by
  unfold withLine
  cases line : lineArgument r.arguments with
  | ok n =>
      rw [line] at given
      exact acts n given
  | error message =>
      rw [line] at given
      exact hears_replying agrees given other _

/-- **A server does with a request what the stepper makes of it**, and tells just its events. -/
theorem hears_answer (agrees : s.settings = s.stepper.settings) (r : Request) :
    Hears s r (s.answer r.command r.arguments) := by
  have keeps := s.stepper.perform_settings
  unfold answer
  refine iteInduction (motive := Hears s r) (fun named => ?_) fun notInitialize => ?_
  · exact hears_initialize agrees named _
  refine iteInduction (motive := Hears s r) (fun named => ?_) fun notConfigure => ?_
  · exact hears_configure agrees named
  refine iteInduction (motive := Hears s r) (fun named => ?_) fun _ => ?_
  · exact hears_execute agrees named
  refine iteInduction (motive := Hears s r) (fun named => ?_) fun _ => ?_
  · exact hears_validate agrees named
  refine iteInduction (motive := Hears s r) (fun named => ?_) fun notLoad => ?_
  · exact hears_load agrees named
  refine iteInduction (motive := Hears s r) (fun named => ?_) fun notToggle => ?_
  · have other : r.command ≠ "initialize" := by simp [named]
    have given : r.commandFor s.stepper =
        (lineArgument r.arguments).toOption.map .toggleBreakpoint := by
      simp [Request.commandFor, named]
    exact hears_withLine agrees given other fun line given =>
      hears_quiet agrees given other rfl rfl _
  refine iteInduction (motive := Hears s r) (fun named => ?_) fun notClear => ?_
  · have given : r.commandFor s.stepper = some .clearBreakpoints := by
      simp [Request.commandFor, named]
    exact hears_quiet agrees given (by simp [named]) rfl rfl _
  refine iteInduction (motive := Hears s r) (fun named => ?_) fun notOver => ?_
  · exact hears_step agrees (by simp [Request.commandFor, named]) (by simp [named]) (keeps _)
  refine iteInduction (motive := Hears s r) (fun named => ?_) fun notInto => ?_
  · exact hears_step agrees (by simp [Request.commandFor, named]) (by simp [named]) (keeps _)
  refine iteInduction (motive := Hears s r) (fun named => ?_) fun notOut => ?_
  · exact hears_step agrees (by simp [Request.commandFor, named]) (by simp [named]) (keeps _)
  refine iteInduction (motive := Hears s r) (fun named => ?_) fun notContinue => ?_
  · exact hears_step agrees (by simp [Request.commandFor, named]) (by simp [named]) (keeps _)
  refine iteInduction (motive := Hears s r) (fun named => ?_) fun notRunTo => ?_
  · have other : r.command ≠ "initialize" := by simp [named]
    have given : r.commandFor s.stepper = (lineArgument r.arguments).toOption.map .runTo := by
      simp [Request.commandFor, named]
    exact hears_withLine agrees given other fun line given =>
      hears_step agrees given other (keeps _)
  refine iteInduction (motive := Hears s r) (fun named => ?_) fun notStop => ?_
  · exact hears_step agrees (by simp [Request.commandFor, named]) (by simp [named]) (keeps _)
  refine iteInduction (motive := Hears s r) (fun named => ?_) fun notRestart => ?_
  · exact hears_step agrees (by simp [Request.commandFor, named]) (by simp [named]) (keeps _)
  -- none of the commands that are left is one for the stepper
  have none : r.commandFor s.stepper = none := by
    rw [Request.commandFor, if_neg notConfigure, if_neg notLoad, if_neg notToggle,
      if_neg notClear, if_neg notOver, if_neg notInto, if_neg notOut, if_neg notContinue,
      if_neg notRunTo, if_neg notStop, if_neg notRestart]
  have replied := hears_replying agrees none notInitialize
  refine iteInduction (motive := Hears s r) (fun _ => replied _) fun _ => ?_
  refine iteInduction (motive := Hears s r) (fun _ => replied _) fun _ => ?_
  refine iteInduction (motive := Hears s r) (fun _ => replied _) fun _ => ?_
  exact iteInduction (motive := Hears s r) (fun _ => replied _) fun _ => replied _

/-! ## What a server sends -/

lemma map_said_numbered (sent : Nat) (contents : List (Text × Content)) :
    (numbered sent contents).map Message.said = contents := by
  induction contents generalizing sent with
  | nil => rfl
  | cons content rest ih => rw [numbered, List.map_cons, ih, Message.said]

lemma map_seq_numbered (sent : Nat) (contents : List (Text × Content)) :
    (numbered sent contents).map Message.seq = List.range' (sent + 1) contents.length := by
  induction contents generalizing sent with
  | nil => rfl
  | cons content rest ih => rw [numbered, List.map_cons, ih, List.length_cons, List.range'_succ]

/-- Serve a request that has been read. -/
def respond (s : Server) (r : Request) : Server × List Message :=
  s.request r.seq r.command r.arguments

/-- The response comes first, and the events follow it. -/
lemma respond_eq_cons (s : Server) (r : Request) :
    let answer := (s.answer r.command r.arguments).2
    (s.respond r).2 =
      ⟨s.sent + 1, "response", response r.seq r.command answer.result⟩ ::
        numbered (s.sent + 1) (answer.events.map
          fun (name, body) => ("event", .event name body)) := rfl

/-- The messages sent for some requests, one after another. -/
def sendAll (s : Server) : List Request → List Message
  | [] => []
  | r :: rest => (s.respond r).2 ++ (s.respond r).1.sendAll rest

/-- The messages sent for a request are numbered on. -/
lemma respond_numbers (s : Server) (r : Request) :
    (s.respond r).2.map Message.seq = List.range' (s.sent + 1) (s.respond r).2.length ∧
      (s.respond r).1.sent = s.sent + (s.respond r).2.length := by
  have counted : ∀ contents, (numbered s.sent contents).length = contents.length := by
    intro contents
    have same := congrArg List.length (map_said_numbered s.sent contents)
    rwa [List.length_map] at same
  constructor
  · rw [respond, request, map_seq_numbered, counted]
  · rw [respond, request, counted]

/-- **Messages are numbered without gap or repeat.** -/
theorem sendAll_numbers (s : Server) (requests : List Request) :
    (s.sendAll requests).map Message.seq =
      List.range' (s.sent + 1) (s.sendAll requests).length := by
  induction requests generalizing s with
  | nil => rfl
  | cons r rest ih =>
      obtain ⟨here, sent⟩ := s.respond_numbers r
      rw [sendAll, List.map_append, here, ih, sent, List.length_append, Nat.add_right_comm,
        List.range'_append_1]

/-- A response carries the number and the command of its request. -/
lemma response_said (sent : Nat) (r : Request) (result : Except Text Json) :
    ∃ success message body,
      (⟨sent + 1, "response", response r.seq r.command result⟩ : Message).said =
        (("response" : Text), Content.response r.seq success r.command message body) := by
  cases result with
  | error message => exact ⟨false, some message, none, rfl⟩
  | ok body => exact ⟨true, none, some body, rfl⟩

/-- **What a server sends replies to the requests it serves.** -/
theorem replies_sendAll (agrees : s.settings = s.stepper.settings) (requests : List Request) :
    Replies s.stepper requests (s.sendAll requests) := by
  induction requests generalizing s with
  | nil => exact .nothing s.stepper
  | cons r rest ih =>
      have heard := s.hears_answer agrees r
      have others : Replies (r.performOn s.stepper).1 rest ((s.respond r).1.sendAll rest) :=
        heard.stepper_eq ▸ ih (s := (s.respond r).1) heard.settings_eq
      rw [sendAll, respond_eq_cons, List.cons_append]
      refine .answered (response_said s.sent r _) ?_ others
      rw [map_said_numbered, heard.events_eq]

/-! ## Payloads -/

/-- What is no request is passed over. -/
lemma receive_of_none {payload : Bytes} (h : Request.read? payload = none) :
    s.receive payload = (s, [], true) := by
  unfold Request.read? at h
  unfold receive
  cases said : (decodeText? payload).bind Message.read? with
  | none => rfl
  | some m =>
      obtain ⟨seq, kind, content⟩ := m
      rw [said] at h
      cases content with
      | request command arguments => cases h
      | response requestSeq success command message body => rfl
      | event name body => rfl

/-- A request is served, and it may be the last. -/
lemma receive_of_some {payload : Bytes} (h : Request.read? payload = some r) :
    s.receive payload = ((s.respond r).1, (s.respond r).2, !r.disconnects) := by
  unfold Request.read? at h
  unfold receive
  cases said : (decodeText? payload).bind Message.read? with
  | none =>
      rw [said] at h
      cases h
  | some m =>
      obtain ⟨seq, kind, content⟩ := m
      rw [said] at h
      cases content with
      | request command arguments =>
          cases h
          rfl
      | response requestSeq success command message body => cases h
      | event name body => cases h

/-- **The messages sent for payloads are those sent for the requests that are served.** -/
theorem receiveAll_eq_sendAll (s : Server) (payloads : List Bytes) :
    (s.receiveAll payloads).1 =
      s.sendAll (Request.served (payloads.filterMap Request.read?)) := by
  induction payloads generalizing s with
  | nil => rfl
  | cons payload rest ih =>
      rw [receiveAll]
      cases found : Request.read? payload with
      | none =>
          rw [receive_of_none found, List.filterMap_cons_none found]
          exact ih s
      | some r =>
          rw [receive_of_some found, List.filterMap_cons_some found, Request.served]
          cases last : r.disconnects with
          | true => simp [sendAll]
          | false => simp [sendAll, ih]

end Server

/-! ## The result -/

lemma serve_eq_sendAll (settings : Settings) (input : Bytes) :
    (serve settings input).1 =
      (Server.start settings).sendAll
        (Request.served ((readAll input).1.filterMap Request.read?)) := by
  rw [serve, Server.receiveAll_eq_sendAll]

/-- Requests after one that disconnects are not served. -/
lemma Request.served_append {requests : List Request} (h : ∃ r ∈ requests, r.disconnects = true)
    (later : List Request) : served (requests ++ later) = served requests := by
  induction requests with
  | nil =>
      obtain ⟨r, none, -⟩ := h
      cases none
  | cons r rest ih =>
      rw [List.cons_append, served, served]
      split
      · rfl
      · rename_i goesOn
        obtain ⟨other, found, last⟩ := h
        rcases List.mem_cons.1 found with rfl | found
        · exact absurd last goesOn
        · rw [ih ⟨other, found, last⟩]

/-- Requests can be read off some payloads when those are left out that are none. -/
lemma filterMap_filter_read? {deliveries : List Delivery} {keep : Delivery → Bool}
    (h : ∀ d ∈ deliveries, keep d = false → Request.read? d.payload = none) :
    ((deliveries.filter keep).map Delivery.payload).filterMap Request.read? =
      (deliveries.map Delivery.payload).filterMap Request.read? := by
  induction deliveries with
  | nil => rfl
  | cons d rest ih =>
      have later := ih fun other found => h other (List.mem_cons_of_mem d found)
      cases kept : keep d with
      | false =>
          rw [List.filter_cons_of_neg (by simp [kept]), later, List.map_cons,
            List.filterMap_cons_none (h d List.mem_cons_self kept)]
      | true =>
          rw [List.filter_cons_of_pos kept, List.map_cons, List.map_cons, List.filterMap_cons,
            List.filterMap_cons, later]

/-- What is no request may be left out of an input. -/
theorem serve_filter (settings : Settings) {deliveries : List Delivery} {keep : Delivery → Bool}
    (h : ∀ d ∈ deliveries, keep d = false → Request.read? d.payload = none) (tail : Bytes) :
    (serve settings (stream (deliveries.filter keep) ++ tail)).1 =
      (serve settings (stream deliveries ++ tail)).1 := by
  rw [serve_eq_sendAll, serve_eq_sendAll, readAll_stream, readAll_stream, List.filterMap_append,
    List.filterMap_append, filterMap_filter_read? h]

/-- Some bytes complete a request that disconnects. -/
def Disconnects (input : Bytes) : Prop :=
  ∃ payload ∈ (Reader.start.feed input).1, ∃ r, Request.read? payload = some r ∧
    r.disconnects = true

/-- The requests served of an input are those of its first bytes if these disconnect. -/
lemma Disconnects.served {input : Bytes} (h : Disconnects input) (later : Bytes) :
    Request.served ((readAll (input ++ later)).1.filterMap Request.read?) =
      Request.served ((Reader.start.feed input).1.filterMap Request.read?) := by
  obtain ⟨payload, found, r, said, last⟩ := h
  obtain ⟨more, read⟩ := exists_readAll_append input later
  rw [read, List.filterMap_append, Request.served_append]
  exact ⟨r, List.mem_filterMap.2 ⟨payload, found, said⟩, last⟩

/-- What follows a disconnect is not looked at. -/
theorem serve_append (settings : Settings) {input : Bytes} (h : Disconnects input)
    (later : Bytes) : (serve settings (input ++ later)).1 = (serve settings input).1 := by
  have whole := h.served []
  rw [List.append_nil] at whole
  rw [serve_eq_sendAll, serve_eq_sendAll, h.served later, whole]

/-- **Every request is answered once, in order.**  The messages sent for an input are numbered from
one on, and reply to the requests among its payloads up to the first that disconnects: one response
to each, with the number and the command of the request, followed by the events that it gave rise
to.  An input consists of deliveries and a rest without a payload; leaving out any deliveries that
are no requests changes nothing, and neither does what follows a disconnect. -/
theorem requests_are_answered (settings : Settings) (input : Bytes) :
    let messages := (serve settings input).1
    messages.map Message.seq = List.range' 1 messages.length ∧
      Replies (.new settings) (Request.served ((readAll input).1.filterMap Request.read?))
        messages ∧
      (∃ (deliveries : List Delivery) (tail : Bytes),
        input = stream deliveries ++ tail ∧ (Reader.start.feed tail).1 = []) ∧
      (∀ (deliveries : List Delivery) (tail : Bytes) (keep : Delivery → Bool),
        input = stream deliveries ++ tail →
        (∀ d ∈ deliveries, keep d = false → Request.read? d.payload = none) →
        (serve settings (stream (deliveries.filter keep) ++ tail)).1 = messages) ∧
      ∀ later : Bytes, Disconnects input → (serve settings (input ++ later)).1 = messages := by
  intro messages
  have sent : messages = (Server.start settings).sendAll _ := serve_eq_sendAll settings input
  refine ⟨?_, ?_, exists_deliveries input, ?_, ?_⟩
  · rw [sent]
    exact Server.sendAll_numbers _ _
  · rw [sent]
    exact (Server.start settings).replies_sendAll rfl _
  · rintro deliveries tail keep rfl others
    exact serve_filter settings others tail
  · exact fun later leaves => serve_append settings leaves later

/-- A delivery that is no message. -/
def Delivery.noise : Delivery where
  bytes := encodeText "Content-Length: 2\n\nhi"
  payload := encodeText "hi"
  delivers := by rfl

/-- A delivery that disconnects. -/
def Delivery.leave : Delivery where
  bytes := encodeText
    "Content-Length: 43\n\n\x7b\"seq\":7,\"type\":\"a\",\"command\":\"disconnect\"\x7d"
  payload := encodeText "\x7b\"seq\":7,\"type\":\"a\",\"command\":\"disconnect\"\x7d"
  delivers := by decide +kernel

/-- A disconnect after noise: the noise may be left out, and noise may follow. -/
theorem requests_are_answered_amid_noise :
    let input := stream [.noise, .leave]
    (serve .standard (stream [.leave])).1 = (serve .standard input).1 ∧
      (serve .standard (input ++ Delivery.noise.bytes)).1 = (serve .standard input).1 := by
  intro input
  obtain ⟨-, -, -, leftOut, follows⟩ := requests_are_answered .standard input
  have noise : Request.read? Delivery.noise.payload = none := by decide +kernel
  have leave : Request.read? Delivery.leave.payload = some ⟨7, "disconnect", .null⟩ := by rfl
  have others : ∀ d ∈ [Delivery.noise, Delivery.leave],
      (Request.read? d.payload).isSome = false → Request.read? d.payload = none :=
    fun d _ none => by simpa using none
  have kept : [Delivery.noise, Delivery.leave].filter
      (fun d => (Request.read? d.payload).isSome) = [.leave] := by
    simp [noise, leave]
  have leaves : Disconnects input :=
    ⟨Delivery.leave.payload, by simp [input, feed_stream], _, leave, rfl⟩
  constructor
  · have same := leftOut _ [] _ (List.append_nil _).symm others
    rwa [kept, List.append_nil] at same
  · exact follows _ leaves

end SnippetLab.Host

import SnippetLab.Proofs.Batch.Threads
import SnippetLab.Proofs.Host.Replies

/-!
# What a request comes to

A server's own thread holds settings and a stepper; the engine works for it and is never asked.  So
**what a request comes to is settled by the settings and the stepper alone**: it is refused, it is a
run for the engine, it sets settings or gives the stepper a command, or it is merely answered.
Everything a server does follows from these five outcomes.

* `Front` — what a server holds besides its engine.
* `Request.outcome` — what a request comes to.
* `Server.perform` — what a server does at an outcome.
* `Server.answer_eq` — **a server does just that.**
* `Front.speech`, `reported` — what is said at an outcome, but for the report of a run, and that.
-/

namespace SnippetLab.Host

/-- What a server holds besides its engine. -/
structure Front where
  settings : Settings
  stepper : Stepper
  deriving DecidableEq

/-- What a request comes to. -/
inductive Outcome where
  /-- Nothing is done, and the response says why. -/
  | refuses (message : Text)
  /-- The engine runs a snippet. -/
  | runs (request : Batch.Request)
  /-- Other settings are in force. -/
  | configures (settings : Settings)
  /-- The stepper performs a command, and the response says something about it afterwards. -/
  | commands (command : Command) (body : Stepper → Json)
  /-- Nothing is done but to say something. -/
  | tells (body : Json) (events : List (Text × Option Json))

/-! ## The outcome of a request -/

namespace Outcome

/-- The outcome of a command that needs a line. -/
def withLine (arguments : Json) (act : Nat → Outcome) : Outcome :=
  match Server.lineArgument arguments with
  | .ok line => act line
  | .error message => .refuses message

/-- The outcome of a command that lets the stepper do something: the response says where it has come
to. -/
def steps (command : Command) : Outcome :=
  .commands command fun stepper => Json.object
    [("state", .str stepper.phase.name), ("line", Json.ofOption Json.nat stepper.currentLine)]

end Outcome

namespace Request

/-- The outcome of a patch over the settings. -/
def configuring (r : Request) (f : Front) : Outcome :=
  match f.settings.merge r.arguments with
  | .error e => .refuses e.message
  | .ok settings => .configures settings

/-- The outcome of a request to run a snippet. -/
def executing (r : Request) : Outcome :=
  match Batch.Request.ofJson r.arguments with
  | .error e => .refuses e.message
  | .ok request => .runs request

/-- The outcome of a request to judge a learner's code. -/
def validating (r : Request) : Outcome :=
  match Fix.Request.ofJson r.arguments with
  | .error e => .refuses e.message
  | .ok request => .tells (Fix.validate request).toJson []

/-- The outcome of a request to load a snippet. -/
def loading (r : Request) : Outcome :=
  match (r.arguments.get? "code").bind Json.text? with
  | none => .refuses "missing `code`"
  | some code =>
    .commands (.load code (((r.arguments.get? "language").bind Json.text?).map Language.ofTag))
      fun stepper => Json.object
        [("lines", .nat stepper.program.length),
          ("language", .str stepper.program.language.tag)]

/-- The outcome of a breakpoint to be set or removed. -/
def toggling (r : Request) : Outcome :=
  .withLine r.arguments fun line => .commands (.toggleBreakpoint line) fun stepper => Json.object
    [("line", .nat line), ("enabled", .bool (stepper.breakpoints.contains line)),
      ("breakpoints", .arr (stepper.breakpoints.map Json.nat))]

/-- **What a request comes to.** -/
def outcome (r : Request) (f : Front) : Outcome :=
  if r.command = "initialize" then
    .tells (Json.object [("commands", .arr (commandNames.map .str))]) [("initialized", none)]
  else if r.command = "configure" then r.configuring f
  else if r.command = "execute" then r.executing
  else if r.command = "validate" then r.validating
  else if r.command = "load" then r.loading
  else if r.command = "toggleBreakpoint" then r.toggling
  else if r.command = "clearBreakpoints" then .commands .clearBreakpoints fun _ => Json.object []
  else if r.command = "stepOver" then .steps .stepOver
  else if r.command = "stepInto" then .steps .stepInto
  else if r.command = "stepOut" then .steps .stepOut
  else if r.command = "continue" then .steps .resume
  else if r.command = "runToLine" then .withLine r.arguments fun line => .steps (.runTo line)
  else if r.command = "stop" then .steps .stop
  else if r.command = "restart" then .steps .restart
  else if r.command = "variables" then
    .tells (Json.object
      [("variables", .arr (f.stepper.session.bindings.map fun v => v.2.toJson))]) []
  else if r.command = "stackTrace" then
    .tells (Json.object [("frames", .arr (f.stepper.session.stack.frames.map Frame.toJson))]) []
  else if r.command = "history" then
    .tells (Json.object [("steps", .arr (f.stepper.session.history.map HistoryEntry.toJson))]) []
  else if r.command = "disconnect" then .tells (Json.object []) []
  else .refuses ("unknown command: " ++ r.command)

end Request

/-! ## What a server does at an outcome -/

/-- The part of a server that is not its engine. -/
def Server.front (s : Server) : Front := ⟨s.settings, s.stepper⟩

/-- The events that a stepper reports, as they are told. -/
def told (events : List Event) : List (Text × Option Json) :=
  events.map fun event => (event.name, some event.body)

/-- **What a server does at an outcome.** -/
def Server.perform (s : Server) : Outcome → Server × Answer
  | .refuses message => s.replying (.error message)
  | .runs request =>
    { s with engine := (s.engine.run request).2 }.replying
      (.ok ((s.engine.run request).1.toJson 0))
  | .configures settings =>
    { s with
      settings
      stepper := (s.stepper.perform (.configure settings)).1
      engine := { s.engine with settings } }.replying (.ok settings.toJson)
  | .commands command body =>
    ({ s with stepper := (s.stepper.perform command).1 },
      ⟨.ok (body (s.stepper.perform command).1), told (s.stepper.perform command).2⟩)
  | .tells body events => (s, ⟨.ok body, events⟩)

namespace Server

variable {s : Server} {r : Request}

lemma perform_withLine {act : Nat → Server × Answer} {outcome : Nat → Outcome}
    (acts : ∀ line, act line = s.perform (outcome line)) :
    s.withLine r.arguments act = s.perform (.withLine r.arguments outcome) := by
  unfold withLine Outcome.withLine
  cases lineArgument r.arguments with
  | ok line => exact acts line
  | error message => rfl

lemma configure_eq : s.configure r.arguments = s.perform (r.configuring s.front) := by
  unfold configure Request.configuring front
  cases s.settings.merge r.arguments with
  | error e => rfl
  | ok settings => rfl

lemma execute_eq : s.execute r.arguments = s.perform r.executing := by
  unfold execute Request.executing
  cases Batch.Request.ofJson r.arguments with
  | error e => rfl
  | ok request => rfl

lemma validate_eq : s.validate r.arguments = s.perform r.validating := by
  unfold validate Request.validating
  cases Fix.Request.ofJson r.arguments with
  | error e => rfl
  | ok request => rfl

lemma load_eq : s.load r.arguments = s.perform r.loading := by
  unfold load Request.loading
  cases (r.arguments.get? "code").bind Json.text? with
  | none => rfl
  | some code => rfl

/-- The same choice between what is done and between what is to be done. -/
lemma perform_ite {condition : Prop} [Decidable condition] {done otherwise : Server × Answer}
    {here there : Outcome} (same : condition → done = s.perform here)
    (other : ¬condition → otherwise = s.perform there) :
    (if condition then done else otherwise) = s.perform (if condition then here else there) := by
  split
  · exact same ‹_›
  · exact other ‹_›

/-- **A server does with a request what its outcome says.** -/
theorem answer_eq (s : Server) (r : Request) :
    s.answer r.command r.arguments = s.perform (r.outcome s.front) := by
  unfold answer Request.outcome
  refine perform_ite (fun _ => rfl) fun _ => ?_
  refine perform_ite (fun _ => configure_eq) fun _ => ?_
  refine perform_ite (fun _ => execute_eq) fun _ => ?_
  refine perform_ite (fun _ => validate_eq) fun _ => ?_
  refine perform_ite (fun _ => load_eq) fun _ => ?_
  refine perform_ite (fun _ => perform_withLine fun _ => rfl) fun _ => ?_
  refine perform_ite (fun _ => rfl) fun _ => ?_
  refine perform_ite (fun _ => rfl) fun _ => ?_
  refine perform_ite (fun _ => rfl) fun _ => ?_
  refine perform_ite (fun _ => rfl) fun _ => ?_
  refine perform_ite (fun _ => rfl) fun _ => ?_
  refine perform_ite (fun _ => perform_withLine fun _ => rfl) fun _ => ?_
  refine perform_ite (fun _ => rfl) fun _ => ?_
  refine perform_ite (fun _ => rfl) fun _ => ?_
  refine perform_ite (fun _ => rfl) fun _ => ?_
  refine perform_ite (fun _ => rfl) fun _ => ?_
  refine perform_ite (fun _ => rfl) fun _ => ?_
  exact perform_ite (fun _ => rfl) fun _ => rfl

end Server

/-! ## The two sides of a server -/

/-- A response, as it is said. -/
def reply (seq : Nat) (command : Text) (result : Except Text Json) : Text × Content :=
  ("response", Server.response seq command result)

/-- An event, as it is said. -/
def Content.told (event : Text × Option Json) : Text × Content :=
  ("event", .event event.1 event.2)

/-- The response that carries a report. -/
def reported (seq : Nat) (report : Batch.Report) : Text × Content :=
  reply seq "execute" (.ok (report.toJson 0))

/-- The front of a server at an outcome. -/
def Front.after (f : Front) : Outcome → Front
  | .configures settings => ⟨settings, (f.stepper.perform (.configure settings)).1⟩
  | .commands command _ => { f with stepper := (f.stepper.perform command).1 }
  | .refuses _ | .runs _ | .tells _ _ => f

/-- **What the front says at an outcome**: all but the report of a run. -/
def Front.speech (f : Front) (r : Request) : Outcome → List (Text × Content)
  | .refuses message => [reply r.seq r.command (.error message)]
  | .runs _ => []
  | .configures settings => [reply r.seq r.command (.ok settings.toJson)]
  | .commands command body =>
    reply r.seq r.command (.ok (body (f.stepper.perform command).1)) ::
      (told (f.stepper.perform command).2).map Content.told
  | .tells body events => reply r.seq r.command (.ok body) :: events.map Content.told

/-- **What the engine has to do at an outcome**; the callback is for a run. -/
def Outcome.orders {κ : Type} (callback : κ) : Outcome → List (Batch.Order κ)
  | .runs request => [.run request callback]
  | .configures settings => [.configure settings]
  | .refuses _ | .commands _ _ | .tells _ _ => []

/-! ## Which commands have which outcomes -/

/-- The commands of a debugging session. -/
def sessionCommands : List Text :=
  ["load", "toggleBreakpoint", "clearBreakpoints", "stepOver", "stepInto", "stepOut", "continue",
    "runToLine", "stop", "restart"]

/-- The commands that change nothing themselves; a run is the engine's. -/
def queryCommands : List Text :=
  ["initialize", "execute", "validate", "variables", "stackTrace", "history"]

/-- **Why a request is refused**, under settings in force. -/
inductive Request.Refused (r : Request) (settings : Settings) : Prop
  /-- Nobody knows the command. -/
  | unknown (strange : r.command ∉ commandNames)
  /-- A patch does not fit the settings. -/
  | patch (named : r.command = "configure") (misfit : ∀ s, settings.merge r.arguments ≠ .ok s)
  /-- The arguments are no request for a run. -/
  | run (named : r.command = "execute") (misfit : ∀ q, Batch.Request.ofJson r.arguments ≠ .ok q)
  /-- The arguments are no request for a verdict. -/
  | verdict (named : r.command = "validate")
      (misfit : ∀ q, Fix.Request.ofJson r.arguments ≠ .ok q)
  /-- There is no code to load. -/
  | code (named : r.command = "load") (missing : (r.arguments.get? "code").bind Json.text? = none)
  /-- There is no positive number of a line. -/
  | line (named : r.command = "toggleBreakpoint" ∨ r.command = "runToLine")
      (missing : ∀ n > 0, (r.arguments.get? "line").bind Json.word? ≠ some n)

/-- **Is an outcome one that a request can have**, under settings in force? -/
def Outcome.Suits (r : Request) (settings : Settings) : Outcome → Prop
  | .refuses _ => r.Refused settings
  | .runs _ => r.command = "execute"
  | .configures _ => r.command = "configure"
  | .commands _ _ => r.command ∈ sessionCommands
  | .tells _ events =>
    (r.command ∈ queryCommands ∧ r.command ≠ "execute" ∨ r.command = "disconnect") ∧
      (events = [] ∨ events = [(("initialized" : Text), none)])

section

variable {f : Front} {r : Request}

/-- A line that is missing is no positive number. -/
lemma line_missing_iff {arguments : Json} :
    (∃ message, Server.lineArgument arguments = .error message) ↔
      ∀ n > 0, (arguments.get? "line").bind Json.word? ≠ some n := by
  unfold Server.lineArgument
  cases given : (arguments.get? "line").bind Json.word? with
  | none => simp
  | some n =>
      by_cases positive : 0 < n
      · have kept : (some n).filter (0 < ·) = some n := by simp [positive]
        rw [kept]
        refine iff_of_false ?_ fun none => none n positive rfl
        rintro ⟨message, same⟩
        cases same
      · have dropped : (some n).filter (0 < ·) = none := by simpa using positive
        rw [dropped]
        refine iff_of_true ⟨_, rfl⟩ fun m more same => ?_
        cases same
        exact positive more

lemma Outcome.suits_withLine {act : Nat → Outcome}
    (named : r.command = "toggleBreakpoint" ∨ r.command = "runToLine")
    (acts : ∀ line, (act line).Suits r f.settings) :
    (withLine r.arguments act).Suits r f.settings := by
  unfold withLine
  cases given : Server.lineArgument r.arguments with
  | ok line => exact acts line
  | error message => exact .line named (line_missing_iff.1 ⟨message, given⟩)

lemma Request.suits_configuring (named : r.command = "configure") :
    (r.configuring f).Suits r f.settings := by
  unfold configuring
  cases given : f.settings.merge r.arguments with
  | error e => exact .patch named (by simp [given])
  | ok settings => exact named

lemma Request.suits_executing (named : r.command = "execute") :
    r.executing.Suits r f.settings := by
  unfold executing
  cases given : Batch.Request.ofJson r.arguments with
  | error e => exact .run named (by simp [given])
  | ok request => exact named

lemma Request.suits_validating (named : r.command = "validate") :
    r.validating.Suits r f.settings := by
  unfold validating
  cases given : Fix.Request.ofJson r.arguments with
  | error e => exact .verdict named (by simp [given])
  | ok request => simp [Outcome.Suits, queryCommands, named]

lemma Request.suits_loading (named : r.command = "load") : r.loading.Suits r f.settings := by
  unfold loading
  cases given : (r.arguments.get? "code").bind Json.text? with
  | none => exact .code named given
  | some code => simp [Outcome.Suits, sessionCommands, named]

/-- **Every request comes to what its command can come to.** -/
theorem Request.suits_outcome (r : Request) (f : Front) : (r.outcome f).Suits r f.settings := by
  have session : r.command ∈ sessionCommands → ∀ command body,
      (Outcome.commands command body).Suits r f.settings := fun listed _ _ => listed
  have query : r.command ∈ queryCommands ∧ r.command ≠ "execute" → ∀ body,
      (Outcome.tells body []).Suits r f.settings := fun listed _ => ⟨Or.inl listed, Or.inl rfl⟩
  let P : Outcome → Prop := Outcome.Suits r f.settings
  unfold outcome
  refine iteInduction (motive := P) (fun named => ?_) fun notInitialize => ?_
  · exact ⟨Or.inl (by simp [queryCommands, named]), Or.inr rfl⟩
  refine iteInduction (motive := P) suits_configuring fun notConfigure => ?_
  refine iteInduction (motive := P) suits_executing fun notExecute => ?_
  refine iteInduction (motive := P) suits_validating fun notValidate => ?_
  refine iteInduction (motive := P) suits_loading fun notLoad => ?_
  refine iteInduction (motive := P) (fun named => ?_) fun notToggle => ?_
  · exact Outcome.suits_withLine (Or.inl named) fun _ =>
      session (by simp [sessionCommands, named]) _ _
  refine iteInduction (motive := P) (fun named => ?_) fun notClear => ?_
  · exact session (by simp [sessionCommands, named]) _ _
  refine iteInduction (motive := P) (fun named => ?_) fun notOver => ?_
  · exact session (by simp [sessionCommands, named]) _ _
  refine iteInduction (motive := P) (fun named => ?_) fun notInto => ?_
  · exact session (by simp [sessionCommands, named]) _ _
  refine iteInduction (motive := P) (fun named => ?_) fun notOut => ?_
  · exact session (by simp [sessionCommands, named]) _ _
  refine iteInduction (motive := P) (fun named => ?_) fun notContinue => ?_
  · exact session (by simp [sessionCommands, named]) _ _
  refine iteInduction (motive := P) (fun named => ?_) fun notRunTo => ?_
  · exact Outcome.suits_withLine (Or.inr named) fun _ =>
      session (by simp [sessionCommands, named]) _ _
  refine iteInduction (motive := P) (fun named => ?_) fun notStop => ?_
  · exact session (by simp [sessionCommands, named]) _ _
  refine iteInduction (motive := P) (fun named => ?_) fun notRestart => ?_
  · exact session (by simp [sessionCommands, named]) _ _
  refine iteInduction (motive := P) (fun named => ?_) fun notVariables => ?_
  · exact query (by simp [queryCommands, named]) _
  refine iteInduction (motive := P) (fun named => ?_) fun notStackTrace => ?_
  · exact query (by simp [queryCommands, named]) _
  refine iteInduction (motive := P) (fun named => ?_) fun notHistory => ?_
  · exact query (by simp [queryCommands, named]) _
  refine iteInduction (motive := P) (fun named => ?_) fun notDisconnect => ?_
  · exact ⟨Or.inr named, Or.inl rfl⟩
  refine .unknown fun known => ?_
  simp only [commandNames, List.mem_cons, List.not_mem_nil, or_false] at known
  simp_all only [or_self]

end

/-- A request for a run comes to a run or is refused. -/
lemma Request.outcome_execute {r : Request} {f : Front} (named : r.command = "execute") :
    r.outcome f = r.executing := by
  rw [outcome, if_neg (by simp [named]), if_neg (by simp [named]), if_pos named]

/-- A request for a verdict comes to one or is refused. -/
lemma Request.outcome_validate {r : Request} {f : Front} (named : r.command = "validate") :
    r.outcome f = r.validating := by
  rw [outcome, if_neg (by simp [named]), if_neg (by simp [named]), if_neg (by simp [named]),
    if_pos named]

/-- A request to load a snippet is that or refused. -/
lemma Request.outcome_load {r : Request} {f : Front} (named : r.command = "load") :
    r.outcome f = r.loading := by
  rw [outcome, if_neg (by simp [named]), if_neg (by simp [named]), if_neg (by simp [named]),
    if_neg (by simp [named]), if_pos named]

/-- A command for a line is that or refused. -/
lemma Request.outcome_line {r : Request} {f : Front}
    (named : r.command = "toggleBreakpoint" ∨ r.command = "runToLine") :
    ∃ act, r.outcome f = .withLine r.arguments act := by
  unfold outcome
  rcases named with named | named
  · rw [named]
    exact ⟨_, rfl⟩
  · rw [named]
    exact ⟨_, rfl⟩

/-- A patch is laid over the settings or refused. -/
lemma Request.outcome_configure {r : Request} {f : Front} (named : r.command = "configure") :
    r.outcome f = r.configuring f := by
  rw [outcome, if_neg (by simp [named]), if_pos named]

/-! ## Serving a request -/

namespace Server

/-- The front after a request. -/
lemma front_respond (s : Server) (r : Request) :
    (s.respond r).1.front = s.front.after (r.outcome s.front) := by
  have answered : (s.respond r).1.front = (s.answer r.command r.arguments).1.front := rfl
  rw [answered, answer_eq]
  cases r.outcome s.front with
  | _ => rfl

/-- The engine after a request. -/
lemma engine_respond (s : Server) (r : Request) :
    (s.respond r).1.engine = s.engine.afterOrders ((r.outcome s.front).orders r.seq) := by
  have answered : (s.respond r).1.engine = (s.answer r.command r.arguments).1.engine := rfl
  rw [answered, answer_eq]
  cases r.outcome s.front with
  | _ => rfl

/-- **What is said to a request**: what the front says, and the report if it is a run. -/
lemma said_respond (s : Server) (r : Request) :
    (s.respond r).2.map Message.said = s.front.speech r (r.outcome s.front) ++
      (Batch.handed s.engine ((r.outcome s.front).orders r.seq)).map
        fun call => reported call.1 call.2 := by
  have suits := r.suits_outcome s.front
  rw [respond_eq_cons, List.map_cons, map_said_numbered, answer_eq]
  cases came : r.outcome s.front with
  | runs request =>
      rw [came] at suits
      have named : r.command = "execute" := suits
      show [reply r.seq r.command (.ok ((s.engine.run request).1.toJson 0))] =
        [reply r.seq "execute" (.ok ((s.engine.run request).1.toJson 0))]
      rw [named]
  | refuses message | configures settings | commands command body | tells body events =>
      exact (List.append_nil _).symm

end Server

/-- **The settings of the server are those of its stepper.** -/
def Front.Agrees (f : Front) : Prop := f.settings = f.stepper.settings

/-- They remain so. -/
lemma Front.Agrees.after {f : Front} (agrees : f.Agrees) (r : Request) :
    (f.after (r.outcome f)).Agrees := by
  let s : Server := ⟨f.settings, f.stepper, .new f.settings, 0⟩
  have heard : (s.answer r.command r.arguments).1.front.Agrees :=
    (s.hears_answer agrees r).settings_eq
  have here : (s.answer r.command r.arguments).1.front = f.after (r.outcome f) :=
    s.front_respond r
  rwa [here] at heard

/-! ## Reports among the messages -/

/-- **Is a message the report of a run?**  A request to run a snippet that is refused is answered
too, but without success. -/
def isReport : Text × Content → Bool
  | (_, .response _ true command _ _) => command == "execute"
  | _ => false

lemma isReport_reported (seq : Nat) (report : Batch.Report) :
    isReport (reported seq report) = true := rfl

/-- **What the front says to a request**: why it is refused; or a response with success, which a run
never has from the front; or an event, which a command of a session has, and the greeting. -/
lemma Front.speech_cases {f : Front} {r : Request} {m : Text × Content}
    (said : m ∈ f.speech r (r.outcome f)) :
    (∃ message, m = reply r.seq r.command (.error message)) ∨
      (r.command ≠ "execute" ∧ ∃ body, m = reply r.seq r.command (.ok body)) ∨
      ∃ event, m = Content.told event ∧
        (r.command ∈ sessionCommands ∨ event = (("initialized" : Text), none)) := by
  have suits := r.suits_outcome f
  generalize r.outcome f = outcome at said suits
  cases outcome with
  | refuses message => exact .inl ⟨message, List.mem_singleton.1 said⟩
  | runs request => cases said
  | configures settings =>
      have named : r.command = "configure" := suits
      exact .inr (.inl ⟨by simp [named], _, List.mem_singleton.1 said⟩)
  | commands command body =>
      have listed : r.command ∈ sessionCommands := suits
      rcases List.mem_cons.1 said with response | later
      · refine .inr (.inl ⟨fun execute => ?_, _, response⟩)
        rw [execute] at listed
        exact absurd listed (by decide)
      · obtain ⟨event, -, rfl⟩ := List.mem_map.1 later
        exact .inr (.inr ⟨event, rfl, .inl listed⟩)
  | tells body events =>
      obtain ⟨named, greets⟩ := suits
      rcases List.mem_cons.1 said with response | later
      · refine .inr (.inl ⟨?_, _, response⟩)
        rcases named with ⟨-, different⟩ | leaves
        · exact different
        · simp [leaves]
      · obtain ⟨event, listed, rfl⟩ := List.mem_map.1 later
        rcases greets with none | greeting
        · rw [none] at listed
          cases listed
        · rw [greeting] at listed
          exact .inr (.inr ⟨event, rfl, .inr (List.mem_singleton.1 listed)⟩)

/-- **The front says no reports.** -/
lemma isReport_speech {f : Front} {r : Request} {m : Text × Content}
    (said : m ∈ f.speech r (r.outcome f)) : isReport m = false := by
  rcases Front.speech_cases said with ⟨message, rfl⟩ | ⟨other, body, rfl⟩ | ⟨event, rfl, -⟩
  · rfl
  · exact beq_false_of_ne other
  · rfl

end SnippetLab.Host

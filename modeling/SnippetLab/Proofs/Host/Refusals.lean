import SnippetLab.Proofs.Host.Service

/-!
# A refused request changes nothing

A request is refused before anything is done for it, so **a response without success is all that
comes of a request**: no event, no other settings, no command for the stepper and no order for the
worker.  The settings are kept in three places, and they are the same in all three; those of a worker
are the ones it will have when it has done what it was given before.

* `Request.refused_iff` — requests are refused for the reasons listed, and for no others.
* `Server.Reachable`, `Server.Reachable.agrees` — the servers that some payloads lead to, and their
  settings.
* `Server.respond_of_failure` — **what a response without success tells of a server.**
* `Service.Run.agrees`, `Service.serve_of_failure` — the same for a host with its worker beside it.
* `refused_requests_change_nothing` — refusals, and the three settings.
-/

namespace SnippetLab.Host

open Batch (Order Threads)

/-! ## Why requests are refused -/

/-- A command that nobody knows is refused. -/
lemma Request.outcome_unknown {r : Request} {f : Front} (strange : r.command ∉ commandNames) :
    r.outcome f = .refuses ("unknown command: " ++ r.command) := by
  simp only [commandNames, List.mem_cons, List.not_mem_nil, or_false, not_or] at strange
  simp only [outcome, strange, if_false]

/-- **A request is refused for one of the reasons listed**, and always if there is one. -/
theorem Request.refused_iff (r : Request) (f : Front) :
    (∃ message, r.outcome f = .refuses message) ↔ r.Refused f.settings := by
  constructor
  · rintro ⟨message, refused⟩
    have suits := r.suits_outcome f
    rw [refused] at suits
    exact suits
  · intro refused
    cases refused with
    | unknown strange => exact ⟨_, outcome_unknown strange⟩
    | patch named misfit =>
        rw [outcome_configure named, configuring]
        cases merged : f.settings.merge r.arguments with
        | error e => exact ⟨_, rfl⟩
        | ok settings => exact absurd merged (misfit settings)
    | run named misfit =>
        rw [outcome_execute named, executing]
        cases read : Batch.Request.ofJson r.arguments with
        | error e => exact ⟨_, rfl⟩
        | ok request => exact absurd read (misfit request)
    | verdict named misfit =>
        rw [outcome_validate named, validating]
        cases read : Fix.Request.ofJson r.arguments with
        | error e => exact ⟨_, rfl⟩
        | ok request => exact absurd read (misfit request)
    | code named missing =>
        rw [outcome_load named, loading, missing]
        exact ⟨_, rfl⟩
    | line named missing =>
        obtain ⟨act, came⟩ := outcome_line (f := f) named
        obtain ⟨message, given⟩ := line_missing_iff.2 missing
        rw [came, Outcome.withLine, given]
        exact ⟨_, rfl⟩

/-! ## Responses without success -/

/-- **Is a message a response without success?** -/
def isFailure : Text × Content → Bool
  | (_, .response _ success _ _ _) => !success
  | _ => false

/-- Only a refusal is told without success. -/
lemma refuses_of_isFailure {f : Front} {r : Request} {o : Outcome} {m : Text × Content}
    (said : m ∈ f.speech r o) (failed : isFailure m = true) :
    ∃ message, o = .refuses message ∧ m = reply r.seq r.command (.error message) := by
  cases o with
  | refuses message => exact ⟨message, rfl, List.mem_singleton.1 said⟩
  | runs request => cases said
  | configures settings =>
      rw [List.mem_singleton.1 said] at failed
      cases failed
  | commands | tells =>
      rcases List.mem_cons.1 said with is | later
      · rw [is] at failed
        cases failed
      · obtain ⟨event, -, rfl⟩ := List.mem_map.1 later
        cases failed

/-! ## A server that reports at once -/

namespace Server

/-- **The servers that some payloads lead to.** -/
inductive Reachable (settings : Settings) : Server → Prop where
  | start : Reachable settings (.start settings)
  | receive {s : Server} (reached : Reachable settings s) (payload : Bytes) :
      Reachable settings (s.receive payload).1

/-- A payload is a request that is served, or nothing happens. -/
lemma receive_cases (s : Server) (payload : Bytes) :
    (s.receive payload).1 = s ∨ ∃ r, (s.receive payload).1 = (s.respond r).1 := by
  cases read : Request.read? payload with
  | none => exact Or.inl (congrArg Prod.fst (receive_of_none read))
  | some r => exact Or.inr ⟨r, congrArg Prod.fst (receive_of_some read)⟩

/-- What holds of a server that has been started, and stays whatever it serves. -/
lemma Reachable.holds {settings : Settings} {P : Server → Prop} (first : P (.start settings))
    (stays : ∀ s r, P s → P (s.respond r).1) {s : Server} (reached : Reachable settings s) : P s := by
  induction reached with
  | start => exact first
  | @receive s reached payload ih =>
      rcases s.receive_cases payload with same | ⟨r, served⟩
      · rw [same]
        exact ih
      · rw [served]
        exact stays s r ih

/-- **The settings of the server, its stepper and its engine are the same.** -/
theorem Reachable.agrees {settings : Settings} {s : Server} (reached : Reachable settings s) :
    s.stepper.settings = s.settings ∧ s.engine.settings = s.settings := by
  have agrees : s.front.Agrees := by
    refine reached.holds (P := fun s => s.front.Agrees) rfl fun s r agrees => ?_
    rw [front_respond]
    exact agrees.after r
  obtain ⟨jobs, engine, set⟩ : HasWorked settings s :=
    reached.holds (hasWorked_start settings) fun _ r worked => worked.respond r
  have ready : (Batch.Engine.new settings).Ready := fun _ there => by cases there
  refine ⟨agrees.symm, ?_⟩
  rw [engine, set]
  exact (Batch.Engine.after_of_ready ready jobs).1

/-- A response without success tells of a refusal. -/
lemma refuses_of_failure (s : Server) (r : Request) {m : Message} (said : m ∈ (s.respond r).2)
    (failed : isFailure m.said = true) : ∃ message, r.outcome s.front = .refuses message := by
  have among := List.mem_map_of_mem (f := Message.said) said
  rw [said_respond] at among
  rcases List.mem_append.1 among with spoken | report
  · obtain ⟨message, came, -⟩ := refuses_of_isFailure spoken failed
    exact ⟨message, came⟩
  · obtain ⟨call, -, is⟩ := List.mem_map.1 report
    rw [← is] at failed
    cases failed

/-- What a server does that refuses a request. -/
lemma respond_of_refuses (s : Server) (r : Request) {message : Text}
    (came : r.outcome s.front = .refuses message) :
    s.respond r = ({ s with sent := s.sent + 1 },
      [⟨s.sent + 1, "response", response r.seq r.command (.error message)⟩]) := by
  have answered := s.answer_eq r
  rw [came] at answered
  rw [respond, request, answered]
  rfl

/-- **A response without success is all that comes of its request.** -/
theorem respond_of_failure (s : Server) (r : Request) {m : Message} (said : m ∈ (s.respond r).2)
    (failed : isFailure m.said = true) :
    s.respond r = ({ s with sent := s.sent + 1 }, [m]) := by
  obtain ⟨message, came⟩ := s.refuses_of_failure r said failed
  rw [s.respond_of_refuses r came] at said ⊢
  rw [List.mem_singleton.1 said]

/-- **A response has no success exactly if its request is refused.** -/
theorem exists_failure_iff (s : Server) (r : Request) :
    (∃ m ∈ (s.respond r).2, isFailure m.said = true) ↔ r.Refused s.settings := by
  refine Iff.trans ?_ (r.refused_iff s.front)
  constructor
  · rintro ⟨m, said, failed⟩
    exact s.refuses_of_failure r said failed
  · rintro ⟨message, came⟩
    refine ⟨⟨s.sent + 1, "response", response r.seq r.command (.error message)⟩, ?_, rfl⟩
    rw [s.respond_of_refuses r came]
    exact List.mem_singleton_self _

end Server

/-! ## A host with its worker beside it -/

namespace Service

variable {τ : Type}

/-- **The settings of the front, its stepper and its worker are the same**; those of the worker are
the ones it will have when it has done what it was given. -/
theorem Run.agrees {settings : Settings} {source : Batch.ScriptSource}
    {requests : List (Request × τ)} {s : Service τ}
    (run : (start settings ((Batch.Engine.new settings).withSource source) requests).Run s) :
    s.front.stepper.settings = s.front.settings ∧
      s.worker.settled.settings = s.front.settings := by
  have serves := run.serves
  obtain ⟨actions, worked, -, set⟩ := serves.given
  obtain ⟨accounts, -⟩ := worked.accounts
  have ready : ((Batch.Engine.new settings).withSource source).Ready :=
    fun _ there => by cases there
  refine ⟨serves.agrees.symm, ?_⟩
  rw [accounts.settled, set]
  exact (Batch.Engine.after_of_ready ready _).1

/-- **A response without success is all that comes of its request**: the worker is given nothing. -/
theorem serve_of_failure (s : Service τ) (r : Request) (mark : τ) (rest : List (Request × τ))
    {m : Said τ} (said : m ∈ (s.serve r mark rest).unsent) (failed : isFailure m.1 = true) :
    s.serve r mark rest = { s with pending := rest, unsent := [m] } := by
  obtain ⟨content, spoken, rfl⟩ := List.mem_map.1 said
  obtain ⟨message, came, is⟩ := refuses_of_isFailure spoken failed
  rw [serve, Front.saysTo, Front.ordersFor, came, is]
  simp [Front.after, Front.speech, Outcome.orders]

/-- **The front answers without success exactly if its request is refused.** -/
theorem exists_failure_iff (s : Service τ) (r : Request) (mark : τ) (rest : List (Request × τ)) :
    (∃ m ∈ (s.serve r mark rest).unsent, isFailure m.1 = true) ↔ r.Refused s.front.settings := by
  refine Iff.trans ?_ (r.refused_iff s.front)
  constructor
  · rintro ⟨m, said, failed⟩
    obtain ⟨content, spoken, rfl⟩ := List.mem_map.1 said
    obtain ⟨message, came, -⟩ := refuses_of_isFailure spoken failed
    exact ⟨message, came⟩
  · rintro ⟨message, came⟩
    refine ⟨(reply r.seq r.command (.error message), mark), List.mem_map_of_mem ?_, rfl⟩
    rw [came]
    exact List.mem_singleton_self _

end Service

/-! ## The result -/

/-- **A refused request changes nothing.**  In every server that some payloads lead to, the settings
of the server, of its stepper and of its engine are the same; a response has no success exactly if
its request is refused for one of the reasons listed; and then it is all that is sent, and of the
server nothing has changed but the count of messages.  The same holds of a host with its worker
beside it, between any two steps: the worker is given nothing, what it reports is never without
success, and its settings are those it will have when it has done what it was given. -/
theorem refused_requests_change_nothing (settings : Settings) :
    (∀ s, Server.Reachable settings s →
      (s.stepper.settings = s.settings ∧ s.engine.settings = s.settings) ∧
        ∀ r : Request,
          ((∃ m ∈ (s.respond r).2, isFailure m.said = true) ↔ r.Refused s.settings) ∧
            ∀ m ∈ (s.respond r).2, isFailure m.said = true →
              s.respond r = ({ s with sent := s.sent + 1 }, [m])) ∧
      ∀ (τ : Type) (source : Batch.ScriptSource) (requests : List (Request × τ)) (s : Service τ),
        (Service.start settings ((Batch.Engine.new settings).withSource source) requests).Run s →
          (s.front.stepper.settings = s.front.settings ∧
            s.worker.settled.settings = s.front.settings) ∧
          (∀ r mark rest, s.pending = (r, mark) :: rest →
            ((∃ m ∈ (s.serve r mark rest).unsent, isFailure m.1 = true) ↔
              r.Refused s.front.settings) ∧
            ∀ m ∈ (s.serve r mark rest).unsent, isFailure m.1 = true →
              s.serve r mark rest = { s with pending := rest, unsent := [m] }) ∧
          ∀ (order : Order (Nat × τ)), ∀ m ∈ (order.handed s.worker.engine).map reportOf,
            isFailure m.1 = false := by
  refine ⟨fun s reached => ⟨reached.agrees, fun r => ⟨s.exists_failure_iff r, ?_⟩⟩, ?_⟩
  · exact fun m said failed => s.respond_of_failure r said failed
  · intro τ source requests s run
    refine ⟨run.agrees, ?_, ?_⟩
    · exact fun r mark rest _ => ⟨s.exists_failure_iff r mark rest,
        fun m said failed => s.serve_of_failure r mark rest said failed⟩
    · intro order m reported
      obtain ⟨call, -, rfl⟩ := List.mem_map.1 reported
      rfl

/-- After a snippet has been loaded, a command that nobody knows. -/
theorem refused_requests_change_nothing_unknown :
    let s := ((Server.start .standard).receive (encodeText
      "\x7b\"seq\":1,\"type\":\"a\",\"command\":\"load\",\"arguments\":\x7b\"code\":\"a\"\x7d\x7d")).1
    let r : Request := ⟨2, "leap", .null⟩
    s.engine.settings = s.settings ∧ (∃ m, s.respond r = ({ s with sent := s.sent + 1 }, [m])) ∧
      let host := Service.start .standard (.new .standard) [(r, ())]
      ∃ m, host.serve r () [] = { host with pending := [], unsent := [m] } := by
  intro s r
  have reached : Server.Reachable .standard s := .receive .start _
  obtain ⟨servers, hosts⟩ := refused_requests_change_nothing .standard
  obtain ⟨⟨-, same⟩, refusals⟩ := servers s reached
  obtain ⟨failures, nothing⟩ := refusals r
  obtain ⟨m, said, failed⟩ := failures.2 (.unknown (by decide))
  refine ⟨same, ⟨m, nothing m said failed⟩, ?_⟩
  intro host
  obtain ⟨-, unchanged, -⟩ := hosts Unit (.interpreter .standard []) [(r, ())] host .nothing
  obtain ⟨answers, alone⟩ := unchanged r () [] rfl
  obtain ⟨m, said, failed⟩ := answers.2 (.unknown (by decide))
  exact ⟨m, alone m said failed⟩

end SnippetLab.Host

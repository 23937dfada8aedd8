import SnippetLab.Proofs.Host.Interleavings

/-!
# Sessions and queries do not feel each other

A host serves two kinds of work: a debugging session, whose commands change the stepper, and
queries, among them runs of whole snippets, which change nothing but the engine.  **Queries can be
left out of a stream of requests and nothing else that is said changes**; and what is said to runs
and verdicts does not change when the commands of a session are left out.

* `requestsOf`, `servedMarked` — the requests of a stream of deliveries, each marked as kept or left
  out, and those of them that are served.
* `Front.transcript_filter`, `Front.heard_filter_iff` — **leaving out queries leaves out what is said
  to them**, when runs are reported at once and when they are reported beside.
* `Front.work_transcript_filter` — **leaving out commands of a session leaves what is said to runs
  and verdicts.**
* `queries_and_sessions_are_independent` — both, for whole inputs, and for hosts with a worker
  beside them.
-/

namespace SnippetLab.Host

open Batch (Order)

/-! ## Streams with requests left out -/

/-- The requests that are served, with their marks. -/
def servedMarked {τ : Type} : List (Request × τ) → List (Request × τ)
  | [] => []
  | request :: rest =>
    if request.1.disconnects then [request] else request :: servedMarked rest

lemma map_fst_servedMarked {τ : Type} (requests : List (Request × τ)) :
    (servedMarked requests).map Prod.fst = Request.served (requests.map Prod.fst) := by
  induction requests with
  | nil => rfl
  | cons request rest ih =>
      rw [servedMarked, List.map_cons, Request.served]
      split
      · rfl
      · rw [List.map_cons, ih]

/-- What is left out is left out of what is served, unless it disconnects. -/
lemma servedMarked_filter {requests : List (Request × Bool)}
    (stays : ∀ r, (r, false) ∈ requests → r.disconnects = false) :
    servedMarked (requests.filter Prod.snd) = (servedMarked requests).filter Prod.snd := by
  induction requests with
  | nil => rfl
  | cons request rest ih =>
      have later := ih fun r found => stays r (List.mem_cons_of_mem request found)
      obtain ⟨r, kept⟩ := request
      cases kept with
      | true =>
          rw [List.filter_cons_of_pos rfl, servedMarked, servedMarked]
          split
          · rfl
          · rw [List.filter_cons_of_pos rfl, later]
      | false =>
          have goesOn := stays r List.mem_cons_self
          rw [List.filter_cons_of_neg Bool.false_ne_true, servedMarked,
            if_neg (by simp [goesOn]), List.filter_cons_of_neg Bool.false_ne_true, later]

/-- The requests of an input, with the marks of their deliveries; what follows the deliveries is
kept. -/
def requestsOf (marked : List (Delivery × Bool)) (tail : Bytes) : List (Request × Bool) :=
  marked.filterMap (fun d => (Request.read? d.1.payload).map (·, d.2)) ++
    ((readAll tail).1.filterMap Request.read?).map (·, true)

lemma map_fst_requestsOf (marked : List (Delivery × Bool)) (tail : Bytes) :
    (requestsOf marked tail).map Prod.fst =
      (readAll (stream (marked.map Prod.fst) ++ tail)).1.filterMap Request.read? := by
  simp [requestsOf, readAll_stream, List.map_filterMap, List.filterMap_map, Function.comp_def]

/-- Requests can be left out of a stream. -/
lemma requestsOf_filter (marked : List (Delivery × Bool)) (tail : Bytes) :
    requestsOf (marked.filter Prod.snd) tail = (requestsOf marked tail).filter Prod.snd := by
  have kept : ∀ requests : List Request, (requests.map (·, true)).filter Prod.snd =
      requests.map (·, true) := fun requests => List.filter_eq_self.2 (by simp)
  rw [requestsOf, requestsOf, List.filter_append, kept]
  congr 1
  induction marked with
  | nil => rfl
  | cons d rest ih =>
      obtain ⟨delivery, mark⟩ := d
      cases mark with
      | _ =>
          cases found : Request.read? delivery.payload with
          | _ => simp [found, ih]

/-- A request left out is one of a delivery left out. -/
lemma exists_of_mem_requestsOf {marked : List (Delivery × Bool)} {tail : Bytes} {r : Request}
    (found : (r, false) ∈ requestsOf marked tail) :
    ∃ d, (d, false) ∈ marked ∧ Request.read? d.payload = some r := by
  rcases List.mem_append.1 found with here | later
  · obtain ⟨⟨d, mark⟩, listed, read⟩ := List.mem_filterMap.1 here
    obtain ⟨r', is, same⟩ := Option.map_eq_some_iff.1 read
    cases same
    exact ⟨d, listed, is⟩
  · obtain ⟨r', -, same⟩ := List.mem_map.1 later
    cases same

/-- What is served has been read. -/
lemma mem_of_mem_servedMarked {τ : Type} {requests : List (Request × τ)} {request : Request × τ}
    (found : request ∈ servedMarked requests) : request ∈ requests := by
  induction requests with
  | nil => cases found
  | cons first rest ih =>
      rw [servedMarked] at found
      split at found
      · rw [List.mem_singleton.1 found]
        exact List.mem_cons_self
      · rcases List.mem_cons.1 found with rfl | later
        · exact List.mem_cons_self
        · exact List.mem_cons_of_mem first (ih later)

/-- **Is a message the response to a run or a verdict?** -/
def isWork : Text × Content → Bool
  | (_, .response _ _ command _ _) => command == "execute" || command == "validate"
  | _ => false

namespace Front

variable {f f' : Front} {r : Request} {made : Settings}

/-- What the front says to a request has its mark. -/
lemma mark_of_mem_saysTo {τ : Type} {mark : τ} {m : Said τ} (said : m ∈ f.saysTo r mark) :
    m.2 = mark := by
  obtain ⟨content, -, rfl⟩ := List.mem_map.1 said
  rfl

/-- So does the report on it, if it is a run. -/
lemma of_mem_reportsTo {τ : Type} {mark : τ} {m : Said τ} (said : m ∈ f.reportsTo made r mark) :
    m.2 = mark ∧ r.command = "execute" := by
  have suits := r.suits_outcome f
  obtain ⟨call, handed, rfl⟩ := List.mem_map.1 said
  unfold ordersFor at handed
  cases came : r.outcome f with
  | runs request =>
      rw [came] at handed suits
      rw [List.mem_singleton.1 handed]
      exact ⟨rfl, suits⟩
  | refuses | configures | commands | tells =>
      rw [came] at handed
      cases handed

lemma mark_of_mem_reportsTo {τ : Type} {mark : τ} {m : Said τ}
    (said : m ∈ f.reportsTo made r mark) : m.2 = mark := (of_mem_reportsTo said).1

lemma mark_of_mem_tellsTo {τ : Type} {mark : τ} {m : Said τ} (said : m ∈ f.tellsTo made r mark) :
    m.2 = mark :=
  (List.mem_append.1 said).elim mark_of_mem_saysTo mark_of_mem_reportsTo

/-- Messages with the same mark are kept or left out as a whole. -/
lemma filter_of_mark {mark : Bool} {messages : List (Said Bool)}
    (marked : ∀ m ∈ messages, m.2 = mark) :
    messages.filter Prod.snd = if mark then messages else [] := by
  cases mark with
  | true => exact List.filter_eq_self.2 marked
  | false => exact List.filter_eq_nil_iff.2 fun m there => by simp [marked m there]

/-! ## Leaving out queries -/

/-- **A query leaves the front as it is.** -/
lemma after_of_query (query : r.command ∈ queryCommands) : f.after (r.outcome f) = f := by
  have suits := r.suits_outcome f
  cases came : r.outcome f with
  | refuses message | runs request | tells body events => rfl
  | configures settings =>
      rw [came] at suits
      have named : r.command = "configure" := suits
      rw [named] at query
      exact absurd query (by decide)
  | commands command body =>
      rw [came] at suits
      have apart : ∀ command ∈ queryCommands, command ∉ sessionCommands := by decide
      exact absurd suits (apart r.command query)

/-- **A query gives rise to no event of the stepper**, and none but the greeting. -/
lemma event_of_query {τ : Type} {mark : τ} (query : r.command ∈ queryCommands) {m : Said τ}
    (said : m ∈ f.tellsTo made r mark) {name : Text} {body : Option Json}
    (event : m.1.2 = .event name body) : name = "initialized" := by
  have reply_ne : ∀ seq command result, (reply seq command result).2 ≠ .event name body := by
    intro seq command result
    cases result with
    | _ => exact nofun
  rcases List.mem_append.1 said with spoken | report
  · obtain ⟨content, there, rfl⟩ := List.mem_map.1 spoken
    rcases speech_cases there with ⟨message, rfl⟩ | ⟨-, told, rfl⟩ | ⟨told, rfl, session | greeting⟩
    · exact absurd event (reply_ne _ _ _)
    · exact absurd event (reply_ne _ _ _)
    · have apart : ∀ command ∈ queryCommands, command ∉ sessionCommands := by decide
      exact absurd session (apart r.command query)
    · subst greeting
      cases event
      rfl
  · obtain ⟨call, -, rfl⟩ := List.mem_map.1 report
    exact absurd event (reply_ne _ _ _)

/-- What is left out with the queries holds no event of the stepper. -/
lemma event_of_mem_transcript {requests : List (Request × Bool)}
    (queries : ∀ r, (r, false) ∈ requests → r.command ∈ queryCommands) {m : Said Bool}
    (said : m ∈ f.transcript made requests) (leftOut : m.2 = false) {name : Text}
    {body : Option Json} (event : m.1.2 = .event name body) : name = "initialized" := by
  induction requests generalizing f with
  | nil => cases said
  | cons request rest ih =>
      obtain ⟨r, mark⟩ := request
      rcases List.mem_append.1 said with here | later
      · have same : false = mark := leftOut ▸ mark_of_mem_tellsTo here
        subst same
        exact event_of_query (queries r List.mem_cons_self) here event
      · exact ih (fun r found => queries r (List.mem_cons_of_mem _ found)) later

/-- **Leaving out queries leaves out what is said to them**, and nothing else. -/
theorem transcript_filter {requests : List (Request × Bool)}
    (queries : ∀ r, (r, false) ∈ requests → r.command ∈ queryCommands) :
    f.transcript made (requests.filter Prod.snd) = (f.transcript made requests).filter Prod.snd := by
  induction requests generalizing f with
  | nil => rfl
  | cons request rest ih =>
      have later : ∀ r, (r, false) ∈ rest → r.command ∈ queryCommands :=
        fun r found => queries r (List.mem_cons_of_mem request found)
      obtain ⟨r, mark⟩ := request
      rw [transcript, List.filter_append, ← ih later]
      cases mark with
      | true =>
          have all : (f.tellsTo made r true).filter Prod.snd = f.tellsTo made r true :=
            filter_of_mark fun _ => mark_of_mem_tellsTo
          rw [List.filter_cons_of_pos rfl, transcript, all]
      | false =>
          have none : (f.tellsTo made r false).filter Prod.snd = [] :=
            filter_of_mark fun _ => mark_of_mem_tellsTo
          rw [List.filter_cons_of_neg Bool.false_ne_true, none,
            after_of_query (queries r List.mem_cons_self), List.nil_append]

/-- **What can be heard with queries, less what is said to them, can be heard without.** -/
lemma Heard.filter {requests : List (Request × Bool)} {unsaid due messages : List (Said Bool)}
    (queries : ∀ r, (r, false) ∈ requests → r.command ∈ queryCommands)
    (heard : f.Heard made requests unsaid due messages) :
    f.Heard made (requests.filter Prod.snd) (unsaid.filter Prod.snd) (due.filter Prod.snd)
      (messages.filter Prod.snd) := by
  induction heard with
  | silence => exact .silence
  | @spoken f requests m unsaid due messages rest ih =>
      obtain ⟨content, mark⟩ := m
      cases mark with
      | true => exact .spoken (ih queries)
      | false => exact ih queries
  | @report f requests m unsaid due messages rest ih =>
      obtain ⟨content, mark⟩ := m
      cases mark with
      | true => exact .report (ih queries)
      | false => exact ih queries
  | @serve f r mark requests due messages rest ih =>
      have less := ih fun r found => queries r (List.mem_cons_of_mem _ found)
      rw [List.filter_append, filter_of_mark fun _ => mark_of_mem_saysTo,
        filter_of_mark fun _ => mark_of_mem_reportsTo] at less
      cases mark with
      | true => exact .serve less
      | false =>
          rw [after_of_query (queries r List.mem_cons_self)] at less
          simpa using less

/-- Queries, and what is said to them, can be put in front. -/
lemma exists_heard_append {left rest : List (Request × Bool)} {due' messages' : List (Said Bool)}
    (queries : ∀ request ∈ left, request.2 = false ∧ request.1.command ∈ queryCommands)
    (heard : ∀ due : List (Said Bool), due.filter Prod.snd = due' →
      ∃ messages, f.Heard made rest [] due messages ∧ messages.filter Prod.snd = messages')
    {unsaid due : List (Said Bool)} (quiet : unsaid.filter Prod.snd = [])
    (same : due.filter Prod.snd = due') :
    ∃ messages, f.Heard made (left ++ rest) unsaid due messages ∧
      messages.filter Prod.snd = messages' := by
  suffices ∃ messages, f.Heard made (left ++ rest) [] due messages ∧
      messages.filter Prod.snd = messages' by
    obtain ⟨messages, heard, less⟩ := this
    refine ⟨unsaid ++ messages, ?_, ?_⟩
    · simpa using heard.allSpoken unsaid
    · rw [List.filter_append, quiet, less, List.nil_append]
  induction left generalizing due with
  | nil => exact heard due same
  | cons request left ih =>
      obtain ⟨r, mark⟩ := request
      obtain ⟨rfl, query⟩ := queries _ List.mem_cons_self
      have reports : (due ++ f.reportsTo made r false).filter Prod.snd = due' := by
        rw [List.filter_append, filter_of_mark fun _ => mark_of_mem_reportsTo, same]
        exact List.append_nil due'
      obtain ⟨messages, later, less⟩ :=
        ih (fun other found => queries other (List.mem_cons_of_mem _ found)) reports
      have leftOut : (f.saysTo r false).filter Prod.snd = [] :=
        filter_of_mark fun _ => mark_of_mem_saysTo
      refine ⟨f.saysTo r false ++ messages, .serve ?_, ?_⟩
      · rw [after_of_query query]
        simpa using later.allSpoken (f.saysTo r false)
      · rw [List.filter_append, leftOut, less, List.nil_append]

/-- Requests that a filter takes out are queries that are left out. -/
lemma queries_of_not_kept {left requests : List (Request × Bool)}
    (queries : ∀ r, (r, false) ∈ requests → r.command ∈ queryCommands)
    (among : ∀ request ∈ left, request ∈ requests) (none : ∀ request ∈ left, ¬request.2 = true) :
    ∀ request ∈ left, request.2 = false ∧ request.1.command ∈ queryCommands := by
  intro request found
  have mark : request.2 = false := Bool.eq_false_iff.2 (none request found)
  exact ⟨mark, queries request.1 (mark ▸ among request found)⟩

/-- **What can be heard without queries can be heard with them**, less what is said to them. -/
lemma Heard.exists_of_filter {requests' : List (Request × Bool)}
    {unsaid' due' messages' : List (Said Bool)}
    (heard : f.Heard made requests' unsaid' due' messages') {requests : List (Request × Bool)}
    {unsaid due : List (Said Bool)}
    (queries : ∀ r, (r, false) ∈ requests → r.command ∈ queryCommands)
    (kept : requests.filter Prod.snd = requests') (said : unsaid.filter Prod.snd = unsaid')
    (reported : due.filter Prod.snd = due') :
    ∃ messages, f.Heard made requests unsaid due messages ∧
      messages.filter Prod.snd = messages' := by
  induction heard generalizing requests unsaid due with
  | @silence f =>
      have left := queries_of_not_kept queries (fun _ => id) (List.filter_eq_nil_iff.1 kept)
      rw [← List.append_nil requests]
      refine exists_heard_append left (fun due reports => ⟨due, ?_, reports⟩) said reported
      have silent : f.Heard made ([] : List (Request × Bool)) [] [] [] := .silence
      simpa using silent.allReported due
  | @spoken f requests' m unsaid' due' messages' rest ih =>
      obtain ⟨before, after, rfl, none, mark, others⟩ := List.filter_eq_cons_iff.1 said
      obtain ⟨messages, heard, less⟩ := ih queries kept others reported
      refine ⟨before ++ m :: messages, heard.spoken.allSpoken before, ?_⟩
      rw [List.filter_append, List.filter_eq_nil_iff.2 none, List.filter_cons_of_pos mark, less,
        List.nil_append]
  | @report f requests' m unsaid' due' messages' rest ih =>
      obtain ⟨before, after, rfl, none, mark, others⟩ := List.filter_eq_cons_iff.1 reported
      obtain ⟨messages, heard, less⟩ := ih queries kept said others
      refine ⟨before ++ m :: messages, heard.report.allReported before, ?_⟩
      rw [List.filter_append, List.filter_eq_nil_iff.2 none, List.filter_cons_of_pos mark, less,
        List.nil_append]
  | @serve f r mark requests' due' messages' rest ih =>
      obtain ⟨left, after, rfl, none, mark, others⟩ := List.filter_eq_cons_iff.1 kept
      obtain rfl : _ = true := mark
      have leftOut := queries_of_not_kept queries (fun _ => List.mem_append_left _) none
      refine exists_heard_append leftOut (fun due reports => ?_) said reported
      have here : (f.saysTo r true).filter Prod.snd = f.saysTo r true :=
        filter_of_mark fun _ => mark_of_mem_saysTo
      have later : (due ++ f.reportsTo made r true).filter Prod.snd =
          due' ++ f.reportsTo made r true := by
        rw [List.filter_append, reports, filter_of_mark fun _ => mark_of_mem_reportsTo]
        rfl
      obtain ⟨messages, heard, less⟩ := ih
        (fun other found => queries other (List.mem_append_right _ (List.mem_cons_of_mem _ found)))
        others here later
      exact ⟨messages, .serve heard, less⟩

/-- **What can be heard without queries** is what can be heard with them, less what is said to
them. -/
theorem heard_filter_iff {requests : List (Request × Bool)} {messages' : List (Said Bool)}
    (queries : ∀ r, (r, false) ∈ requests → r.command ∈ queryCommands) :
    f.Heard made (requests.filter Prod.snd) [] [] messages' ↔
      ∃ messages, f.Heard made requests [] [] messages ∧ messages.filter Prod.snd = messages' := by
  constructor
  · exact fun heard => heard.exists_of_filter queries rfl rfl rfl
  · rintro ⟨messages, heard, rfl⟩
    exact heard.filter queries

/-! ## Leaving out commands of a session -/

/-- What is said to any other request is no such response. -/
lemma isWork_of_mem_tellsTo {τ : Type} {mark : τ} (notRun : r.command ≠ "execute")
    (notVerdict : r.command ≠ "validate") {m : Said τ} (said : m ∈ f.tellsTo made r mark) :
    isWork m.1 = false := by
  have response : ∀ result, isWork (reply r.seq r.command result) = false := by
    intro result
    have other : (r.command == "execute" || r.command == "validate") = false := by
      rw [beq_false_of_ne notRun, beq_false_of_ne notVerdict]
      rfl
    cases result with
    | _ => exact other
  rcases List.mem_append.1 said with spoken | report
  · obtain ⟨content, there, rfl⟩ := List.mem_map.1 spoken
    rcases speech_cases there with ⟨message, rfl⟩ | ⟨-, body, rfl⟩ | ⟨event, rfl, -⟩
    · exact response _
    · exact response _
    · rfl
  · exact absurd (of_mem_reportsTo report).2 notRun

lemma work_tellsTo_eq_nil {τ : Type} (mark : τ) (notRun : r.command ≠ "execute")
    (notVerdict : r.command ≠ "validate") :
    (f.tellsTo made r mark).filter (fun m => isWork m.1) = [] :=
  List.filter_eq_nil_iff.2 fun m said => by
    rw [isWork_of_mem_tellsTo notRun notVerdict said]
    exact Bool.false_ne_true

/-- **Only a patch changes the settings.** -/
lemma settings_after_of_ne (other : r.command ≠ "configure") :
    (f.after (r.outcome f)).settings = f.settings := by
  have suits := r.suits_outcome f
  cases came : r.outcome f with
  | configures settings =>
      rw [came] at suits
      exact absurd suits other
  | refuses | runs | commands | tells => rfl

/-- What settings a request leaves does not depend on the stepper. -/
lemma settings_after_congr (same : f.settings = f'.settings) :
    (f.after (r.outcome f)).settings = (f'.after (r.outcome f')).settings := by
  by_cases named : r.command = "configure"
  · rw [Request.outcome_configure named, Request.outcome_configure named, Request.configuring,
      Request.configuring, same]
    cases f'.settings.merge r.arguments with
    | error e => exact same
    | ok settings => rfl
  · rw [settings_after_of_ne named, settings_after_of_ne named, same]

/-- **What is said to runs and verdicts depends on the settings only.** -/
lemma work_tellsTo_congr {τ : Type} (mark : τ) (same : f.settings = f'.settings) :
    (f.tellsTo made r mark).filter (fun m => isWork m.1) =
      (f'.tellsTo made r mark).filter fun m => isWork m.1 := by
  by_cases run : r.command = "execute"
  · unfold tellsTo saysTo reportsTo ordersFor
    rw [Request.outcome_execute run, Request.outcome_execute run, same]
    unfold Request.executing
    cases Batch.Request.ofJson r.arguments with
    | _ => rfl
  by_cases verdict : r.command = "validate"
  · unfold tellsTo saysTo reportsTo ordersFor
    rw [Request.outcome_validate verdict, Request.outcome_validate verdict, same]
    unfold Request.validating
    cases Fix.Request.ofJson r.arguments with
    | _ => rfl
  rw [work_tellsTo_eq_nil mark run verdict, work_tellsTo_eq_nil mark run verdict]

/-- **Leaving out commands of a session leaves what is said to runs and verdicts.** -/
theorem work_transcript_filter {requests : List (Request × Bool)}
    (session : ∀ r, (r, false) ∈ requests → r.command ∈ sessionCommands)
    (same : f.settings = f'.settings) :
    ((f.transcript made (requests.filter Prod.snd)).filter fun m => isWork m.1) =
      (f'.transcript made requests).filter fun m => isWork m.1 := by
  induction requests generalizing f f' with
  | nil => rfl
  | cons request rest ih =>
      have later : ∀ r, (r, false) ∈ rest → r.command ∈ sessionCommands :=
        fun r found => session r (List.mem_cons_of_mem request found)
      obtain ⟨r, mark⟩ := request
      cases mark with
      | true =>
          rw [List.filter_cons_of_pos rfl, transcript, transcript, List.filter_append,
            List.filter_append, work_tellsTo_congr true same, ih later (settings_after_congr same)]
      | false =>
          have named := session r List.mem_cons_self
          have apart : ∀ command ∈ sessionCommands,
              command ≠ "execute" ∧ command ≠ "validate" ∧ command ≠ "configure" := by decide
          obtain ⟨notRun, notVerdict, notPatch⟩ := apart r.command (session r List.mem_cons_self)
          rw [List.filter_cons_of_neg Bool.false_ne_true, transcript, List.filter_append,
            work_tellsTo_eq_nil false notRun notVerdict, List.nil_append]
          exact ih later (same.trans (settings_after_of_ne notPatch).symm)

end Front

/-! ## The result -/

/-- What is alike is so when some of it is left out. -/
lemma Alike.filter {τ : Type} {messages messages' : List (Said τ)} (h : Alike messages messages')
    (keep : Said τ → Bool) : Alike (messages.filter keep) (messages'.filter keep) := by
  constructor
  · rw [List.filter_comm, h.1, List.filter_comm]
  · rw [List.filter_comm, h.2, List.filter_comm]

lemma Alike.symm {τ : Type} {messages messages' : List (Said τ)} (h : Alike messages messages') :
    Alike messages' messages := ⟨h.1.symm, h.2.symm⟩

lemma Alike.trans {τ : Type} {messages messages' messages'' : List (Said τ)}
    (h : Alike messages messages') (h' : Alike messages' messages'') : Alike messages messages'' :=
  ⟨h.1.trans h'.1, h.2.trans h'.2⟩

/-- What a server that reports at once sends for an input of deliveries. -/
lemma said_serve (settings : Settings) (marked : List (Delivery × Bool)) (tail : Bytes) :
    (serve settings (stream (marked.map Prod.fst) ++ tail)).1.map Message.said =
      ((Server.start settings).transcript (servedMarked (requestsOf marked tail))).map
        Prod.fst := by
  rw [Server.map_fst_transcript, map_fst_servedMarked, map_fst_requestsOf, serve_eq_sendAll]

/-- **Sessions and queries do not feel each other.**  Deliveries of an input are marked as kept or
left out.  If all that is left out are queries (or no requests at all), what is said to the rest,
responses and events, is what is said to it when nothing is left out, in the same order and numbered
anew, and no event of the stepper is left out; and if all that is left out are commands of a
session, the responses to runs and verdicts are the same.  The same holds of a host whose worker
reports beside it, if no run is late: it can send the rest in just those orders in which it can send
it among all, and whatever the order, each of the two threads says the same. -/
theorem queries_and_sessions_are_independent (settings : Settings)
    (marked : List (Delivery × Bool)) (tail : Bytes) :
    let requests := servedMarked (requestsOf marked tail)
    let told := (Server.start settings).transcript requests
    let whole := (serve settings (stream (marked.map Prod.fst) ++ tail)).1
    let thinned :=
      (serve settings (stream ((marked.filter Prod.snd).map Prod.fst) ++ tail)).1
    whole.map Message.said = told.map Prod.fst ∧
      thinned.map Message.seq = List.range' 1 thinned.length ∧
      ((∀ d, (d, false) ∈ marked → ∀ r, Request.read? d.payload = some r →
          r.command ∈ queryCommands) →
        thinned.map Message.said = (told.filter Prod.snd).map Prod.fst ∧
          (∀ m ∈ told, m.2 = false → ∀ name body, m.1.2 = .event name body →
            name = "initialized") ∧
          ∀ delays delays' : List Nat, RunsInTime settings delays requests →
            RunsInTime settings delays' (requests.filter Prod.snd) →
            (∀ messages', Service.CanSend settings delays' (requests.filter Prod.snd) messages' ↔
              ∃ messages, Service.CanSend settings delays requests messages ∧
                messages.filter Prod.snd = messages') ∧
            ∀ messages messages', Service.CanSend settings delays requests messages →
              Service.CanSend settings delays' (requests.filter Prod.snd) messages' →
              Alike (messages.filter Prod.snd) messages') ∧
      ((∀ d, (d, false) ∈ marked → ∀ r, Request.read? d.payload = some r →
          r.command ∈ sessionCommands) →
        (thinned.map Message.said).filter isWork = (whole.map Message.said).filter isWork ∧
          ∀ delays delays' : List Nat, RunsInTime settings delays requests →
            RunsInTime settings delays' (requests.filter Prod.snd) →
            ∀ messages messages', Service.CanSend settings delays requests messages →
              Service.CanSend settings delays' (requests.filter Prod.snd) messages' →
              Alike (messages.filter fun m => isWork m.1)
                (messages'.filter fun m => isWork m.1)) := by
  intro requests told whole thinned
  have wholeSaid : whole.map Message.said = told.map Prod.fst := said_serve settings marked tail
  -- what is left out goes on, so it is left out of the requests that are served
  have left : ∀ {commands : List Text}, ("disconnect" : Text) ∉ commands →
      (∀ d, (d, false) ∈ marked → ∀ r, Request.read? d.payload = some r → r.command ∈ commands) →
      (∀ r, (r, false) ∈ requests → r.command ∈ commands) ∧
        thinned.map Message.said =
          ((Server.start settings).transcript (requests.filter Prod.snd)).map Prod.fst := by
    intro commands goesOn named
    have listed : ∀ r, (r, false) ∈ requestsOf marked tail → r.command ∈ commands := by
      intro r found
      obtain ⟨d, there, read⟩ := exists_of_mem_requestsOf found
      exact named d there r read
    refine ⟨fun r found => listed r (mem_of_mem_servedMarked found), ?_⟩
    have stays : ∀ r, (r, false) ∈ requestsOf marked tail → r.disconnects = false := by
      intro r found
      refine beq_false_of_ne fun leaves => ?_
      exact goesOn (leaves ▸ listed r found)
    rw [← servedMarked_filter stays, ← requestsOf_filter]
    exact said_serve settings (marked.filter Prod.snd) tail
  have agrees : ∀ {delays : List Nat} {requests : List (Request × Bool)}
      {messages : List (Said Bool)}, RunsInTime settings delays requests →
        Service.CanSend settings delays requests messages →
          Alike messages (Front.transcript settings ⟨settings, .new settings⟩ requests) := by
    intro delays requests messages inTime sends
    rw [← Server.transcript_start]
    exact sends.alike inTime
  have toldAll : told = Front.transcript settings ⟨settings, .new settings⟩ requests :=
    Server.transcript_start settings requests
  refine ⟨wholeSaid, ?_, fun queries => ?_, fun session => ?_⟩
  · rw [show thinned = _ from serve_eq_sendAll settings _]
    exact Server.sendAll_numbers _ _
  · obtain ⟨named, thinnedSaid⟩ := left (by decide) queries
    have filtered : Front.transcript settings ⟨settings, .new settings⟩
        (requests.filter Prod.snd) =
          (Front.transcript settings ⟨settings, .new settings⟩ requests).filter Prod.snd :=
      Front.transcript_filter named
    refine ⟨?_, ?_, ?_⟩
    · rw [thinnedSaid, Server.transcript_start, filtered, toldAll]
    · rw [toldAll]
      exact fun m said leftOut name body => Front.event_of_mem_transcript named said leftOut
    · intro delays delays' inTime inTime'
      constructor
      · intro messages'
        simp only [Service.canSend_iff inTime, Service.canSend_iff inTime']
        exact Front.heard_filter_iff named
      · intro messages messages' sends sends'
        have rest := agrees inTime' sends'
        rw [filtered] at rest
        exact ((agrees inTime sends).filter Prod.snd).trans rest.symm
  · obtain ⟨named, thinnedSaid⟩ := left (by decide) session
    have work : ((Front.transcript settings ⟨settings, .new settings⟩
        (requests.filter Prod.snd)).filter fun m => isWork m.1) =
          (Front.transcript settings ⟨settings, .new settings⟩ requests).filter
            fun m => isWork m.1 := Front.work_transcript_filter named rfl
    constructor
    · rw [thinnedSaid, wholeSaid, Server.transcript_start, toldAll, List.filter_map,
        List.filter_map]
      exact congrArg (List.map Prod.fst) work
    · intro delays delays' inTime inTime' messages messages' sends sends'
      have rest := (agrees inTime' sends').filter fun m => isWork m.1
      rw [work] at rest
      exact ((agrees inTime sends).filter fun m => isWork m.1).trans rest.symm

/-- A delivery that asks for the history. -/
def Delivery.ask : Delivery where
  bytes := encodeText
    "Content-Length: 40\n\n\x7b\"seq\":5,\"type\":\"a\",\"command\":\"history\"\x7d"
  payload := encodeText "\x7b\"seq\":5,\"type\":\"a\",\"command\":\"history\"\x7d"
  delivers := by decide +kernel

/-- A delivery that stops the session. -/
def Delivery.halt : Delivery where
  bytes := encodeText
    "Content-Length: 37\n\n\x7b\"seq\":6,\"type\":\"a\",\"command\":\"stop\"\x7d"
  payload := encodeText "\x7b\"seq\":6,\"type\":\"a\",\"command\":\"stop\"\x7d"
  delivers := by decide +kernel

/-- Before a disconnect, the history is not asked for, or the session is not stopped. -/
theorem queries_and_sessions_are_independent_ask_and_halt :
    let whole (first : Delivery) := (serve .standard (stream [first, .leave])).1
    let thinned := (serve .standard (stream [.leave])).1
    let requests := servedMarked (requestsOf [(.ask, false), (.leave, true)] [])
    (∃ told : List (Said Bool), (whole .ask).map Message.said = told.map Prod.fst ∧
        thinned.map Message.said = (told.filter Prod.snd).map Prod.fst) ∧
      (∃ messages messages', Service.CanSend .standard [] requests messages ∧
        Service.CanSend .standard [] (requests.filter Prod.snd) messages' ∧
          Alike (messages.filter Prod.snd) messages') ∧
      (thinned.map Message.said).filter isWork =
        ((whole .halt).map Message.said).filter isWork := by
  intro whole thinned requests
  have ask : Request.read? Delivery.ask.payload = some ⟨5, "history", .null⟩ := by rfl
  have halt : Request.read? Delivery.halt.payload = some ⟨6, "stop", .null⟩ := by rfl
  have asked := queries_and_sessions_are_independent .standard [(.ask, false), (.leave, true)] []
  have halted := queries_and_sessions_are_independent .standard [(.halt, false), (.leave, true)] []
  obtain ⟨askedSaid, -, queries, -⟩ := asked
  obtain ⟨-, -, -, session⟩ := halted
  obtain ⟨thinnedSaid, -, hosts⟩ := queries fun d found r read => by
    obtain rfl : d = .ask := by simpa using found
    rw [ask] at read
    cases read
    decide
  have session := session fun d found r read => by
    obtain rfl : d = .halt := by simpa using found
    rw [halt] at read
    cases read
    decide
  rw [List.append_nil] at askedSaid thinnedSaid session
  rw [List.append_nil] at session
  obtain ⟨-, alike⟩ := hosts [] [] (Batch.inTime_nil _ _) (Batch.inTime_nil _ _)
  obtain ⟨messages, sends⟩ := Service.exists_canSend .standard [] requests
  obtain ⟨messages', sends'⟩ := Service.exists_canSend .standard [] (requests.filter Prod.snd)
  exact ⟨⟨_, askedSaid, thinnedSaid⟩,
    ⟨messages, messages', sends, sends', alike messages messages' sends sends'⟩, session.1⟩

end SnippetLab.Host

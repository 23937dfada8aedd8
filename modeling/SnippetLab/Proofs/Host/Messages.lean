import SnippetLab.Host.Server
import SnippetLab.Proofs.Host.Frames
import SnippetLab.Proofs.Json.Written

/-!
# Messages that are sent and received

A message is an object whose members tell what it is, and what it is received as is decided by which
members are there.  **A request and an event are received as they were sent; a response has a
command, and so it is received as a request of that command.**  On the way through a text two more
things may happen: a double is read as whatever its shortest decimal is read as, and what is nested
too deep is not read at all.

* `Message.toMembers` — a message as an object, which by `Message.write_eq` is what is written.
* `Message.WellFormed` — the messages there are.
* `Message.received` — what a message is received as.
* `Message.reread?` — a message with its doubles as they are read.
* `Message.sent_and_received` — **what becomes of a message that is sent**.
-/

namespace SnippetLab.Host

open Decimal

/-! ## Messages as objects -/

/-- The arguments of a request, or the body of a response or an event. -/
def Content.value? : Content → Option Json
  | .request _ arguments => arguments
  | .response _ _ _ _ body => body
  | .event _ body => body

/-- The request that a response answers. -/
def Content.answered? : Content → Option Nat
  | .response requestSeq .. => some requestSeq
  | _ => none

/-- A member that is there only if there is a value. -/
def optionalMember (name : Text) (value : Option Json) : List (Text × Json) :=
  value.toList.map fun v => (name, v)

/-- What the members of a message's content say besides its arguments or body. -/
def Content.stated : Content → List (Text × Json)
  | .request command _ => [("command", .str command)]
  | .response requestSeq success command message _ =>
    ("request_seq", .int requestSeq) :: ("success", .bool success) :: ("command", .str command) ::
      optionalMember "message" (message.map .str)
  | .event name _ => [("event", .str name)]

/-- The member that is the arguments or the body. -/
def Content.carried : Content → List (Text × Json)
  | .request _ arguments => [("arguments", arguments.getD .null)]
  | .response _ _ _ _ body => optionalMember "body" body
  | .event _ body => optionalMember "body" body

/-- What the members of a message say besides its arguments or body. -/
def Message.stated (m : Message) : List (Text × Json) :=
  ("seq", .int m.seq) :: ("type", .str m.kind) :: m.content.stated

/-- **The members of a message.** -/
def Message.toMembers (m : Message) : List (Text × Json) := m.stated ++ m.content.carried

lemma writeMembers_append (ms ns : List (Text × Json)) :
    Json.writeMembers (ms ++ ns) = Json.writeMembers ms ++ Json.writeMembers ns := by
  induction ms with
  | nil => rfl
  | cons m ms ih =>
      rw [List.cons_append, Json.writeMembers, Json.writeMembers, ih, List.cons_append]

lemma writeMembers_optionalMember (name : Text) (value : Option Json) :
    Json.writeMembers (optionalMember name value) = givenMember name value := by
  cases value with
  | none => rfl
  | some v => rfl

/-- **What is written of a message is the object that it is.** -/
theorem Message.write_eq (m : Message) : m.write = Json.write (.obj m.toMembers) := by
  have content : m.content.members =
      Json.writeMembers m.content.stated ++ Json.writeMembers m.content.carried := by
    cases m.content with
    | request command arguments => rfl
    | response requestSeq success command message body =>
        rw [Content.carried, Content.stated, writeMembers_optionalMember]
        simp only [Json.writeMembers, writeMembers_optionalMember]
        rfl
    | event name body =>
        rw [Content.carried, writeMembers_optionalMember]
        rfl
  rw [Message.write, Json.write, Message.toMembers, writeMembers_append, content]
  rfl

/-- **The messages there are**: numbers have 64 bits, and arguments or a body that are given are a
value other than null. -/
structure Message.WellFormed (m : Message) : Prop where
  seq : m.seq < wordBound
  answered : ∀ n ∈ m.content.answered?, n < wordBound
  value : ∀ v ∈ m.content.value?, v.WellFormed
  given : m.content.value? ≠ some .null

lemma Message.plain_stated {m : Message} (h : m.WellFormed) :
    ∀ member ∈ m.stated, Json.Plain member.2 := by
  have content : ∀ member ∈ m.content.stated, Json.Plain member.2 := by
    cases said : m.content with
    | request command arguments => exact List.forall_mem_singleton.2 (.str command)
    | response requestSeq success command message body =>
        have number : Json.Plain (.int requestSeq) :=
          .word (h.answered requestSeq (by rw [said]; rfl))
        have message : ∀ member ∈ optionalMember "message" (message.map .str),
            Json.Plain member.2 := by
          intro member mem
          cases message with
          | none => cases mem
          | some t =>
              rw [List.mem_singleton.1 mem]
              exact .str t
        exact List.forall_mem_cons.2 ⟨number, List.forall_mem_cons.2 ⟨.bool success,
          List.forall_mem_cons.2 ⟨.str command, message⟩⟩⟩
    | event name body => exact List.forall_mem_singleton.2 (.str name)
  exact List.forall_mem_cons.2 ⟨.word h.seq, List.forall_mem_cons.2 ⟨.str m.kind, content⟩⟩

/-- The members of a message are values. -/
lemma Message.wellFormed_toMembers {m : Message} (h : m.WellFormed) :
    ∀ member ∈ m.toMembers, member.2.WellFormed := by
  have body (value : Option Json) (all : ∀ v ∈ value, v.WellFormed) :
      ∀ member ∈ optionalMember "body" value, member.2.WellFormed := by
    intro member mem
    obtain ⟨v, here, rfl⟩ := List.mem_map.1 mem
    exact all v (Option.mem_toList.1 here)
  have value := h.value
  refine List.forall_mem_append.2 ⟨fun member mem => (plain_stated h member mem).wellFormed, ?_⟩
  cases said : m.content with
  | request command arguments =>
      rw [said] at value
      refine List.forall_mem_singleton.2 ?_
      cases arguments with
      | none => exact .null
      | some v => exact value v rfl
  | response requestSeq success command message given =>
      rw [said] at value
      exact body given value
  | event name given =>
      rw [said] at value
      exact body given value

/-! ## Receiving an object -/

/-- **What a message is received as**: whatever has a command is a request, with the arguments that
it has. -/
def Message.received (m : Message) : Message :=
  match m.content with
  | .response _ _ command _ _ => { m with content := .request command none }
  | _ => m

lemma Message.received_eq_self_iff (m : Message) :
    m.received = m ↔ m.content.answered? = none := by
  obtain ⟨seq, kind, content⟩ := m
  cases content with
  | request command arguments => simp [received, Content.answered?]
  | response requestSeq success command message body => simp [received, Content.answered?]
  | event name body => simp [received, Content.answered?]

lemma Message.answered?_received (m : Message) : m.received.content.answered? = none := by
  obtain ⟨seq, kind, content⟩ := m
  cases content with
  | request command arguments => rfl
  | response requestSeq success command message body => rfl
  | event name body => rfl

lemma word?_of_lt {n : Nat} (h : n < wordBound) : Json.word? (.int n) = some n := by
  rw [Json.word?, if_pos ⟨Int.natCast_nonneg n, by omega⟩, Int.toNat_natCast]

section Members

variable {members : List (Text × Json)}

/-- Members of other names do not matter. -/
lemma uniqueMember?_append (first : List (Text × Json)) {later : List (Text × Json)} {name : Text}
    (others : ∀ m ∈ later, m.1 ≠ name) :
    uniqueMember? (first ++ later) name = uniqueMember? first name := by
  have none : later.filter (fun m => m.1 == name) = [] :=
    List.filter_eq_nil_iff.2 fun m mem same => others m mem (beq_iff_eq.1 same)
  rw [uniqueMember?, List.filter_append, none, List.append_nil]
  rfl

lemma forall_mem_optionalMember {name other : Text} (value : Option Json) (h : other ≠ name) :
    ∀ m ∈ optionalMember other value, m.1 ≠ name := by
  intro m mem
  obtain ⟨v, -, rfl⟩ := List.mem_map.1 mem
  exact h

lemma required?_of_unique {α : Type} {name : Text} {value : Json} (read : Json → Option α)
    (unique : uniqueMember? members name = some (some value)) :
    required? members name read = read value := by
  rw [required?, unique]

/-- A value that is not null is a member's value as it stands. -/
lemma optional?_of_unique {name : Text} {value : Option Json}
    (unique : uniqueMember? members name = some value) (given : value ≠ some .null) :
    optional? members name some = some value := by
  rw [optional?, unique]
  cases value with
  | none => rfl
  | some v =>
      cases v with
      | null => exact absurd rfl given
      | _ => rfl

/-- **Members with a command are a request.** -/
lemma Content.request?_of_unique {command : Text} {arguments : Option Json}
    (named : uniqueMember? members "command" = some (some (.str command)))
    (given : optional? members "arguments" some = some arguments) :
    Content.request? members = some (.request command arguments) := by
  rw [Content.request?, required?_of_unique _ named, given]
  rfl

/-- Members without a command that answer nothing are an event if they have its name. -/
lemma Content.event?_of_unique {name : Text} {body : Option Json}
    (command : uniqueMember? members "command" = some none)
    (answered : uniqueMember? members "request_seq" = some none)
    (named : uniqueMember? members "event" = some (some (.str name)))
    (given : optional? members "body" some = some body) :
    (Content.request? members <|> Content.response? members <|> Content.event? members) =
      some (.event name body) := by
  have request : Content.request? members = none := by
    rw [Content.request?, required?, command]
    rfl
  have response : Content.response? members = none := by
    rw [Content.response?, required?, answered]
    rfl
  rw [request, response, Content.event?, required?_of_unique _ named, given]
  rfl

lemma Message.ofMembers?_of_unique {seq : Nat} {kind : Text} {content : Content}
    (numbered : uniqueMember? members "seq" = some (some (.int seq))) (bound : seq < wordBound)
    (typed : uniqueMember? members "type" = some (some (.str kind)))
    (read : (Content.request? members <|> Content.response? members <|> Content.event? members) =
      some content) :
    Message.ofMembers? members = some ⟨seq, kind, content⟩ := by
  rw [Message.ofMembers?, required?_of_unique _ numbered, word?_of_lt bound,
    required?_of_unique _ typed, read]
  rfl

end Members

/-- **What the object of a message is received as.** -/
theorem Message.ofMembers?_toMembers {m : Message} (seq : m.seq < wordBound)
    (given : m.content.value? ≠ some .null) :
    Message.ofMembers? m.toMembers = some m.received := by
  obtain ⟨number, kind, content⟩ := m
  cases content with
  | request command arguments =>
      have told : optional? (Message.toMembers ⟨number, kind, .request command arguments⟩)
          "arguments" some = some arguments := by
        cases arguments with
        | none => rfl
        | some v => exact optional?_of_unique rfl given
      have content := Content.request?_of_unique rfl told
      exact ofMembers?_of_unique rfl seq rfl (by rw [content]; rfl)
  | response requestSeq success command message body =>
      have others {name : Text} (h : "message" ≠ name) (h' : "body" ≠ name) :=
        uniqueMember?_append
          [("seq", .int number), ("type", .str kind), ("request_seq", .int requestSeq),
            ("success", .bool success), ("command", .str command)]
          (List.forall_mem_append.2
            ⟨forall_mem_optionalMember (message.map .str) h, forall_mem_optionalMember body h'⟩)
      have content : Content.request?
          (Message.toMembers ⟨number, kind, .response requestSeq success command message body⟩) =
            some (.request command none) :=
        Content.request?_of_unique (others (by decide) (by decide))
          (optional?_of_unique (others (by decide) (by decide)) (by simp))
      exact ofMembers?_of_unique (others (by decide) (by decide)) seq
        (others (by decide) (by decide)) (by rw [content]; rfl)
  | event name body =>
      have others {other : Text} (h : "body" ≠ other) :=
        uniqueMember?_append
          [("seq", .int number), ("type", .str kind), ("event", .str name)]
          (forall_mem_optionalMember body h)
      have told : uniqueMember? (Message.toMembers ⟨number, kind, .event name body⟩) "body" =
          some body := by
        cases body with
        | none => rfl
        | some v => rfl
      exact ofMembers?_of_unique (others (by decide)) seq (others (by decide))
        (Content.event?_of_unique (others (by decide)) (others (by decide)) (others (by decide))
          (optional?_of_unique told given))

/-! ## Receiving a text -/

/-- How deep arrays and objects are nested in a message's arguments or body. -/
def Content.nesting (c : Content) : Nat := c.value?.elim 0 Json.nesting

/-- The doubles in a message's arguments or body. -/
def Content.doubles (c : Content) : List UInt64 := c.value?.elim [] Json.doubles

/-- The same content with other arguments or another body. -/
def Content.withValue (value : Option Json) : Content → Content
  | .request command _ => .request command value
  | .response requestSeq success command message _ =>
    .response requestSeq success command message value
  | .event name _ => .event name value

/-- **A message with its doubles as they are read.** -/
def Message.reread? (m : Message) : Option Message :=
  match m.content.value? with
  | none => some m
  | some v => (Json.reread? v).map fun v => { m with content := m.content.withValue (some v) }

/-- What is read of the members of a message are the members of what is read of it. -/
lemma Message.rereadMembers?_toMembers {m : Message} (h : m.WellFormed) :
    Json.rereadMembers? m.toMembers = m.reread?.map Message.toMembers := by
  rw [toMembers, Json.rereadMembers?_append (plain_stated h)]
  have last (name : Text) (v : Json) {message : Json → Message}
      (same : ∀ v, m.stated ++ [(name, v)] = (message v).toMembers) :
      (Json.rereadMembers? [(name, v)]).map (m.stated ++ ·) =
        ((Json.reread? v).map message).map toMembers := by
    rw [Json.rereadMembers?]
    cases Json.reread? v with
    | none => rfl
    | some v' => exact congrArg some (same v')
  clear h
  obtain ⟨seq, kind, content⟩ := m
  cases content with
  | request command arguments =>
      cases arguments with
      | none => rfl
      | some v => exact last "arguments" v fun _ => rfl
  | response requestSeq success command message body =>
      cases body with
      | none => rfl
      | some v => exact last "body" v fun _ => rfl
  | event name body =>
      cases body with
      | none => rfl
      | some v => exact last "body" v fun _ => rfl

/-- A message is nested one deeper than its arguments or body. -/
lemma Message.nesting_toMembers {m : Message} (h : m.WellFormed) :
    Json.nestingMembers m.toMembers = m.content.nesting := by
  rw [toMembers, Json.nestingMembers_append (plain_stated h)]
  have last (name : Text) (v : Json) : Json.nestingMembers [(name, v)] = v.nesting := Nat.max_zero _
  cases m.content with
  | request command arguments =>
      cases arguments with
      | none => rfl
      | some v => exact last "arguments" v
  | response requestSeq success command message body =>
      cases body with
      | none => rfl
      | some v => exact last "body" v
  | event name body =>
      cases body with
      | none => rfl
      | some v => exact last "body" v

lemma Content.value?_withValue (c : Content) (value : Option Json) :
    (c.withValue value).value? = value := by
  cases c with
  | request command arguments => rfl
  | response requestSeq success command message body => rfl
  | event name body => rfl

lemma Content.answered?_withValue (c : Content) (value : Option Json) :
    (c.withValue value).answered? = c.answered? := by
  cases c with
  | request command arguments => rfl
  | response requestSeq success command message body => rfl
  | event name body => rfl

lemma Content.withValue_value? (c : Content) : c.withValue c.value? = c := by
  cases c with
  | request command arguments => rfl
  | response requestSeq success command message body => rfl
  | event name body => rfl

/-- **Reading doubles again changes neither number nor kind of a message**, and it makes nothing
null. -/
lemma Message.of_reread? {m read : Message} (found : m.reread? = some read) :
    read.seq = m.seq ∧ read.content.answered? = m.content.answered? ∧
      (m.content.value? ≠ some .null → read.content.value? ≠ some .null) := by
  unfold reread? at found
  split at found
  · cases found
    exact ⟨rfl, rfl, id⟩
  · rename_i v value
    obtain ⟨v', inner, rfl⟩ := Option.map_eq_some_iff.1 found
    refine ⟨rfl, Content.answered?_withValue _ _, fun given null => given ?_⟩
    rw [Content.value?_withValue] at null
    cases null
    rw [value, Json.eq_null_of_reread? inner]

/-- **A message is read back as itself exactly if its doubles are.** -/
lemma Message.reread?_eq_self_iff (m : Message) :
    m.reread? = some m ↔ ∀ bits ∈ m.content.doubles, Json.ReadsBack bits := by
  unfold reread? Content.doubles
  cases value : m.content.value? with
  | none => simp
  | some v =>
      rw [Option.elim_some, ← Json.reread?_eq_self_iff]
      constructor
      · intro found
        obtain ⟨v', inner, same⟩ := Option.map_eq_some_iff.1 found
        have values := congrArg (fun m : Message => m.content.value?) same
        rw [Content.value?_withValue, value] at values
        cases values
        exact inner
      · intro inner
        have content := m.content.withValue_value?
        rw [value] at content
        dsimp only
        rw [inner, Option.map_some, content]

/-- **What is read of a message that is written.** -/
theorem Message.read?_write {m : Message} (h : m.WellFormed) :
    Message.read? m.write =
      if m.content.nesting < Json.depthLimit then m.reread?.map Message.received else none := by
  have document : Json.readDocument? m.write = if m.content.nesting < Json.depthLimit then
      (m.reread?.map toMembers).map fun read => ⟨Json.object read, read⟩ else none := by
    rw [write_eq, Json.readDocument?_write (wellFormed_toMembers h), rereadMembers?_toMembers h,
      Json.nesting, nesting_toMembers h]
    rfl
  rw [Message.read?, document]
  by_cases fits : m.content.nesting < Json.depthLimit
  · rw [if_pos fits, if_pos fits]
    cases found : m.reread? with
    | none => rfl
    | some m' =>
        obtain ⟨seq, -, given⟩ := of_reread? found
        exact ofMembers?_toMembers (seq ▸ h.seq) (given h.given)
  · rw [if_neg fits, if_neg fits]

/-- An event is received as an event, if it is received. -/
lemma Message.event_of_read?_write {m received : Message} (h : m.WellFormed) {name : Text}
    {body : Option Json} (said : m.content = .event name body)
    (back : Message.read? m.write = some received) :
    ∃ body', received.content = .event name body' := by
  rw [read?_write h] at back
  split at back
  · obtain ⟨m', found, rfl⟩ := Option.map_eq_some_iff.1 back
    obtain ⟨seq, kind, content⟩ := m
    cases said
    cases body with
    | none =>
        cases found
        exact ⟨none, rfl⟩
    | some v =>
        obtain ⟨v', -, rfl⟩ := Option.map_eq_some_iff.1 found
        exact ⟨some v', rfl⟩
  · cases back

/-- **What becomes of a message that is sent.**  Its object is received as it is, except that a
response is received as a request of its command; of its text, what is nested too deep is not read
at all, and doubles are what they are read as.  So exactly the messages that are no response, are
not nested too deep and have doubles that are read back come back as they are, and an event is
never taken for a request. -/
theorem Message.sent_and_received (m : Message) (h : m.WellFormed) :
    Message.ofMembers? m.toMembers = some m.received ∧
    Message.read? m.write =
      (if m.content.nesting < Json.depthLimit then m.reread?.map Message.received else none) ∧
    (Message.read? m.write = some m ↔ m.content.answered? = none ∧
      m.content.nesting < Json.depthLimit ∧ ∀ bits ∈ m.content.doubles, Json.ReadsBack bits) ∧
    ((∃ name body, m.content = .event name body) →
      ∀ s : Server, s.receive (encodeText m.write) = (s, [], true)) := by
  refine ⟨ofMembers?_toMembers h.seq h.given, read?_write h, ?_, ?_⟩
  · rw [read?_write h, ← reread?_eq_self_iff]
    constructor
    · intro back
      by_cases fits : m.content.nesting < Json.depthLimit
      · rw [if_pos fits] at back
        obtain ⟨m', found, received⟩ := Option.map_eq_some_iff.1 back
        have answered : m.content.answered? = none := received ▸ m'.answered?_received
        have itself := (m'.received_eq_self_iff).2 ((of_reread? found).2.1.trans answered)
        exact ⟨answered, fits, found.trans (congrArg some (itself.symm.trans received))⟩
      · rw [if_neg fits] at back
        cases back
    · rintro ⟨answered, fits, found⟩
      rw [if_pos fits, found, Option.map_some, (m.received_eq_self_iff).2 answered]
  · rintro ⟨name, body, said⟩ s
    rw [Server.receive, decodeText?_encodeText, Option.bind_some]
    cases back : Message.read? m.write with
    | none => rfl
    | some received =>
        obtain ⟨seq, kind, content⟩ := received
        obtain ⟨body', rfl⟩ := event_of_read?_write h said back
        rfl

/-- An event whose body is a list of an integer and a string comes back as it is. -/
theorem Message.sent_and_received_list :
    (⟨3, "event", .event "output" (some (.arr [.int 1, .str "a"]))⟩ : Message).WellFormed ∧
    Message.read? (⟨3, "event", .event "output" (some (.arr [.int 1, .str "a"]))⟩ : Message).write =
      some ⟨3, "event", .event "output" (some (.arr [.int 1, .str "a"]))⟩ := by
  have body : Json.WellFormed (.arr [.int 1, .str "a"]) :=
    .arr (List.forall_mem_cons.2 ⟨.int (by decide) (by decide),
      List.forall_mem_singleton.2 (.str "a")⟩)
  have wellFormed :
      (⟨3, "event", .event "output" (some (.arr [.int 1, .str "a"]))⟩ : Message).WellFormed := {
    seq := by decide
    answered := fun _ mem => absurd mem (by simp [Content.answered?])
    value := fun v mem => Option.mem_some_iff.1 mem ▸ body
    given := by simp [Content.value?] }
  obtain ⟨-, -, back, -⟩ := sent_and_received _ wellFormed
  exact ⟨wellFormed, back.2 ⟨rfl, by decide, List.forall_mem_nil _⟩⟩

/-- The response to the request to stop. -/
def stopped : Message := ⟨1, "response", .response 7 true "stop" none none⟩

/-- **The response to a request to stop is received as a request to stop**, and it is served as
one. -/
theorem Message.response_received_as_request :
    stopped.WellFormed ∧ Message.read? stopped.write = some ⟨1, "response", .request "stop" none⟩ ∧
      Message.read? stopped.write ≠ some stopped ∧
      ∀ s : Server, s.receive (encodeText stopped.write) =
        ((s.request 1 "stop" .null).1, (s.request 1 "stop" .null).2, true) := by
  have wellFormed : stopped.WellFormed := {
    seq := by decide
    answered := fun n mem => Option.mem_some_iff.1 mem ▸ by decide
    value := fun _ mem => absurd mem (by simp [stopped, Content.value?])
    given := by simp [stopped, Content.value?] }
  have read : Message.read? stopped.write = some ⟨1, "response", .request "stop" none⟩ :=
    read?_write wellFormed
  refine ⟨wellFormed, read, ?_, fun s => ?_⟩
  · rw [read]
    simp [stopped]
  · rw [Server.receive, decodeText?_encodeText, Option.bind_some, read]
    rfl

end SnippetLab.Host

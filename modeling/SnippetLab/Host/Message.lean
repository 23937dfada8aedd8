import SnippetLab.Host.Framing
import SnippetLab.Json.Reader
import SnippetLab.Json.Writer

/-!
# Messages

A message is a request, a response or an event.  What is read as one is decided by its members
alone, in this order, whatever its `type` says: **whatever has a command is a request**.  A member
written twice fits no kind that has it.
-/

namespace SnippetLab.Host

/-- What a message is about. -/
inductive Content where
  | request (command : Text) (arguments : Option Json)
  | response (requestSeq : Nat) (success : Bool) (command : Text) (message : Option Text)
      (body : Option Json)
  | event (name : Text) (body : Option Json)

/-- A numbered message. -/
structure Message where
  seq : Nat
  kind : Text
  content : Content

/-! ## Reading -/

/-- The value of a member, unless it is written more than once: nothing, null or the value. -/
def uniqueMember? (members : List (Text × Json)) (name : Text) : Option (Option Json) :=
  match members.filter fun m => m.1 == name with
  | [] => some none
  | [(_, value)] => some (some value)
  | _ => none

/-- A member that must be there. -/
def required? {α : Type} (members : List (Text × Json)) (name : Text) (read : Json → Option α) :
    Option α :=
  match uniqueMember? members name with
  | some (some value) => read value
  | _ => none

/-- A member that may be missing or null. -/
def optional? {α : Type} (members : List (Text × Json)) (name : Text) (read : Json → Option α) :
    Option (Option α) :=
  match uniqueMember? members name with
  | none => none
  | some none | some (some .null) => some none
  | some (some value) => (read value).map some

/-- The truth value that a member is. -/
def bool? : Json → Option Bool
  | .bool b => some b
  | _ => none

/-- The request some members are. -/
def Content.request? (members : List (Text × Json)) : Option Content := do
  let command ← required? members "command" Json.text?
  let arguments ← optional? members "arguments" some
  pure (.request command arguments)

/-- The response some members are. -/
def Content.response? (members : List (Text × Json)) : Option Content := do
  let requestSeq ← required? members "request_seq" Json.word?
  let success ← required? members "success" bool?
  let command ← required? members "command" Json.text?
  let message ← optional? members "message" Json.text?
  let body ← optional? members "body" some
  pure (.response requestSeq success command message body)

/-- The event some members are. -/
def Content.event? (members : List (Text × Json)) : Option Content := do
  let name ← required? members "event" Json.text?
  let body ← optional? members "body" some
  pure (.event name body)

/-- The message some members are. -/
def Message.ofMembers? (members : List (Text × Json)) : Option Message := do
  let seq ← required? members "seq" Json.word?
  let kind ← required? members "type" Json.text?
  let content ←
    Content.request? members <|> Content.response? members <|> Content.event? members
  pure ⟨seq, kind, content⟩

/-- **The message a text is**, if it is one. -/
def Message.read? (t : Text) : Option Message :=
  match Json.readDocument? t with
  | some ⟨.obj _, members⟩ => Message.ofMembers? members
  | _ => none

/-! ## Writing -/

/-- A member that is written only if there is a value. -/
def givenMember (name : Text) (value : Option Json) : List Text :=
  value.toList.map fun v => Json.member name (Json.write v)

/-- The members of a message's content, written in their order.  A request tells its arguments in
any case. -/
def Content.members : Content → List Text
  | .request command arguments =>
    [Json.member "command" (Json.quote command),
      Json.member "arguments" (Json.write (arguments.getD .null))]
  | .response requestSeq success command message body =>
    [Json.member "request_seq" (Decimal.ofNat requestSeq),
      Json.member "success" (Json.write (.bool success)),
      Json.member "command" (Json.quote command)] ++
      givenMember "message" (message.map .str) ++ givenMember "body" body
  | .event name body => Json.member "event" (Json.quote name) :: givenMember "body" body

/-- **A message as text.** -/
def Message.write (m : Message) : Text :=
  Json.braced
    (Json.member "seq" (Decimal.ofNat m.seq) :: Json.member "type" (Json.quote m.kind) ::
      m.content.members)

/-- A message in its frame. -/
def Message.framed (m : Message) : Text := frameText m.write

end SnippetLab.Host

import SnippetLab.Json.Token

/-!
# Reading JSON

A value is built from tokens by a machine that keeps the arrays and objects still open on a stack
and knows what may come next.  An object is put in order when it is closed.  The members of the
outermost object are also kept as they were written, repetitions included, for readers that mind
them.
-/

namespace SnippetLab.Json

/-- An array or object still open; what it holds so far is in reverse. -/
inductive Frame where
  | array (items : List Json)
  /-- An object, with the name of the member being read. -/
  | object (members : List (Text × Json)) (name : Text)

/-- A value read, and its members as written if it is an object. -/
structure Document where
  value : Json
  members : List (Text × Json)

/-- What may come next. -/
inductive Expectation where
  /-- A value. -/
  | value
  /-- A value or the end of the array. -/
  | firstItem
  /-- A comma or the end of the array. -/
  | afterItem
  /-- A name or the end of the object; the members so far. -/
  | firstName
  /-- A name; the members so far, in reverse. -/
  | name (members : List (Text × Json))
  /-- The colon after a name. -/
  | colon (members : List (Text × Json)) (name : Text)
  /-- A comma or the end of the object; the members so far, in reverse. -/
  | afterMember (members : List (Text × Json))
  /-- Nothing more. -/
  | done (document : Document)

/-- The machine between two tokens. -/
structure Builder where
  stack : List Frame
  expectation : Expectation

/-- **Arrays and objects are nested at most this deep.** -/
def depthLimit : Nat := 127

namespace Builder

/-- A value is complete. -/
def supply (stack : List Frame) (document : Document) : Builder :=
  match stack with
  | [] => ⟨[], .done document⟩
  | .array items :: rest => ⟨.array (document.value :: items) :: rest, .afterItem⟩
  | .object members name :: rest => ⟨rest, .afterMember ((name, document.value) :: members)⟩

/-- A value that is no object is complete. -/
def supplyValue (stack : List Frame) (value : Json) : Builder := supply stack ⟨value, []⟩

/-- An object is complete, with its members in reverse. -/
def supplyObject (stack : List Frame) (members : List (Text × Json)) : Builder :=
  supply stack ⟨.object members.reverse, members.reverse⟩

/-- How many arrays and objects are open. -/
def depth (b : Builder) : Nat :=
  match b.expectation with
  | .firstName | .name _ | .colon .. | .afterMember _ => b.stack.length + 1
  | _ => b.stack.length

/-- A token where a value may stand. -/
def value? (stack : List Frame) : Token → Option Builder
  | .openObject => if stack.length < depthLimit then some ⟨stack, .firstName⟩ else none
  | .openArray =>
    if stack.length < depthLimit then some ⟨.array [] :: stack, .firstItem⟩ else none
  | .string t => some (supplyValue stack (.str t))
  | .scalar value => some (supplyValue stack value)
  | _ => none

/-- The end of the array on top of the stack. -/
def closeArray? : List Frame → Option Builder
  | .array items :: rest => some (supplyValue rest (.arr items.reverse))
  | _ => none

/-- **Take one token**; nothing if it may not come next. -/
def next? (b : Builder) (token : Token) : Option Builder :=
  match b.expectation, token with
  | .firstItem, .closeArray => closeArray? b.stack
  | .value, token | .firstItem, token => value? b.stack token
  | .afterItem, .comma => some { b with expectation := .value }
  | .afterItem, .closeArray => closeArray? b.stack
  | .firstName, .closeObject => some (supplyObject b.stack [])
  | .firstName, .string t => some { b with expectation := .colon [] t }
  | .name members, .string t => some { b with expectation := .colon members t }
  | .colon members t, .colon => some ⟨.object members t :: b.stack, .value⟩
  | .afterMember members, .comma => some { b with expectation := .name members }
  | .afterMember members, .closeObject => some (supplyObject b.stack members)
  | _, _ => none

end Builder

/-- The document some tokens are. -/
def document? (tokens : List Token) : Option Document :=
  match tokens.foldlM Builder.next? ⟨[], .value⟩ with
  | some ⟨_, .done document⟩ => some document
  | _ => none

/-- **Read a text that is one value.** -/
def readDocument? (t : Text) : Option Document := (tokens? t).bind document?

/-- Read a text that is one value. -/
def read? (t : Text) : Option Json := (readDocument? t).map Document.value

end SnippetLab.Json

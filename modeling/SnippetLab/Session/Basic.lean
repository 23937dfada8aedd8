import SnippetLab.Expression.Evaluate
import SnippetLab.Session.NameTable
import SnippetLab.Settings

/-!
# Sessions

What a snippet's run has come to: the variables with the values they have held, the calls not yet
left, the captured output, and a record of the latest statements.

* `Output.write` keeps the first `limit` characters of everything written.
* `CallStack` is never empty: the frame of `main` lies below all calls, and **only calls can be
  left**.
* `Session.record` keeps the latest `historyLimit` statements.
-/

namespace SnippetLab

/-! ## Variables -/

/-- A variable: what it was declared as, and what it has held. -/
structure Binding where
  name : Text
  typeTag : Text
  value : Text
  declaredLine : Nat
  lastModifiedLine : Nat
  /-- The values held since the declaration, oldest first, without repetitions in a row. -/
  history : List Text
  deriving Repr, DecidableEq

namespace Binding

/-- A variable as its declaration leaves it. -/
def declare (name typeTag value : Text) (line : Nat) : Binding :=
  { name, typeTag, value, declaredLine := line, lastModifiedLine := line, history := [value] }

/-- The variable with another value; nothing if the value is the one it has. -/
def update? (b : Binding) (value : Text) (line : Nat) : Option Binding :=
  if value = b.value then none
  else some { b with value, lastModifiedLine := line, history := b.history ++ [value] }

end Binding

/-! ## Calls -/

/-- A method that has been entered, and the variables as it last saw them. -/
structure Frame where
  method : Text
  /-- The line of the call. -/
  line : Nat
  locals : NameTable Text
  deriving Repr, DecidableEq

/-- The calls not yet left, above the frame the program starts in. -/
structure CallStack where
  /-- The variables as the lowest frame last saw them. -/
  rootLocals : NameTable Text
  /-- The calls, latest first. -/
  calls : List Frame
  deriving Repr, DecidableEq

namespace CallStack

/-- The method a program starts in. -/
def rootMethod : Text := "main"

/-- No call made. -/
def empty : CallStack := ⟨[], []⟩

/-- The frame the program starts in; it was entered at no line. -/
def root (stack : CallStack) : Frame := ⟨rootMethod, 0, stack.rootLocals⟩

/-- All frames, the lowest first. -/
def frames (stack : CallStack) : List Frame := stack.root :: stack.calls.reverse

/-- The frame of the latest call. -/
def top (stack : CallStack) : Frame := stack.calls.head?.getD stack.root

/-- Enter a method. -/
def push (stack : CallStack) (frame : Frame) : CallStack :=
  { stack with calls := frame :: stack.calls }

/-- Leave the latest call, if there is one. -/
def pop? (stack : CallStack) : Option (Frame × CallStack) :=
  match stack.calls with
  | [] => none
  | frame :: rest => some (frame, { stack with calls := rest })

/-- Let the top frame see other variables. -/
def withTopLocals (stack : CallStack) (locals : NameTable Text) : CallStack :=
  match stack.calls with
  | [] => { stack with rootLocals := locals }
  | frame :: rest => { stack with calls := { frame with locals } :: rest }

end CallStack

/-! ## Output -/

/-- The first characters of what a program has written. -/
structure Output where
  text : Text
  limit : Nat
  /-- Has anything been written that was not kept? -/
  truncated : Bool
  deriving Repr, DecidableEq

namespace Output

/-- Nothing written. -/
def empty (limit : Nat) : Output := ⟨[], limit, false⟩

/-- How many more characters would be kept. -/
def room (out : Output) : Nat := out.limit - out.text.length

/-- Write a text, as far as there is room. -/
def write (out : Output) (t : Text) : Output :=
  { out with
    text := out.text ++ t.take out.room
    truncated := out.truncated || decide (out.room < t.length) }

end Output

/-! ## The session -/

/-- An executed statement and the variables after it. -/
structure HistoryEntry where
  line : Nat
  text : Text
  values : NameTable Text
  deriving Repr, DecidableEq

/-- What a run has come to. -/
structure Session where
  language : Language
  bindings : NameTable Binding
  stack : CallStack
  output : Output
  /-- The latest executed statements, oldest first. -/
  history : List HistoryEntry
  historyLimit : Nat
  deriving Repr, DecidableEq

namespace Session

/-- A session in which nothing has happened. -/
def start (language : Language) (settings : Settings) : Session :=
  { language, bindings := [], stack := .empty, output := .empty settings.maxOutputChars
    history := [], historyLimit := settings.historyLimit }

/-- Forget everything that has happened; the language and the limits stay. -/
def reset (s : Session) : Session :=
  { s with bindings := [], stack := .empty, output := .empty s.output.limit, history := [] }

/-- The variable of a name. -/
def binding? (s : Session) (name : Text) : Option Binding := s.bindings.get? name

/-- The value of every variable. -/
def snapshot (s : Session) : NameTable Text := s.bindings.mapValues Binding.value

/-- Names stand for the values of the variables. -/
def environment (s : Session) : Environment := fun name => (s.binding? name).map Binding.value

/-- Put a variable into the table and let the top frame see it. -/
def setVariable (s : Session) (b : Binding) : Session :=
  let s' := { s with bindings := s.bindings.set b.name b }
  { s' with stack := s'.stack.withTopLocals s'.snapshot }

/-- **Declare a variable**, in place of one of that name. -/
def declare (s : Session) (b : Binding) : Session := s.setVariable b

/-- **Give a variable a value**: nothing if there is no such variable or it has that value. -/
def assign? (s : Session) (name value : Text) (line : Nat) : Option Session :=
  match s.binding? name with
  | none => none
  | some b => (b.update? value line).map s.setVariable

/-- Enter a method that sees all variables. -/
def pushFrame (s : Session) (method : Text) (line : Nat) : Session :=
  { s with stack := s.stack.push ⟨method, line, s.snapshot⟩ }

/-- Leave the latest call, if there is one. -/
def popFrame? (s : Session) : Option (Frame × Session) :=
  s.stack.pop?.map fun (frame, stack) => (frame, { s with stack })

/-- Write to the output. -/
def write (s : Session) (t : Text) : Session := { s with output := s.output.write t }

/-- **Remember a statement** together with the variables; the oldest memory makes room. -/
def record (s : Session) (line : Nat) (text : Text) : Session :=
  if s.historyLimit = 0 then s
  else
    let kept := if s.historyLimit ≤ s.history.length then s.history.drop 1 else s.history
    { s with history := kept ++ [⟨line, text, s.snapshot⟩] }

end Session

end SnippetLab

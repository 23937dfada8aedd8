import SnippetLab.Proofs.Session.Locals

/-!
# Effects tell all

Whoever applies a statement looks at the effect and not at the session: it is told that nothing has
changed, or which variable, or what was written, or that the call stack has.  Here it is shown that
**nothing has changed but what is told**, and that a statement that fails has changed nothing.

`Session.apply` gives no session where it fails, so the second would be nothing to show of it.  It
is shown of statements that are carried out in place, step by step, where what has been changed
before a failure would stay.

* `InPlace`, `carryOut` — a statement that changes the session it is applied to.
* `run_carryOut` — it does what `Session.apply` says, and a failing one leaves the session as it
  was.
* `ChangesOnly` — what each effect rules out, field by field.
* `effects_tell_all` — both, for every statement in every session.
-/

namespace SnippetLab.Session

/-! ## Statements in place -/

/-- Something done to a session in place.  It may fail, and **what it has changed until then
stays**. -/
abbrev InPlace := EStateM StatementError Session

/-- The top frame sees the variables as they are now. -/
def syncLocals : InPlace Unit :=
  modify fun s => { s with stack := s.stack.withTopLocals s.snapshot }

/-- Put a variable into its place in the table. -/
def store (name : Text) (b : Binding) : InPlace Unit := do
  modify fun s => { s with bindings := s.bindings.set name b }
  syncLocals

/-- Give a variable a value, and tell whether it is another one. -/
def overwrite (name value : Text) (line : Nat) : InPlace Bool := do
  match (← get).binding? name with
  | none => pure false
  | some b =>
    match b.update? value line with
    | none => pure false
    | some changed =>
      store name changed
      pure true

/-- Declare a variable. -/
def bindVariable (line : Nat) (typeTag name value : Text) : InPlace Effect := do
  store name (.declare name typeTag value line)
  pure (.variable name)

/-- **Carry out a statement in place.** -/
def carryOut (line : Nat) : Statement → InPlace Effect
  | .blank | .comment | .unrecognized => pure .none
  | .declare typeTag name init => do
    if init.isEmpty then throw (.missingValue name)
    let value := evaluate (← get).environment init
    bindVariable line typeTag name value
  | .declareDefault typeTag name => bindVariable line typeTag name (defaultValue typeTag)
  | .assign name op expr => do
    if expr.isEmpty then throw (.missingValue name)
    let value := evaluate (← get).environment (assignedExpr name op expr)
    if ((← get).binding? name).isNone then
      if (← get).language = .python then bindVariable line "var" name value else pure .none
    else
      if ← overwrite name value line then pure (.variable name) else pure .none
  | .step name direction => do
    match (← get).binding? name with
    | none => pure .none
    | some b =>
      match Decimal.signedWord? b.value with
      | none => pure .none
      | some n =>
        unless Decimal.fits (n + direction.unit) do throw (.overflow name)
        let _ ← overwrite name (Decimal.ofInt (n + direction.unit)) line
        pure (.variable name)
  | .print args newline => do
    let text := (← get).printed args newline
    modify (·.write text)
    pure (.output text)
  | .leave => do
    match (← get).popFrame? with
    | none => pure .none
    | some (_, left) =>
      set left
      pure .callStack
  | .call method => do
    modify (·.pushFrame method line)
    pure .callStack

/-- What comes of a statement, with the session that is left: **a failure leaves the session as it
was.** -/
def outcome (s : Session) :
    Except StatementError (Effect × Session) → EStateM.Result StatementError Session Effect
  | .ok (effect, s') => .ok effect s'
  | .error e => .error e s

variable {s : Session}

lemma run_store (name : Text) (b : Binding) (same : b.name = name) :
    (store name b).run s = .ok () (s.setVariable b) := by
  subst same
  rfl

lemma run_bindVariable (line : Nat) (typeTag name value : Text) :
    (bindVariable line typeTag name value).run s =
      s.outcome (.ok (s.applyDeclare line typeTag name value)) := rfl

/-- Overwriting is assigning, where every variable stands under its own name. -/
lemma run_overwrite (named : s.Named) (name value : Text) (line : Nat) :
    (overwrite name value line).run s =
      match s.assign? name value line with
      | none => .ok false s
      | some s' => .ok true s' := by
  simp only [overwrite, assign?, EStateM.run_bind, EStateM.run_get]
  cases found : s.binding? name with
  | none => rfl
  | some b =>
      cases updated : b.update? value line with
      | none => simp [updated]
      | some changed =>
          have same : changed.name = name := by
            rw [name_of_update? updated]
            exact named name b found
          simp only [updated, EStateM.run_bind, run_store name changed same]
          rfl

lemma run_carryOut_assign (named : s.Named) (line : Nat) (name : Text) (op : Option Sign)
    (expr : Text) :
    (carryOut line (.assign name op expr)).run s =
      s.outcome (s.apply line (.assign name op expr)) := by
  by_cases missing : expr.isEmpty = true
  · simp only [carryOut, apply, missing, if_true]
    rfl
  · simp only [carryOut, apply, missing, outcome, applyAssign, Bool.false_eq_true, if_false,
      EStateM.run_bind, EStateM.run_get]
    cases s.binding? name with
    | none =>
        by_cases python : s.language = .python
        · simp [python, run_bindVariable, outcome]
        · simp [python]
    | some b =>
        simp only [Option.isNone_some, Bool.false_eq_true, if_false, EStateM.run_bind,
          run_overwrite named]
        cases s.assign? name (evaluate s.environment (assignedExpr name op expr)) line with
        | none => rfl
        | some s' => rfl

lemma run_carryOut_step (named : s.Named) (line : Nat) (name : Text) (direction : Sign) :
    (carryOut line (.step name direction)).run s =
      s.outcome (s.apply line (.step name direction)) := by
  simp only [carryOut, apply, applyStep, EStateM.run_bind, EStateM.run_get]
  cases s.binding? name with
  | none => rfl
  | some b =>
      cases read : Decimal.signedWord? b.value with
      | none => simp [read, outcome]
      | some n =>
          by_cases within : Decimal.fits (n + direction.unit) = true
          · simp only [read, within, Option.bind_some, if_true, EStateM.run_bind,
              EStateM.run_pure, run_overwrite named, outcome]
            cases s.assign? name (Decimal.ofInt (n + direction.unit)) line with
            | none => rfl
            | some s' => rfl
          · simp only [read, within, Option.bind_some]
            rfl

/-- **A statement in place does what applying it says**, and one that fails leaves the session as it
was. -/
theorem run_carryOut (named : s.Named) (line : Nat) (statement : Statement) :
    (carryOut line statement).run s = s.outcome (s.apply line statement) := by
  cases statement with
  | declare typeTag name init =>
      by_cases missing : init.isEmpty = true
      · simp only [carryOut, apply, missing, if_true]
        rfl
      · simp only [carryOut, apply, missing]
        rfl
  | assign name op expr => exact run_carryOut_assign named line name op expr
  | step name direction => exact run_carryOut_step named line name direction
  | leave =>
      simp only [carryOut, apply, EStateM.run_bind, EStateM.run_get]
      cases s.popFrame? with
      | none => rfl
      | some popped => rfl
  | blank | comment | unrecognized | declareDefault | print | call => rfl

/-! ## What an effect rules out -/

/-- **Nothing has changed but one variable**, and what the top frame shows of the variables. -/
structure ChangesVariable (s : Session) (name : Text) (s' : Session) : Prop where
  rest_eq : s' = { s with bindings := s'.bindings, stack := s'.stack }
  others_eq : ∀ other, other ≠ name → s'.binding? other = s.binding? other
  bound : ∃ b, s'.binding? name = some b ∧ b.name = name
  frames_eq : ∃ below top, s.stack.frames = below ++ [top] ∧
    s'.stack.frames = below ++ [{ top with locals := s'.snapshot }]

/-- **Nothing has changed but the output**, which holds as much more of what was written as there
was room for. -/
structure ChangesOutput (s : Session) (text : Text) (s' : Session) : Prop where
  rest_eq : s' = { s with output := s'.output }
  limit_eq : s'.output.limit = s.output.limit
  text_eq : s'.output.text =
    s.output.text ++ text.take (s.output.limit - s.output.text.length)
  truncated_iff : s'.output.truncated = true ↔
    s.output.truncated = true ∨ s.output.limit - s.output.text.length < text.length

/-- **Nothing has changed but the call stack**, which has one frame more, or one less that was not
the lowest. -/
structure ChangesStack (s s' : Session) : Prop where
  rest_eq : s' = { s with stack := s'.stack }
  lowest_eq : s'.stack.frames.head? = s.stack.frames.head?
  moved : (∃ frame, frame.locals = s.snapshot ∧ s'.stack.frames = s.stack.frames ++ [frame]) ∨
    ∃ frame, s.stack.frames = s'.stack.frames ++ [frame]

/-- **What an effect leaves open**: everything else is as before. -/
def ChangesOnly (s : Session) : Effect → Session → Prop
  | .none, s' => s' = s
  | .variable name, s' => s.ChangesVariable name s'
  | .output text, s' => s.ChangesOutput text s'
  | .callStack, s' => s.ChangesStack s'

/-- The top frame takes other locals, and the frames below it stay. -/
lemma frames_withTopLocals (stack : CallStack) (locals : NameTable Text) :
    ∃ below top, stack.frames = below ++ [top] ∧
      (stack.withTopLocals locals).frames = below ++ [{ top with locals }] := by
  rcases stack with ⟨root, _ | ⟨frame, rest⟩⟩
  · exact ⟨[], ⟨CallStack.rootMethod, 0, root⟩, rfl, rfl⟩
  · refine ⟨⟨CallStack.rootMethod, 0, root⟩ :: rest.reverse, frame, ?_, ?_⟩
    · simp [CallStack.frames, CallStack.root]
    · simp [CallStack.frames, CallStack.root, CallStack.withTopLocals]

lemma changesVariable_setVariable (s : Session) (b : Binding) :
    s.ChangesVariable b.name (s.setVariable b) where
  rest_eq := rfl
  others_eq _ different := NameTable.get?_set_of_ne different b s.bindings
  bound := ⟨b, NameTable.get?_set_self b.name b s.bindings, rfl⟩
  frames_eq := frames_withTopLocals s.stack _

lemma changesOutput_write (s : Session) (text : Text) : s.ChangesOutput text (s.write text) where
  rest_eq := rfl
  limit_eq := rfl
  text_eq := rfl
  truncated_iff := by rw [write, Output.write, Bool.or_eq_true, decide_eq_true_eq, Output.room]

lemma changesStack_pushFrame (s : Session) (method : Text) (line : Nat) :
    s.ChangesStack (s.pushFrame method line) where
  rest_eq := rfl
  lowest_eq := rfl
  moved := Or.inl ⟨⟨method, line, s.snapshot⟩, rfl, by
    simp [pushFrame, CallStack.push, CallStack.frames, CallStack.root]⟩

lemma changesStack_popFrame? {s' : Session} {frame : Frame}
    (left : s.popFrame? = some (frame, s')) : s.ChangesStack s' := by
  obtain ⟨language, bindings, ⟨root, _ | ⟨top, rest⟩⟩, output, history, limit⟩ := s
  · cases left
  · cases left
    exact ⟨rfl, rfl, Or.inr ⟨frame, by simp [CallStack.frames, CallStack.root]⟩⟩

/-- **Every change is only what its effect says.** -/
lemma Changes.changesOnly {s' : Session} {effect : Effect} (h : s.Changes effect s') :
    s.ChangesOnly effect s' := by
  cases h with
  | nothing => rfl
  | set b => exact changesVariable_setVariable s b
  | output text => exact changesOutput_write s text
  | enter method line => exact changesStack_pushFrame s method line
  | leave left => exact changesStack_popFrame? left

/-- The value of a variable changes only with its own effect. -/
lemma Changes.effect_of_environment {s' : Session} {effect : Effect} (h : s.Changes effect s')
    {name : Text} (changed : s'.environment name ≠ s.environment name) :
    effect = .variable name := by
  cases h with
  | nothing => exact absurd rfl changed
  | set b =>
      by_cases same : name = b.name
      · rw [same]
      · have kept := (changesVariable_setVariable s b).others_eq name same
        exact absurd (by rw [environment, environment, kept]) changed
  | output text => exact absurd rfl changed
  | enter method line => exact absurd rfl changed
  | leave left =>
      have kept := (changesStack_popFrame? left).rest_eq
      exact absurd (by rw [kept]; rfl) changed

/-- **Effects tell all.**  Let a statement be carried out in place, in any session that operations
have led to.  It comes to what applying it says.  If it fails, or has no effect, the session is as
it was; otherwise nothing has changed but what the effect says, and a variable that has another
value than before is the one the effect names. -/
theorem effects_tell_all (language : Language) (settings : Settings) (ops : List Operation)
    (line : Nat) (statement : Statement) :
    let s := (start language settings).performAll ops
    match (carryOut line statement).run s with
    | .error e s' => s.apply line statement = .error e ∧ s' = s
    | .ok effect s' => s.apply line statement = .ok (effect, s') ∧ s.ChangesOnly effect s' ∧
        ∀ name, s'.environment name ≠ s.environment name → effect = .variable name := by
  intro s
  have named : s.Named := named_performAll (named_start language settings) ops
  rw [run_carryOut named]
  cases applied : s.apply line statement with
  | error e => exact ⟨rfl, rfl⟩
  | ok result =>
      obtain ⟨effect, s'⟩ := result
      have changes := changes_of_apply named applied
      exact ⟨rfl, changes.changesOnly, fun name => changes.effect_of_environment⟩

end SnippetLab.Session

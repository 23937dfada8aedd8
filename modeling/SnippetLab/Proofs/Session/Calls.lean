import Mathlib.Data.List.DropRight
import SnippetLab.Proofs.Session.Locals

/-!
# The frames of a session are its open calls

The call stack is changed by one call or one return at a time, and there may be returns too many.
Here it is compared with the calls and returns of a whole run, in which a return belongs to the
call before it that has only pairs of calls and returns behind it, or to none.

* `Turn`, `Turn.Paired` — calls and returns, and the turns in which each has its partner.
* `Turn.IsLeft`, `Turn.openCalls` — which calls have been left, and those that have not.
* `Turn.foldl_onto` — calls and returns, carried out one by one on a stack, leave the open calls on
  what was not left of the stack.
* `Action`, `Action.turn?` — all that can be done in a run, and what of it is a call or a return.
* `frames_are_open_calls` — **above the frame of the program stand the open calls**, after any
  operations, statements and resets.
-/

namespace SnippetLab

/-! ## Calls and returns -/

/-- A method that is entered, and the line it is called on. -/
structure MethodCall where
  method : Text
  line : Nat
  deriving Repr, DecidableEq

/-- What the call stack takes notice of. -/
inductive Turn where
  | enter (call : MethodCall)
  | leave
  deriving Repr, DecidableEq

namespace Turn

/-- **Calls and returns that pair up**: nothing, or a call and its return with such turns between
them and behind them. -/
inductive Paired : List Turn → Prop where
  | nil : Paired []
  | pair (call : MethodCall) {between behind : List Turn} (inner : Paired between)
      (later : Paired behind) : Paired (.enter call :: (between ++ .leave :: behind))

/-- **A call is left** in the turns that follow it, by the return that has only pairs before it. -/
def IsLeft (later : List Turn) : Prop :=
  ∃ between behind, later = between ++ .leave :: behind ∧ Paired between

/-- How many calls that were made before some turns are left in them. -/
def surplus : List Turn → Nat
  | [] => 0
  | .enter _ :: later => surplus later - 1
  | .leave :: later => surplus later + 1

/-- **A call or a return on a stack** of calls, the latest first.  A return finds nothing to leave
if there is no call. -/
def onto (calls : List MethodCall) : Turn → List MethodCall
  | .enter call => call :: calls
  | .leave => calls.tail

section

variable {turns later : List Turn} {n : Nat}

/-- Pairs leave no call that was made before them. -/
lemma surplus_append (h : Paired turns) (later : List Turn) :
    surplus (turns ++ later) = surplus later := by
  induction h generalizing later with
  | nil => rfl
  | pair call _ _ inner outer =>
      rw [List.cons_append, surplus, List.append_assoc, inner, List.cons_append, surplus, outer,
        Nat.add_sub_cancel]

/-- Turns that leave `n` calls made before them, each by a return behind pairs. -/
def Leaves : Nat → List Turn → Prop
  | 0, _ => True
  | n + 1, turns => ∃ between behind, turns = between ++ .leave :: behind ∧ Paired between ∧
      Leaves n behind

/-- **Every return left over has only pairs before it**, back to the one left over before. -/
lemma leaves_of_le_surplus (h : n ≤ surplus turns) : Leaves n turns := by
  induction turns generalizing n with
  | nil =>
      rw [Nat.le_zero.1 h]
      trivial
  | cons turn later ih =>
      cases n with
      | zero => trivial
      | succ n =>
          cases turn with
          | enter call =>
              -- one return more is left over behind the call, and that one is its partner
              have more : n + 2 ≤ surplus later := by
                rw [surplus] at h
                omega
              obtain ⟨inner, _, rfl, pairs, between, behind, rfl, morePairs, rest⟩ := ih more
              exact ⟨.enter call :: (inner ++ .leave :: between), behind, by simp,
                .pair call pairs morePairs, rest⟩
          | leave => exact ⟨[], later, rfl, .nil, ih (Nat.le_of_succ_le_succ h)⟩

/-- **A call is left exactly if a return is left over behind it.** -/
theorem isLeft_iff : IsLeft later ↔ 0 < surplus later := by
  constructor
  · rintro ⟨between, behind, rfl, pairs⟩
    rw [surplus_append pairs]
    exact Nat.succ_pos _
  · intro left
    obtain ⟨between, behind, split, pairs, -⟩ := leaves_of_le_surplus left
    exact ⟨between, behind, split, pairs⟩

instance (later : List Turn) : Decidable (IsLeft later) := decidable_of_iff _ isLeft_iff.symm

end

/-- **The calls that have not been left**, in their order, each with its method and its line. -/
def openCalls : List Turn → List MethodCall
  | [] => []
  | .enter call :: later =>
    if IsLeft later then openCalls later else call :: openCalls later
  | .leave :: later => openCalls later

/-- **Turns carried out one by one** put the open calls on top of what they do not leave. -/
theorem foldl_onto (turns : List Turn) (calls : List MethodCall) :
    turns.foldl onto calls = (openCalls turns).reverse ++ calls.drop (surplus turns) := by
  induction turns generalizing calls with
  | nil => rfl
  | cons turn later ih =>
      rw [List.foldl_cons, ih]
      cases turn with
      | enter call =>
          rw [onto, openCalls, surplus]
          by_cases left : IsLeft later
          · obtain ⟨n, more⟩ := Nat.exists_eq_succ_of_ne_zero (isLeft_iff.1 left).ne'
            rw [if_pos left, more]
            rfl
          · rw [if_neg left, Nat.eq_zero_of_not_pos (isLeft_iff.not.1 left)]
            simp
      | leave => rw [onto, openCalls, surplus, List.drop_tail]

end Turn

/-- The method of a frame and the line of its call. -/
def Frame.call (frame : Frame) : MethodCall := ⟨frame.method, frame.line⟩

/-- The calls of a stack, the latest first, without what they see. -/
def CallStack.made (stack : CallStack) : List MethodCall := stack.calls.map Frame.call

lemma CallStack.made_withTopLocals (stack : CallStack) (locals : NameTable Text) :
    (stack.withTopLocals locals).made = stack.made := by
  rcases stack with ⟨root, _ | ⟨frame, rest⟩⟩
  · rfl
  · rfl

/-- The lowest frame is that of the program, and above it stand the calls. -/
lemma CallStack.frames_made (stack : CallStack) :
    stack.frames.map Frame.call = ⟨"main", 0⟩ :: stack.made.reverse := by
  rw [frames, List.map_cons, List.map_reverse]
  rfl

namespace Session

/-! ## Actions -/

/-- All that can be done in a run: besides the operations, statements that no line need be. -/
inductive Action where
  | operation (op : Operation)
  /-- The statement is applied, unless it fails. -/
  | statement (statement : Statement) (line : Nat)
  deriving Repr, DecidableEq

/-- The session after an action. -/
def act (s : Session) : Action → Session
  | .operation op => s.perform op
  | .statement statement line =>
    match s.apply line statement with
    | .error _ => s
    | .ok (_, applied) => applied

/-- The session after some actions. -/
def actAll (s : Session) (actions : List Action) : Session := actions.foldl act s

/-- The call or return that a statement is. -/
def turnOf? (line : Nat) : Statement → Option Turn
  | .call method => some (.enter ⟨method, line⟩)
  | .leave => some .leave
  | _ => none

/-- **The call or return that an action is**, in a session of a language. -/
def Action.turn? (language : Language) : Action → Option Turn
  | .operation (.enter method line) => some (.enter ⟨method, line⟩)
  | .operation .leave => some .leave
  | .operation (.line text number) => turnOf? number (classify language text)
  | .operation _ => none
  | .statement st line => turnOf? line st

/-- The actions behind the last reset. -/
def sinceReset (actions : List Action) : List Action :=
  actions.rtakeWhile (· != .operation .reset)

/-- **The calls and returns since the last reset.** -/
def turnsOf (language : Language) (actions : List Action) : List Turn :=
  (sinceReset actions).filterMap (Action.turn? language)

variable {s s' : Session}

/-! ## One action -/

lemma made_setVariable (s : Session) (b : Binding) :
    (s.setVariable b).stack.made = s.stack.made :=
  CallStack.made_withTopLocals _ _

lemma made_assign? {name value : Text} {line : Nat}
    (assigned : s.assign? name value line = some s') : s'.stack.made = s.stack.made := by
  unfold assign? at assigned
  split at assigned
  · cases assigned
  · obtain ⟨b, -, rfl⟩ := Option.map_eq_some_iff.1 assigned
    exact made_setVariable s b

lemma made_applyAssign (s : Session) (line : Nat) (name value : Text) :
    (s.applyAssign line name value).2.stack.made = s.stack.made := by
  unfold applyAssign
  split
  · split
    · exact made_setVariable s _
    · rfl
  · split
    · rename_i assigned
      exact made_assign? assigned
    · rfl

/-- A return takes the latest call off, if there is one. -/
lemma made_popFrame? (s : Session) :
    ((s.popFrame?.map Prod.snd).getD s).stack.made = s.stack.made.tail := by
  obtain ⟨language, bindings, ⟨root, _ | ⟨frame, rest⟩⟩, output, history, limit⟩ := s
  · rfl
  · rfl

/-- A return that finds no call leaves the session as it is. -/
lemma act_leave (s : Session) (line : Nat) :
    s.act (.statement .leave line) = (s.popFrame?.map Prod.snd).getD s := by
  simp only [act, apply]
  cases s.popFrame? with
  | none => rfl
  | some popped => rfl

/-- **A statement changes the calls only if it is a call or a return.** -/
theorem made_apply (s : Session) (line : Nat) (statement : Statement) :
    (s.act (.statement statement line)).stack.made =
      (turnOf? line statement).toList.foldl Turn.onto s.stack.made := by
  cases statement with
  | declare typeTag name init =>
      simp only [act, apply]
      by_cases missing : init.isEmpty = true
      · simp only [missing, if_true]
        rfl
      · simp only [missing]
        exact made_setVariable s _
  | assign name op expr =>
      simp only [act, apply]
      by_cases missing : expr.isEmpty = true
      · simp only [missing, if_true]
        rfl
      · simp only [missing]
        exact made_applyAssign s line name _
  | step name direction =>
      simp only [act, apply, applyStep]
      cases (s.binding? name).bind fun b => Decimal.signedWord? b.value with
      | none => rfl
      | some n =>
          by_cases within : Decimal.fits (n + direction.unit) = true
          · simp only [within, if_true]
            cases assigned : s.assign? name (Decimal.ofInt (n + direction.unit)) line with
            | none => rfl
            | some s' => exact made_assign? assigned
          · simp only [within]
            rfl
  | declareDefault typeTag name => exact made_setVariable s _
  | leave =>
      rw [act_leave]
      exact s.made_popFrame?
  | blank | comment | unrecognized | print | call => rfl

/-- **An action changes the calls only by its turn**, unless it forgets them all. -/
theorem made_act (s : Session) {action : Action} (other : action ≠ .operation .reset) :
    (s.act action).stack.made =
      (action.turn? s.language).toList.foldl Turn.onto s.stack.made := by
  cases action with
  | statement statement line => exact s.made_apply line statement
  | operation op =>
      cases op with
      | declare b => exact made_setVariable s b
      | assign name value line =>
          simp only [act, perform]
          cases assigned : s.assign? name value line with
          | none => rfl
          | some s' => exact made_assign? assigned
      | record line text =>
          obtain ⟨entries, recorded⟩ := s.record_eq line text
          simp only [act, perform, recorded]
          rfl
      | line text number => exact s.made_apply number (classify s.language text)
      | leave => exact s.made_popFrame?
      | reset => exact absurd rfl other
      | enter | write => rfl

/-- What a reset keeps, the language has not changed if it has not. -/
lemma language_of_reset (same : s'.reset = s.reset) : s'.language = s.language := by
  show s'.reset.language = s.reset.language
  rw [same]

/-- No statement changes the language. -/
lemma language_apply (s : Session) (line : Nat) (statement : Statement) :
    (s.act (.statement statement line)).language = s.language := by
  simp only [act]
  cases applied : s.apply line statement with
  | error e => rfl
  | ok result => exact language_of_reset (reset_apply applied)

/-- No action changes the language. -/
lemma language_act (s : Session) (action : Action) : (s.act action).language = s.language := by
  cases action with
  | statement statement line => exact s.language_apply line statement
  | operation op =>
      cases op with
      | assign name value line =>
          simp only [act, perform]
          cases assigned : s.assign? name value line with
          | none => rfl
          | some s' => exact language_of_reset (reset_assign? assigned)
      | record line text =>
          obtain ⟨entries, recorded⟩ := s.record_eq line text
          simp only [act, perform, recorded]
      | leave =>
          simp only [act, perform]
          cases left : s.popFrame? with
          | none => rfl
          | some popped => exact language_of_reset (reset_popFrame? left)
      | line text number => exact s.language_apply number (classify s.language text)
      | declare | enter | write | reset => rfl

/-! ## Runs -/

lemma actAll_concat (s : Session) (actions : List Action) (action : Action) :
    s.actAll (actions ++ [action]) = (s.actAll actions).act action :=
  List.foldl_concat ..

lemma language_actAll (s : Session) (actions : List Action) :
    (s.actAll actions).language = s.language := by
  induction actions using List.reverseRecOn with
  | nil => rfl
  | append_singleton actions action ih => rw [actAll_concat, language_act, ih]

lemma turnsOf_reset (language : Language) (actions : List Action) :
    turnsOf language (actions ++ [.operation .reset]) = [] := by
  rw [turnsOf, sinceReset, List.rtakeWhile_concat_neg _ _ _ (by decide), List.filterMap_nil]

lemma turnsOf_concat (language : Language) (actions : List Action) {action : Action}
    (other : action ≠ .operation .reset) :
    turnsOf language (actions ++ [action]) =
      turnsOf language actions ++ (action.turn? language).toList := by
  rw [turnsOf, sinceReset, List.rtakeWhile_concat_pos _ _ _ (by simpa using other),
    List.filterMap_append]
  cases turn : action.turn? language with
  | none => simp [turnsOf, sinceReset, turn]
  | some t => simp [turnsOf, sinceReset, turn]

/-- **After a run the stack holds what the calls and returns since the last reset come to.** -/
theorem made_actAll (language : Language) (settings : Settings) (actions : List Action) :
    ((start language settings).actAll actions).stack.made =
      (turnsOf language actions).foldl Turn.onto [] := by
  induction actions using List.reverseRecOn with
  | nil => rfl
  | append_singleton actions action ih =>
      rw [actAll_concat]
      by_cases again : action = .operation .reset
      · rw [again, turnsOf_reset]
        rfl
      · rw [made_act _ again, language_actAll, ih, turnsOf_concat language actions again,
          List.foldl_append]
        rfl

/-- **The call stack is the list of open calls.**  After any operations, statements and resets the
first frame is that of the program, and above it stand, in their order and with their methods and
lines, the calls since the last reset that no later return has left.  A return that finds none of
them changes nothing. -/
theorem frames_are_open_calls (language : Language) (settings : Settings)
    (actions : List Action) :
    let s := (start language settings).actAll actions
    let calls := Turn.openCalls (turnsOf language actions)
    s.stack.frames.map Frame.call = ⟨"main", 0⟩ :: calls ∧
      (calls = [] → s.popFrame? = none ∧ ∀ line, s.apply line .leave = .ok (.none, s)) := by
  intro s calls
  have made : s.stack.made = calls.reverse := by
    rw [show s.stack.made = _ from made_actAll .., Turn.foldl_onto, List.drop_nil,
      List.append_nil]
  constructor
  · rw [CallStack.frames_made, made, List.reverse_reverse]
  · intro none
    have alone : s.stack.calls = [] := by
      rw [none] at made
      exact List.map_eq_nil_iff.1 made
    have stays : s.popFrame? = .none := by
      rw [popFrame?, CallStack.pop?, alone]
      rfl
    refine ⟨stays, fun line => ?_⟩
    simp only [apply, stays]

/-- Two calls are open of the four of a run, one of which was forgotten; and a return too many
changes nothing, before them and after all have been left. -/
theorem frames_are_open_calls_surplus :
    let actions : List Action := [.operation (.line "lost();" 1), .operation .reset,
      .statement .leave 2, .operation (.line "f();" 3), .statement (.call "g") 4,
      .operation (.line "return;" 5), .operation (.enter "h" 6)]
    let surplus : List Action := actions ++ [.operation .leave, .operation .leave]
    let s := (start .java .standard).actAll surplus
    ((start .java .standard).actAll actions).stack.frames.map Frame.call =
        [⟨"main", 0⟩, ⟨"f", 3⟩, ⟨"h", 6⟩] ∧
      Turn.openCalls (turnsOf .java surplus) = [] ∧ s.apply 7 .leave = .ok (.none, s) := by
  intro actions surplus s
  have none : Turn.openCalls (turnsOf .java surplus) = [] := by decide +kernel
  refine ⟨(frames_are_open_calls .java .standard actions).1.trans ?_, none, ?_⟩
  · decide +kernel
  · exact ((frames_are_open_calls .java .standard surplus).2 none).2 7

end Session

end SnippetLab

import Mathlib.Data.List.Induction
import SnippetLab.Proofs.Session.View

/-!
# What the frames of a session show

A frame keeps the variables as it last saw them.  A declaration, a new value or a call brings the
top frame up to date, but leaving a call does not: the frame that is on top again still shows what
it saw before the call.  So the top frame need not mirror the variable table
(`not_mirrors_after_leaving`), and this file says what it shows instead.

* `Operation`, `perform` — all that can be done to a session.
* `Moves` — the five ways in which an operation can touch the variables and the stack.
* `Unseen` — operations that never leave a frame and change no variable while it is on top.
* `top_frame_shows_latest_seen` — **the top frame mirrors an earlier moment of the run**, since when
  it has seen nothing change; it mirrors the present exactly if the variables are the same now.
-/

namespace SnippetLab

/-- How many calls have not been left. -/
def CallStack.depth (stack : CallStack) : Nat := stack.calls.length

/-- The stack below the latest `n` calls. -/
def CallStack.below (n : Nat) (stack : CallStack) : CallStack :=
  { stack with calls := stack.calls.drop n }

lemma CallStack.depth_below (n : Nat) (stack : CallStack) :
    (stack.below n).depth = stack.depth - n :=
  List.length_drop

lemma CallStack.below_of_depth_eq_zero (n : Nat) {stack : CallStack} (alone : stack.depth = 0) :
    stack.below n = stack := by
  rcases stack with ⟨root, _ | ⟨frame, rest⟩⟩
  · rw [below, List.drop_nil]
  · cases alone

lemma CallStack.below_zero (stack : CallStack) : stack.below 0 = stack := rfl

namespace Session

/-! ## Operations -/

/-- What can be done to a session. -/
inductive Operation where
  | declare (b : Binding)
  | assign (name value : Text) (line : Nat)
  | enter (method : Text) (line : Nat)
  | leave
  | write (text : Text)
  | record (line : Nat) (text : Text)
  | reset
  /-- The statement of a line is applied, unless it fails. -/
  | line (text : Text) (number : Nat)
  deriving Repr, DecidableEq

/-- The session after an operation. -/
def perform (s : Session) : Operation → Session
  | .declare b => s.declare b
  | .assign name value line => (s.assign? name value line).getD s
  | .enter method line => s.pushFrame method line
  | .leave => (s.popFrame?.map Prod.snd).getD s
  | .write text => s.write text
  | .record line text => s.record line text
  | .reset => s.reset
  | .line text number =>
    match s.applyLine text number with
    | .error _ => s
    | .ok (_, applied) => applied

/-- The session after some operations. -/
def performAll (s : Session) (ops : List Operation) : Session := ops.foldl perform s

lemma performAll_append (s : Session) (ops later : List Operation) :
    s.performAll (ops ++ later) = (s.performAll ops).performAll later :=
  List.foldl_append

lemma performAll_concat (s : Session) (ops : List Operation) (op : Operation) :
    s.performAll (ops ++ [op]) = (s.performAll ops).perform op :=
  performAll_append s ops [op]

/-- **The five ways of an operation with the variables and the stack.** -/
inductive Moves (s : Session) : Session → Prop where
  | quiet {s' : Session} (stack : s'.stack = s.stack) (bindings : s'.bindings = s.bindings) :
      Moves s s'
  | set (b : Binding) : Moves s (s.setVariable b)
  | enter (method : Text) (line : Nat) : Moves s (s.pushFrame method line)
  | leave {frame : Frame} {s' : Session} (left : s.popFrame? = some (frame, s')) : Moves s s'
  | reset : Moves s s.reset

lemma Changes.moves {s s' : Session} {effect : Effect} (h : s.Changes effect s') : s.Moves s' := by
  cases h with
  | nothing => exact .quiet rfl rfl
  | set b => exact .set b
  | output text => exact .quiet rfl rfl
  | enter method line => exact .enter method line
  | leave left => exact .leave left

lemma moves_record (s : Session) (line : Nat) (text : Text) : s.Moves (s.record line text) := by
  obtain ⟨entries, recorded⟩ := s.record_eq line text
  rw [recorded]
  exact .quiet rfl rfl

/-- **Every operation moves in one of the five ways.** -/
theorem moves_perform {s : Session} (named : s.Named) (op : Operation) :
    s.Moves (s.perform op) := by
  cases op with
  | declare b => exact .set b
  | assign name value line =>
      cases assigned : s.assign? name value line with
      | none =>
          rw [perform, assigned]
          exact .quiet rfl rfl
      | some s' =>
          obtain ⟨b, -, rfl⟩ := exists_of_assign? named assigned
          rw [perform, assigned]
          exact .set b
  | enter method line => exact .enter method line
  | leave =>
      cases left : s.popFrame? with
      | none =>
          rw [perform, left]
          exact .quiet rfl rfl
      | some popped =>
          rw [perform, left]
          exact .leave left
  | write text => exact .quiet rfl rfl
  | record line text => exact moves_record s line text
  | reset => exact .reset
  | line text number =>
      cases applied : s.applyLine text number with
      | error e =>
          rw [perform, applied]
          exact .quiet rfl rfl
      | ok result =>
          rw [perform, applied]
          exact (changes_of_apply named applied).moves

/-- No operation puts a variable under another name. -/
lemma Named.moves {s s' : Session} (h : s.Named) (moved : s.Moves s') : s'.Named := by
  cases moved with
  | quiet _ bindings =>
      intro name b found
      rw [binding?, bindings] at found
      exact h name b found
  | set b => exact h.setVariable b
  | enter method line => exact h
  | leave left =>
      obtain ⟨stack, rfl⟩ := popFrame?_eq_some left
      exact h
  | reset =>
      intro name b found
      cases found

/-! ## The frame on top -/

/-- **The top frame mirrors the table**: it shows every variable with its value. -/
def Mirrors (s : Session) : Prop := s.stack.top.locals = s.snapshot

instance (s : Session) : Decidable s.Mirrors := inferInstanceAs (Decidable (_ = _))

lemma top_withTopLocals (stack : CallStack) (locals : NameTable Text) :
    (stack.withTopLocals locals).top.locals = locals := by
  rcases stack with ⟨root, _ | ⟨frame, rest⟩⟩
  · rfl
  · rfl

/-- A declaration or a new value is seen by the frame on top. -/
lemma mirrors_setVariable (s : Session) (b : Binding) : (s.setVariable b).Mirrors :=
  top_withTopLocals _ _

lemma depth_setVariable (s : Session) (b : Binding) :
    (s.setVariable b).stack.depth = s.stack.depth := by
  obtain ⟨language, bindings, ⟨root, _ | ⟨frame, rest⟩⟩, output, history, limit⟩ := s
  · rfl
  · rfl

/-- The frames under the top are as they were. -/
lemma below_setVariable (s : Session) (b : Binding) {n : Nat} (under : s.stack.depth ≠ 0) :
    (s.setVariable b).stack.below (n + 1) = s.stack.below (n + 1) := by
  obtain ⟨language, bindings, ⟨root, _ | ⟨frame, rest⟩⟩, output, history, limit⟩ := s
  · exact absurd rfl under
  · rfl

/-- Leaving a call uncovers the frame under it and changes no variable. -/
lemma of_popFrame? {s s' : Session} {frame : Frame} (h : s.popFrame? = some (frame, s')) :
    s'.bindings = s.bindings ∧ ∀ n, s'.stack.below n = s.stack.below (n + 1) := by
  obtain ⟨language, bindings, ⟨root, _ | ⟨top, rest⟩⟩, output, history, limit⟩ := s
  · cases h
  · cases h
    exact ⟨rfl, fun n => rfl⟩

/-! ## What a frame has seen -/

/-- **Operations that a frame does not see**: performed in `s`, they never leave the frame on top of
`s`, whose stack stays under all later calls, and they change no variable while it is on top. -/
inductive Unseen (s : Session) : List Operation → Prop where
  | nil : Unseen s []
  | concat {ops : List Operation} {op : Operation} (before : Unseen s ops)
      (stays : ∃ n, (s.performAll (ops ++ [op])).stack.below n = s.stack)
      (still : (s.performAll ops).stack.depth = s.stack.depth →
        (s.performAll (ops ++ [op])).bindings = (s.performAll ops).bindings) :
      Unseen s (ops ++ [op])

/-- A moment of a run from `first` at which the stack was `stack` and its top frame mirrored the
table; what has happened since is unseen by that frame. -/
structure Seen (first : Session) (ops : List Operation) (stack : CallStack)
    (before after : List Operation) : Prop where
  split : ops = before ++ after
  stack_eq : (first.performAll before).stack = stack
  mirrors : (first.performAll before).Mirrors
  unseen : Unseen (first.performAll before) after

variable {first : Session} {ops : List Operation} {op : Operation} {stack : CallStack}

/-- The present moment, if the top frame mirrors the table. -/
lemma Seen.now (h : (first.performAll ops).Mirrors) :
    Seen first ops (first.performAll ops).stack ops [] :=
  ⟨(List.append_nil ops).symm, rfl, h, .nil⟩

/-- One more operation that the frame does not see. -/
lemma Seen.concat {before after : List Operation} (h : Seen first ops stack before after)
    (stays : ∃ n, (first.performAll (ops ++ [op])).stack.below n = stack)
    (still : (first.performAll ops).stack.depth = stack.depth →
      (first.performAll (ops ++ [op])).bindings = (first.performAll ops).bindings) :
    Seen first (ops ++ [op]) stack before (after ++ [op]) := by
  obtain ⟨rfl, rfl, mirrors, unseen⟩ := h
  rw [List.append_assoc, performAll_append first before (after ++ [op]),
    performAll_append first before after] at *
  exact ⟨rfl, rfl, mirrors, unseen.concat stays still⟩

/-- **An operation carries the moments of all frames on.**  The statement is about every frame and
not only about the top one, because leaving a call uncovers the frame under it. -/
lemma exists_seen_below_concat (named : (first.performAll ops).Named)
    (h : ∀ n, ∃ before after,
      Seen first ops ((first.performAll ops).stack.below n) before after) (n : Nat) :
    ∃ before after, Seen first (ops ++ [op]) ((first.performAll (ops ++ [op])).stack.below n)
      before after := by
  have present : (first.performAll (ops ++ [op])).Mirrors → ∃ before after,
      Seen first (ops ++ [op]) (first.performAll (ops ++ [op])).stack before after :=
    fun mirrors => ⟨_, _, .now mirrors⟩
  have moved := moves_perform named op
  rw [← performAll_concat] at moved
  generalize reached : first.performAll (ops ++ [op]) = s' at moved present ⊢
  generalize now : first.performAll ops = s at moved h
  have onward : ∀ m, s'.stack.below n = s.stack.below m →
      (s.stack.depth = (s.stack.below m).depth → s'.bindings = s.bindings) →
      ∃ before after, Seen first (ops ++ [op]) (s'.stack.below n) before after := by
    intro m same still
    obtain ⟨before, after, seen⟩ := h m
    subst now reached
    rw [same]
    exact ⟨before, after ++ [op], seen.concat ⟨n, same⟩ still⟩
  cases moved with
  | quiet stack bindings => exact onward n (by rw [stack]) fun _ => bindings
  | set b =>
      have mirrors := mirrors_setVariable s b
      by_cases alone : s.stack.depth = 0
      · rw [CallStack.below_of_depth_eq_zero n ((depth_setVariable s b).trans alone)]
        exact present mirrors
      · cases n with
        | zero => exact present mirrors
        | succ n =>
            refine onward (n + 1) (below_setVariable s b alone) fun same => ?_
            rw [CallStack.depth_below] at same
            omega
  | enter method line =>
      cases n with
      | zero => exact present rfl
      | succ n => exact onward n rfl fun _ => rfl
  | leave left =>
      obtain ⟨bindings, below⟩ := of_popFrame? left
      exact onward (n + 1) (below n) fun _ => bindings
  | reset =>
      rw [CallStack.below_of_depth_eq_zero n rfl]
      exact present rfl

/-- No run puts a variable under another name. -/
lemma named_performAll (named : first.Named) (ops : List Operation) :
    (first.performAll ops).Named := by
  induction ops using List.reverseRecOn with
  | nil => exact named
  | append_singleton ops op ih =>
      rw [performAll_concat]
      exact ih.moves (moves_perform ih op)

/-- **Every frame of every run mirrors a moment of it.** -/
theorem exists_seen_below (language : Language) (settings : Settings) (ops : List Operation)
    (n : Nat) : ∃ before after, Seen (.start language settings) ops
      (((start language settings).performAll ops).stack.below n) before after := by
  induction ops using List.reverseRecOn generalizing n with
  | nil =>
      have alone : ((start language settings).performAll []).stack.depth = 0 := rfl
      rw [CallStack.below_of_depth_eq_zero n alone]
      exact ⟨[], [], .now rfl⟩
  | append_singleton ops op ih =>
      exact exists_seen_below_concat (named_performAll (named_start language settings) ops) ih n

/-- **The top frame shows the variables as they were at a moment of the run.**  At that moment the
stack was what it is now and the frame mirrored the table; since then the frame has not been left
and no variable has changed while it was on top, so whatever else has changed was changed by calls
that have been left.  Hence it mirrors the table exactly if those calls have changed nothing. -/
theorem top_frame_shows_latest_seen (language : Language) (settings : Settings)
    (ops : List Operation) :
    let run := (start language settings).performAll
    ∃ before after, ops = before ++ after ∧ (run before).Mirrors ∧
      Unseen (run before) after ∧ (run ops).stack = (run before).stack ∧
      ((run ops).Mirrors ↔ (run ops).snapshot = (run before).snapshot) := by
  intro run
  obtain ⟨before, after, split, stack, mirrors, unseen⟩ :=
    exists_seen_below language settings ops 0
  rw [CallStack.below_zero] at stack
  refine ⟨before, after, split, mirrors, unseen, stack.symm, ?_⟩
  have shown : (run ops).stack.top.locals = (run before).snapshot := by
    rw [← mirrors, stack]
  rw [Mirrors, shown]
  exact eq_comm

/-- **A frame need not mirror the table after a call has been left**: the call changes a variable,
and the frame it was made from still shows the old value. -/
theorem not_mirrors_after_leaving :
    ¬ ((start .java .standard).performAll [.line "int x = 1;" 1, .line "f();" 2,
      .line "x = 2;" 3, .line "return;" 4]).Mirrors := by
  decide +kernel

end Session

end SnippetLab

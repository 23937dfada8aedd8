import Mathlib.Data.List.Basic
import SnippetLab.Proofs.Session.Calls

/-!
# The call stack as one list of frames

A `CallStack` keeps the frame of the program apart from the calls above it, so that nothing can take
that frame away.  Here all frames stand in one list, the lowest first, and only a guard stands
between the frame of the program and a return too many: **a frame is taken off if it is not the only
one.**

* `FrameList.pop?` — taking the last frame off, with its guard; `FrameList.rooted_dropLast_iff` says
  that the guard is just what it takes to keep the frame of the program.
* `FrameList.Rooted.move`, `FrameList.Rooted.moveAll` — that frame is the lowest one after a step and
  after a run.
* `CallStack.rooted_iff` — such lists are the frames of the call stacks; `CallStack.frames_push`,
  `CallStack.frames_pop?` and `CallStack.frames_withTopLocals` say that what is done to a call stack
  is done to the list of its frames.
* `Session.frameMove?` — what an action does to the list.
* `Session.frames_in_place` — **a run leaves the frames that the list comes to**, the lowest of
  which is the program's.
-/

namespace SnippetLab

/-! ## The list -/

/-- The frames of a run, the lowest first. -/
abbrev FrameList := List Frame

/-- What is done to the frames. -/
inductive FrameMove where
  /-- All frames go, and the one a program starts in comes back. -/
  | clear
  | push (frame : Frame)
  | pop
  /-- The last frame sees other variables. -/
  | see (locals : NameTable Text)
  deriving Repr, DecidableEq

namespace FrameList

/-- The frame a program starts in, which has seen no variables. -/
def initial : FrameList := [⟨CallStack.rootMethod, 0, []⟩]

/-- Put a frame on top. -/
def push (frames : FrameList) (frame : Frame) : FrameList := frames ++ [frame]

/-- **Take the last frame off, unless it is the only one.** -/
def pop? (frames : FrameList) : Option (Frame × FrameList) :=
  if 1 < frames.length then frames.getLast?.map fun last => (last, frames.dropLast) else none

/-- Let the last frame see other variables. -/
def see (frames : FrameList) (locals : NameTable Text) : FrameList :=
  match frames.getLast? with
  | none => frames
  | some last => frames.dropLast ++ [{ last with locals }]

/-- The frames after a move. -/
def move (frames : FrameList) : FrameMove → FrameList
  | .clear => initial
  | .push frame => frames.push frame
  | .pop => (frames.pop?.map Prod.snd).getD frames
  | .see locals => frames.see locals

/-- The frames after some moves. -/
def moveAll (frames : FrameList) (moves : List FrameMove) : FrameList := moves.foldl move frames

/-- **The lowest frame is that of the program**, whatever it has seen. -/
def Rooted (frames : FrameList) : Prop :=
  ∃ locals calls, frames = ⟨CallStack.rootMethod, 0, locals⟩ :: calls

variable {frames below : FrameList} {last : Frame}

/-- What is taken off lies on other frames. -/
lemma pop?_eq_some_iff :
    frames.pop? = some (last, below) ↔ below ≠ [] ∧ frames = below ++ [last] := by
  unfold pop?
  constructor
  · intro h
    split at h
    · rename_i guard
      obtain ⟨top, there, same⟩ := Option.map_eq_some_iff.1 h
      cases same
      obtain ⟨rest, rfl⟩ := List.getLast?_eq_some_iff.1 there
      rw [List.dropLast_concat]
      rw [List.length_append, List.length_singleton] at guard
      exact ⟨List.ne_nil_of_length_pos (by omega), rfl⟩
    · cases h
  · rintro ⟨lie, rfl⟩
    have positive := List.length_pos_iff.2 lie
    rw [if_pos (by rw [List.length_append, List.length_singleton]; omega), List.getLast?_concat,
      List.dropLast_concat]
    rfl

lemma see_concat (below : FrameList) (last : Frame) (locals : NameTable Text) :
    see (below ++ [last]) locals = below ++ [{ last with locals }] := by
  rw [see, List.getLast?_concat, List.dropLast_concat]

/-! ## The frame of the program -/

lemma rooted_initial : Rooted initial := ⟨[], [], rfl⟩

/-- **The guard is what keeps the frame of the program**: without its last frame a list still has it
exactly if there was another frame. -/
lemma rooted_dropLast_iff (rooted : Rooted frames) :
    Rooted frames.dropLast ↔ 1 < frames.length := by
  obtain ⟨locals, _ | ⟨call, calls⟩, rfl⟩ := rooted
  · simp [Rooted]
  · simp [Rooted]

/-- **No move takes the frame of the program away.** -/
lemma Rooted.move (rooted : Rooted frames) (m : FrameMove) : Rooted (frames.move m) := by
  cases m with
  | clear => exact rooted_initial
  | push frame =>
      obtain ⟨locals, calls, rfl⟩ := rooted
      exact ⟨locals, calls ++ [frame], rfl⟩
  | pop =>
      rw [FrameList.move, pop?]
      by_cases guard : 1 < frames.length
      · -- this is all that the guard is for
        have left := (rooted_dropLast_iff rooted).2 guard
        obtain ⟨locals, calls, rfl⟩ := rooted
        rw [if_pos guard, List.getLast?_cons]
        exact left
      · rw [if_neg guard]
        exact rooted
  | see seen =>
      obtain ⟨locals, calls, rfl⟩ := rooted
      rcases List.eq_nil_or_concat' calls with rfl | ⟨under, last, rfl⟩
      · exact ⟨seen, [], rfl⟩
      · refine ⟨locals, under ++ [{ last with locals := seen }], ?_⟩
        exact see_concat (_ :: under) last seen

/-- **No run of moves takes the frame of the program away.** -/
theorem Rooted.moveAll (rooted : Rooted frames) (moves : List FrameMove) :
    Rooted (frames.moveAll moves) := by
  induction moves generalizing frames with
  | nil => exact rooted
  | cons m moves ih => exact ih (rooted.move m)

end FrameList

/-! ## The frames of a call stack -/

namespace CallStack

variable (stack : CallStack)

/-- **The lists whose lowest frame is that of the program are the frames of the call stacks**, no
more and no fewer. -/
theorem rooted_iff {frames : FrameList} :
    FrameList.Rooted frames ↔ ∃ stack : CallStack, stack.frames = frames := by
  constructor
  · rintro ⟨locals, calls, rfl⟩
    exact ⟨⟨locals, calls.reverse⟩, by rw [frames, List.reverse_reverse]; rfl⟩
  · rintro ⟨stack, rfl⟩
    exact ⟨stack.rootLocals, stack.calls.reverse, rfl⟩

lemma frames_push (frame : Frame) :
    (stack.push frame).frames = FrameList.push stack.frames frame := by
  rw [frames, push, List.reverse_cons]
  rfl

/-- **Leaving the latest call is taking the last frame off the list**, with the same frame left and
the same left over: there is no call just if there is one frame. -/
theorem frames_pop? : stack.pop?.map (fun popped => (popped.1, popped.2.frames)) =
    FrameList.pop? stack.frames := by
  obtain ⟨root, _ | ⟨frame, rest⟩⟩ := stack
  · rfl
  · refine (FrameList.pop?_eq_some_iff.2 ⟨List.cons_ne_nil _ _, ?_⟩).symm
    rw [frames, List.reverse_cons]
    rfl

lemma frames_withTopLocals (locals : NameTable Text) :
    (stack.withTopLocals locals).frames = FrameList.see stack.frames locals := by
  obtain ⟨root, _ | ⟨frame, rest⟩⟩ := stack
  · rfl
  · rw [frames, frames, List.reverse_cons, ← List.cons_append, FrameList.see_concat, withTopLocals,
      List.reverse_cons]
    rfl

end CallStack

/-! ## The frames of a run -/

/-- What a call or a return does to the frames, where the variables are as they are. -/
def Turn.frameMove (locals : NameTable Text) : Turn → FrameMove
  | .enter call => .push ⟨call.method, call.line, locals⟩
  | .leave => .pop

namespace Session

/-- What the frames are shown of a statement that is applied: all variables, if one of them has been
set. -/
def shown? : Except StatementError (Effect × Session) → Option FrameMove
  | .ok (.variable _, applied) => some (.see applied.snapshot)
  | _ => none

/-- **What an action does to the frames**, in a session. -/
def frameMove? (s : Session) (action : Action) : Option FrameMove :=
  match action.turn? s.language with
  | some turn => some (turn.frameMove s.snapshot)
  | none =>
    match action with
    | .statement statement line => shown? (s.apply line statement)
    | .operation (.line text number) => shown? (s.applyLine text number)
    | .operation (.declare b) => some (.see (s.declare b).snapshot)
    | .operation (.assign name value line) =>
      (s.assign? name value line).map fun assigned => .see assigned.snapshot
    | .operation .reset => some .clear
    | .operation _ => none

/-- What some actions do to the frames, one after another. -/
def frameMoves (s : Session) : List Action → List FrameMove
  | [] => []
  | action :: later => (s.frameMove? action).toList ++ (s.act action).frameMoves later

variable {s : Session}

lemma frames_setVariable (s : Session) (b : Binding) :
    (s.setVariable b).stack.frames =
      FrameList.see s.stack.frames (s.setVariable b).snapshot :=
  CallStack.frames_withTopLocals _ _

/-- A return takes the last frame off, if it is not the only one. -/
lemma frames_popFrame? (s : Session) :
    ((s.popFrame?.map Prod.snd).getD s).stack.frames = FrameList.move s.stack.frames .pop := by
  rw [FrameList.move, ← CallStack.frames_pop?, popFrame?]
  cases s.stack.pop? with
  | none => rfl
  | some popped => rfl

/-- Without the latest call there are other calls. -/
lemma made_ne_of_popFrame? {frame : Frame} {s' : Session} (left : s.popFrame? = some (frame, s')) :
    s'.stack.made ≠ s.stack.made := by
  obtain ⟨language, bindings, ⟨root, _ | ⟨top, rest⟩⟩, output, history, limit⟩ := s
  · cases left
  · cases left
    exact (List.cons_ne_self _ _).symm

/-- **A statement that is neither a call nor a return** shows the last frame the variables, if it has
set one. -/
lemma frames_apply_of_turnOf?_eq_none (named : s.Named) {line : Nat} {statement : Statement}
    (other : turnOf? line statement = none) :
    (s.act (.statement statement line)).stack.frames =
      FrameList.moveAll s.stack.frames (shown? (s.apply line statement)).toList := by
  have calls := s.made_apply line statement
  rw [other] at calls
  simp only [act] at calls ⊢
  cases applied : s.apply line statement with
  | error e => rfl
  | ok result =>
      obtain ⟨effect, s'⟩ := result
      simp only [applied] at calls
      -- the calls have not changed, so it has neither made nor left one
      cases changes_of_apply named applied with
      | nothing => rfl
      | output text => rfl
      | set b => exact frames_setVariable s b
      | enter method line => exact absurd calls (List.cons_ne_self _ _)
      | leave left => exact absurd calls (made_ne_of_popFrame? left)

lemma frames_pushFrame (s : Session) (method : Text) (line : Nat) :
    (s.pushFrame method line).stack.frames =
      FrameList.push s.stack.frames ⟨method, line, s.snapshot⟩ :=
  CallStack.frames_push _ _

/-- **What a statement does to a session it does to the list of its frames.** -/
lemma frames_apply (named : s.Named) (line : Nat) (statement : Statement) :
    (s.act (.statement statement line)).stack.frames =
      FrameList.moveAll s.stack.frames (s.frameMove? (.statement statement line)).toList := by
  cases statement with
  | call method => exact s.frames_pushFrame method line
  | leave =>
      rw [act_leave]
      exact s.frames_popFrame?
  | _ => exact frames_apply_of_turnOf?_eq_none named rfl

/-- **What an action does to a session it does to the list of its frames.** -/
theorem frames_act (named : s.Named) (action : Action) :
    (s.act action).stack.frames =
      FrameList.moveAll s.stack.frames (s.frameMove? action).toList := by
  cases action with
  | statement statement line => exact frames_apply named line statement
  | operation op =>
      cases op with
      | line text number => exact frames_apply named number (classify s.language text)
      | declare b => exact frames_setVariable s b
      | assign name value line =>
          simp only [act, perform, frameMove?, Action.turn?]
          cases assigned : s.assign? name value line with
          | none => rfl
          | some s' =>
              obtain ⟨b, -, rfl⟩ := exists_of_assign? named assigned
              exact frames_setVariable s b
      | enter method line => exact s.frames_pushFrame method line
      | leave => exact s.frames_popFrame?
      | record line text =>
          obtain ⟨entries, recorded⟩ := s.record_eq line text
          simp only [act, perform, recorded]
          rfl
      | write | reset => rfl

/-- No action puts a variable under another name. -/
lemma Named.act (named : s.Named) (action : Action) : (s.act action).Named := by
  cases action with
  | operation op => exact named.moves (moves_perform named op)
  | statement statement line =>
      simp only [Session.act]
      cases applied : s.apply line statement with
      | error e => exact named
      | ok result => exact named.changes (changes_of_apply named applied)

/-- **A run is a run of moves on the list of frames.** -/
theorem frames_actAll (named : s.Named) (actions : List Action) :
    (s.actAll actions).stack.frames =
      FrameList.moveAll s.stack.frames (s.frameMoves actions) := by
  induction actions generalizing s with
  | nil => rfl
  | cons action later ih =>
      rw [frameMoves, FrameList.moveAll, List.foldl_append]
      refine (ih (named.act action)).trans ?_
      rw [frames_act named action]
      rfl

/-- **The call stack is kept in one list.**  From the frame a program starts in, the moves of a run
come to the frames of the session; the lowest is that of the program, because of the guard of
`FrameList.pop?` alone.  A return then leaves what the list says, or nothing. -/
theorem frames_in_place (language : Language) (settings : Settings) (actions : List Action) :
    let s := (start language settings).actAll actions
    let frames := FrameList.moveAll .initial ((start language settings).frameMoves actions)
    s.stack.frames = frames ∧ FrameList.Rooted frames ∧
      s.popFrame?.map (fun popped => (popped.1, popped.2.stack.frames)) = frames.pop? := by
  intro s frames
  have same : s.stack.frames = frames := frames_actAll (named_start language settings) actions
  refine ⟨same, FrameList.rooted_initial.moveAll _, ?_⟩
  rw [← same, ← CallStack.frames_pop?, popFrame?, Option.map_map]
  rfl

end Session

end SnippetLab

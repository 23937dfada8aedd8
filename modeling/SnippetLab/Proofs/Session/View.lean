import SnippetLab.Proofs.Decimal.Numeral
import SnippetLab.Proofs.Session.Replay

/-!
# What events show of a session

A subscriber does not look at a session: it keeps a `View` of its own, made of the events it is
sent.  The variables are set one by one, what is written is collected without any limit, and the
call stack is told as a whole after every statement.

* `Changes` — all that a statement can do to a session, with the effect it says it had.
* `Shows` — a view agrees with a session, up to the output the session no longer keeps.
* `shows_runRow`, `shows_runRows` — **the events of a line carry a view that agrees over to the
  session after the line**, and so do those of many lines.
-/

namespace SnippetLab

/-! ## Views -/

/-- What a subscriber makes of the events it is sent. -/
structure View where
  bindings : NameTable Binding
  /-- Everything written, whether the session has kept it or not. -/
  written : Text
  frames : List Frame
  deriving Repr, DecidableEq

namespace View

/-- Nothing seen yet: no variables, no output, and the frame a program starts in. -/
def initial : View := ⟨[], [], [⟨CallStack.rootMethod, 0, []⟩]⟩

/-- Take one event in. -/
def see (v : View) : Event → View
  | .variableChanged b => { v with bindings := v.bindings.set b.name b }
  | .output text => { v with written := v.written ++ text }
  | .callStackUpdated frames => { v with frames }
  | .lineExecuted .. | .breakpointHit _ | .error .. | .executionComplete => v

/-- **The view of some events**: variables by name, all output, the latest call stack. -/
def ofEvents (events : List Event) : View := events.foldl see initial

lemma ofEvents_append (events later : List Event) :
    ofEvents (events ++ later) = later.foldl see (ofEvents events) :=
  List.foldl_append

end View

namespace Session

/-! ## What a statement can do -/

/-- **All that a statement can do**, and the effect that tells of it. -/
inductive Changes (s : Session) : Effect → Session → Prop where
  | nothing : Changes s .none s
  | set (b : Binding) : Changes s (.variable b.name) (s.setVariable b)
  | output (text : Text) : Changes s (.output text) (s.write text)
  | enter (method : Text) (line : Nat) : Changes s .callStack (s.pushFrame method line)
  | leave {frame : Frame} {s' : Session} (left : s.popFrame? = some (frame, s')) :
      Changes s .callStack s'

/-- Every variable stands in the table under its own name. -/
def Named (s : Session) : Prop := ∀ name b, s.binding? name = some b → b.name = name

lemma named_start (language : Language) (settings : Settings) :
    Named (.start language settings) := by
  intro name b found
  cases found

/-- A declaration or a new value. -/
lemma Named.setVariable {s : Session} (h : s.Named) (b : Binding) : (s.setVariable b).Named := by
  intro name b' found
  by_cases same : name = b.name
  · subst same
    rw [show (s.setVariable b).binding? b.name = some b from NameTable.get?_set_self ..] at found
    cases found
    rfl
  · rw [show (s.setVariable b).binding? name = s.binding? name from
      NameTable.get?_set_of_ne same ..] at found
    exact h name b' found

lemma popFrame?_eq_some {s s' : Session} {frame : Frame} (h : s.popFrame? = some (frame, s')) :
    ∃ stack, s' = { s with stack } := by
  obtain ⟨⟨popped, stack⟩, -, left⟩ := Option.map_eq_some_iff.1 h
  exact ⟨stack, (Prod.mk.inj left).2.symm⟩

/-- No statement puts a variable under another name. -/
lemma Named.changes {s s' : Session} {effect : Effect} (h : s.Named)
    (changed : s.Changes effect s') : s'.Named := by
  cases changed with
  | nothing => exact h
  | set b => exact h.setVariable b
  | output text => exact h
  | enter method line => exact h
  | leave left =>
      obtain ⟨stack, rfl⟩ := popFrame?_eq_some left
      exact h

/-- A variable that takes another value keeps its name. -/
lemma name_of_update? {b b' : Binding} {value : Text} {line : Nat}
    (h : b.update? value line = some b') : b'.name = b.name := by
  unfold Binding.update? at h
  split at h
  · cases h
  · cases h
    rfl

/-- What an assignment sets is a variable of the name assigned to. -/
lemma exists_of_assign? {s s' : Session} {name value : Text} {line : Nat} (named : s.Named)
    (h : s.assign? name value line = some s') :
    ∃ b : Binding, b.name = name ∧ s' = s.setVariable b := by
  unfold assign? at h
  split at h
  · cases h
  · rename_i b found
    obtain ⟨b', updated, rfl⟩ := Option.map_eq_some_iff.1 h
    exact ⟨b', (name_of_update? updated).trans (named name b found), rfl⟩

lemma changes_applyDeclare (s : Session) (line : Nat) (typeTag name value : Text) :
    s.Changes (s.applyDeclare line typeTag name value).1
      (s.applyDeclare line typeTag name value).2 :=
  .set (.declare name typeTag value line)

lemma changes_applyAssign {s : Session} (named : s.Named) (line : Nat) (name value : Text) :
    s.Changes (s.applyAssign line name value).1 (s.applyAssign line name value).2 := by
  unfold applyAssign
  split
  · split
    · exact changes_applyDeclare s line "var" name value
    · exact .nothing
  · split
    · rename_i assigned
      obtain ⟨b, rfl, rfl⟩ := exists_of_assign? named assigned
      exact .set b
    · exact .nothing

/-- What is written for the next integer reads back as the next integer, so it is not the text that
was read. -/
lemma ofInt_next_ne {t : Text} {n : Int} {direction : Sign} (read : Decimal.signedWord? t = some n)
    (within : Decimal.fits (n + direction.unit) = true) :
    Decimal.ofInt (n + direction.unit) ≠ t := by
  rintro rfl
  rw [Decimal.signedWord?_ofInt within, Option.some.injEq] at read
  cases direction with
  | plus =>
      simp only [Sign.unit] at read
      omega
  | minus =>
      simp only [Sign.unit] at read
      omega

/-- **A step gives a new value.** -/
lemma assign?_next {s : Session} {name : Text} {n : Int} (line : Nat) (direction : Sign)
    (current : ((s.binding? name).bind fun b => Decimal.signedWord? b.value) = some n)
    (within : Decimal.fits (n + direction.unit) = true) :
    ∃ s', s.assign? name (Decimal.ofInt (n + direction.unit)) line = some s' := by
  obtain ⟨b, found, read⟩ := Option.bind_eq_some_iff.1 current
  simp [assign?, found, Binding.update?, ofInt_next_ne read within]

lemma changes_applyStep {s s' : Session} (named : s.Named) {line : Nat} {name : Text}
    {direction : Sign} {effect : Effect}
    (h : s.applyStep line name direction = .ok (effect, s')) : s.Changes effect s' := by
  unfold applyStep at h
  split at h
  · cases h
    exact .nothing
  · rename_i n current
    dsimp only at h
    split at h
    · rename_i within
      obtain ⟨changed, assigned⟩ := assign?_next line direction current within
      rw [assigned, Option.getD_some] at h
      cases h
      obtain ⟨b, rfl, rfl⟩ := exists_of_assign? named assigned
      exact .set b
    · cases h

/-- **A statement that is applied does one of the changes, and says which.** -/
theorem changes_of_apply {s s' : Session} (named : s.Named) {line : Nat} {statement : Statement}
    {effect : Effect} (h : s.apply line statement = .ok (effect, s')) : s.Changes effect s' := by
  cases statement with
  | blank => cases h; exact .nothing
  | comment => cases h; exact .nothing
  | unrecognized => cases h; exact .nothing
  | declare typeTag name init =>
      simp only [apply] at h
      split at h
      · cases h
      · cases h
        exact changes_applyDeclare s line typeTag name _
  | declareDefault typeTag name =>
      cases h
      exact changes_applyDeclare s line typeTag name _
  | assign name op expr =>
      simp only [apply] at h
      split at h
      · cases h
      · have assigned := changes_applyAssign named line name
          (evaluate s.environment (assignedExpr name op expr))
        rw [Except.ok.inj h] at assigned
        exact assigned
  | step name direction => exact changes_applyStep named h
  | print args newline =>
      cases h
      exact .output _
  | leave =>
      simp only [apply] at h
      split at h
      · rename_i popped
        cases h
        exact .leave popped
      · cases h
        exact .nothing
  | call method =>
      cases h
      exact .enter method line

/-! ## Agreement -/

/-- **A view agrees with a session**: the same variables, the same frames, and the same output as
far as the session keeps it. -/
structure Shows (v : View) (s : Session) : Prop where
  named : s.Named
  bindings_eq : v.bindings = s.bindings
  written_eq : v.written.take s.output.limit = s.output.text
  frames_eq : v.frames = s.stack.frames

/-- Nothing has been seen of a session in which nothing has happened. -/
lemma shows_start (language : Language) (settings : Settings) :
    Shows .initial (.start language settings) where
  named := named_start language settings
  bindings_eq := rfl
  written_eq := List.take_nil
  frames_eq := rfl

/-- What is written is kept as far as all that was written before leaves room. -/
lemma take_append_of_take {written text kept : Text} {limit : Nat}
    (h : written.take limit = kept) :
    (written ++ text).take limit = kept ++ text.take (limit - kept.length) := by
  subst h
  rw [List.take_append, List.length_take]
  congr 2
  omega

/-- The event of an effect brings variables and output up to date; the frames are told later. -/
lemma Shows.changes {v : View} {s s' : Session} {effect : Effect} (h : Shows v s)
    (changed : s.Changes effect s') (line : Nat) (text : Text) (entries : List HistoryEntry) :
    Shows ((s'.eventsOf effect ++
      [Event.lineExecuted line text, .callStackUpdated s'.stack.frames]).foldl View.see v)
      { s' with history := entries } := by
  have named := h.named.changes changed
  cases changed with
  | nothing => exact ⟨named, h.bindings_eq, h.written_eq, rfl⟩
  | set b =>
      have found : (s.setVariable b).binding? b.name = some b := NameTable.get?_set_self ..
      simp only [eventsOf, found, Option.map_some, Option.toList_some, List.cons_append,
        List.nil_append, List.foldl_cons, List.foldl_nil, View.see]
      exact ⟨named, congrArg (NameTable.set b.name b) h.bindings_eq, h.written_eq, rfl⟩
  | output written =>
      exact ⟨named, h.bindings_eq, take_append_of_take h.written_eq, rfl⟩
  | enter method line => exact ⟨named, h.bindings_eq, h.written_eq, rfl⟩
  | leave left =>
      obtain ⟨stack, rfl⟩ := popFrame?_eq_some left
      exact ⟨named, h.bindings_eq, h.written_eq, rfl⟩

/-- Remembering a statement changes nothing but the history. -/
lemma record_eq (s : Session) (line : Nat) (text : Text) :
    ∃ entries, s.record line text = { s with history := entries } := by
  unfold record
  split
  · exact ⟨s.history, rfl⟩
  · exact ⟨_, rfl⟩

/-- **The events of a line carry the agreement over it**, whether the line is idle, fails or is
applied. -/
theorem shows_runRow {v : View} {s : Session} (h : Shows v s) (row : Row) :
    Shows ((s.runRow row).2.foldl View.see v) (s.runRow row).1 := by
  by_cases idle : row.statement.isIdle = true
  · simp only [runRow, idle, if_true]
    exact h
  · rw [Bool.not_eq_true] at idle
    cases applied : s.apply row.number row.statement with
    | error e =>
        simp only [runRow, idle, applied]
        exact h
    | ok result =>
        obtain ⟨effect, s'⟩ := result
        obtain ⟨entries, recorded⟩ := s'.record_eq row.number row.text.trim
        simp only [runRow, idle, applied, recorded]
        exact h.changes (changes_of_apply h.named applied) row.number row.text.trim entries

/-- The events of some lines carry the agreement over them. -/
theorem shows_runRows {v : View} {s : Session} (h : Shows v s) (rows : List Row) :
    Shows ((s.runRows rows).2.foldl View.see v) (s.runRows rows).1 := by
  induction rows generalizing v s with
  | nil => exact h
  | cons row rest ih =>
      show Shows (((s.runRow row).2 ++ ((s.runRow row).1.runRows rest).2).foldl View.see v)
        ((s.runRow row).1.runRows rest).1
      rw [List.foldl_append]
      exact ih (shows_runRow h row)

end Session

end SnippetLab

import SnippetLab.Proofs.Session.Replay

/-!
# What a statement writes does not hang on what is kept

A session keeps the first characters of what is written and the latest statements, both up to a
limit.  **No statement looks at either**: with others in their place it fails alike or has the same
effect, and that effect tells what is written.

* `Output.write_append` — writing twice is writing all at once.
* `Effect.written` — the text an effect tells of.
* `Session.keeping` — a session that keeps something else, with limits of its own.
* `Session.apply_keeping` — **a statement does the same to it**, and writes the same text.
-/

namespace SnippetLab

/-! ## Output -/

namespace Output

@[simp] lemma write_nil (out : Output) : out.write [] = out := by
  simp [write]

/-- **Writing twice is writing all at once.** -/
lemma write_append (out : Output) (t u : Text) : (out.write t).write u = out.write (t ++ u) := by
  have left : (out.write t).room = out.room - t.length := by
    simp only [write, room, List.length_append, List.length_take]
    omega
  have lost : (decide (out.room < t.length) || decide (out.room - t.length < u.length)) =
      decide (out.room < (t ++ u).length) := by
    rw [List.length_append]
    by_cases within : out.room < t.length
    · simp [within, Nat.lt_add_right u.length within]
    · simp only [within, decide_false, Bool.false_or, decide_eq_decide]
      omega
  unfold write at left ⊢
  simp only [left, List.take_append, List.append_assoc, Bool.or_assoc, lost]

/-- Of all that is written the first characters are kept. -/
lemma text_write_empty (limit : Nat) (t : Text) : ((empty limit).write t).text = t.take limit := rfl

end Output

/-- The text an effect tells of. -/
def Effect.written : Effect → Text
  | .output text => text
  | .none | .variable _ | .callStack => []

namespace Session

/-! ## Keeping something else -/

/-- The session with another output, and other memories under a limit of their own. -/
def keeping (s : Session) (output : Output) (history : List HistoryEntry) (historyLimit : Nat) :
    Session := { s with output, history, historyLimit }

variable (s : Session) (out : Output) (entries : List HistoryEntry) (limit : Nat)

@[simp] lemma binding?_keeping (name : Text) :
    (s.keeping out entries limit).binding? name = s.binding? name := rfl

@[simp] lemma language_keeping : (s.keeping out entries limit).language = s.language := rfl

lemma assign?_keeping (name value : Text) (line : Nat) :
    (s.keeping out entries limit).assign? name value line =
      (s.assign? name value line).map (·.keeping out entries limit) := by
  simp only [assign?, binding?_keeping]
  cases s.binding? name with
  | none => rfl
  | some b =>
      cases updated : b.update? value line with
      | none => simp [updated]
      | some b' =>
          simp only [updated, Option.map_some]
          rfl

/-- An assignment writes nothing. -/
lemma written_applyAssign (line : Nat) (name value : Text) :
    (s.applyAssign line name value).1.written = [] := by
  unfold applyAssign
  split
  · split <;> rfl
  · split <;> rfl

lemma applyAssign_keeping (line : Nat) (name value : Text) :
    (s.keeping out entries limit).applyAssign line name value =
      ((s.applyAssign line name value).1,
        (s.applyAssign line name value).2.keeping out entries limit) := by
  simp only [applyAssign, binding?_keeping, language_keeping, assign?_keeping]
  cases s.binding? name with
  | none =>
      by_cases python : s.language = .python
      · simp only [python, if_true]
        rfl
      · simp only [python, if_false]
  | some b =>
      cases s.assign? name value line with
      | none => rfl
      | some changed => rfl

/-- A step writes nothing. -/
lemma applyStep_keeping (line : Nat) (name : Text) (direction : Sign) :
    (s.keeping out entries limit).applyStep line name direction =
      (s.applyStep line name direction).map fun r =>
        (r.1, r.2.keeping (out.write r.1.written) entries limit) := by
  simp only [applyStep, binding?_keeping, assign?_keeping]
  cases (s.binding? name).bind fun b => Decimal.signedWord? b.value with
  | none => simp only [Except.map, Effect.written, Output.write_nil]
  | some n =>
      by_cases within : Decimal.fits (n + direction.unit) = true
      · simp only [within, if_true, Except.map, Effect.written, Output.write_nil]
        cases s.assign? name (Decimal.ofInt (n + direction.unit)) line with
        | none => rfl
        | some changed => rfl
      · simp only [within]
        rfl

/-- **A statement does the same whatever is kept**: it leaves the memories alone, and writes the
text that its effect tells of. -/
theorem apply_keeping (line : Nat) (statement : Statement) :
    (s.keeping out entries limit).apply line statement =
      (s.apply line statement).map fun r =>
        (r.1, r.2.keeping (out.write r.1.written) entries limit) := by
  cases statement with
  | declare typeTag name init =>
      by_cases empty : init.isEmpty = true
      · simp only [apply, empty, if_true]
        rfl
      · simp only [apply, if_neg empty, applyDeclare, Except.map, Effect.written, Output.write_nil]
        rfl
  | declareDefault typeTag name =>
      simp only [apply, applyDeclare, Except.map, Effect.written, Output.write_nil]
      rfl
  | assign name op expr =>
      by_cases empty : expr.isEmpty = true
      · simp only [apply, empty, if_true]
        rfl
      · simp only [apply, if_neg empty, Except.map, written_applyAssign, Output.write_nil]
        exact congrArg Except.ok (applyAssign_keeping s out entries limit line name _)
  | step name direction => exact applyStep_keeping s out entries limit line name direction
  | print args newline => rfl
  | leave =>
      simp only [apply, popFrame?, keeping]
      cases s.stack.pop? with
      | none => simp only [Option.map_none, Except.map, Effect.written, Output.write_nil]
      | some popped => simp only [Option.map_some, Except.map, Effect.written, Output.write_nil]
  | call method =>
      simp only [apply, Except.map, Effect.written, Output.write_nil]
      rfl
  | blank | comment | unrecognized =>
      simp only [apply, Except.map, Effect.written, Output.write_nil]

variable {s}

/-- **What a statement that is applied has kept**: its text is written, nothing is remembered. -/
theorem kept_of_apply {s' : Session} {line : Nat} {statement : Statement} {effect : Effect}
    (h : s.apply line statement = .ok (effect, s')) :
    s'.output = s.output.write effect.written ∧ s'.history = s.history ∧
      s'.historyLimit = s.historyLimit := by
  -- a session that keeps its own is the session
  have own : s.apply line statement = _ :=
    apply_keeping s s.output s.history s.historyLimit line statement
  rw [h] at own
  have same : s' = s'.keeping (s.output.write effect.written) s.history s.historyLimit :=
    (Prod.mk.inj (Except.ok.inj own)).2
  rw [same]
  exact ⟨rfl, rfl, rfl⟩

end Session

end SnippetLab

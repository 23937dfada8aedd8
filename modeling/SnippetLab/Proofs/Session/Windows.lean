import Mathlib.Data.List.DropRight
import SnippetLab.Proofs.Session.Locals
import SnippetLab.Proofs.Session.Written

/-!
# What a session keeps of a run

A session does not keep everything that is written in it and remembered by it.  Its output and its
history grow by one operation after another, each cut to its limit on the way; here they are
compared with everything that has been written and remembered since the session was new or reset.

* `writes`, `remembers` — what one operation writes, and the entry it makes.
* `along` — what the operations of a run come to together, each in the session it meets.
* `Window` — output and history are cut out of all that: a beginning and an ending.
* `output_and_history_are_windows` — **they are, after any operations**, limits of nought included.
-/

namespace SnippetLab

/-- More is written than is kept if it is longer than the limit. -/
lemma Output.truncated_write_empty (limit : Nat) (t : Text) :
    ((empty limit).write t).truncated = true ↔ limit < t.length := by
  rw [write, Bool.or_eq_true, decide_eq_true_eq]
  simp [room, empty]

namespace Session

/-! ## What operations write and remember -/

/-- What a statement writes: a print statement the values of its arguments, any other nothing. -/
def printedBy (s : Session) : Statement → Text
  | .print args newline => s.printed args newline
  | _ => []

/-- **What an operation writes** in a session. -/
def writes (s : Session) : Operation → Text
  | .write text => text
  | .line text _ => s.printedBy (classify s.language text)
  | _ => []

/-- **The entry an operation makes**, with the values the variables have in the session. -/
def remembers (s : Session) : Operation → List HistoryEntry
  | .record line text => [⟨line, text, s.snapshot⟩]
  | _ => []

/-- What some operations come to together, each in the session that those before it have led to. -/
def along {α : Type} (part : Session → Operation → List α) (s : Session) : List Operation → List α
  | [] => []
  | op :: later => part s op ++ along part (s.perform op) later

/-! ## One operation -/

/-- A statement writes what its effect tells, and if it fails it is none that writes. -/
lemma printedBy_eq (s : Session) (line : Nat) (statement : Statement) :
    s.printedBy statement = match s.apply line statement with
      | .ok (effect, _) => effect.written
      | .error _ => [] := by
  cases statement with
  | declare typeTag name init =>
      by_cases empty : init.isEmpty = true
      · simp [printedBy, apply, empty]
      · simp [printedBy, apply, empty, applyDeclare, Effect.written]
  | assign name op expr =>
      by_cases empty : expr.isEmpty = true
      · simp [printedBy, apply, empty]
      · simp only [printedBy, apply, if_neg empty]
        exact (s.written_applyAssign ..).symm
  | step name direction =>
      simp only [printedBy, apply, applyStep]
      cases (s.binding? name).bind fun b => Decimal.signedWord? b.value with
      | none => rfl
      | some n =>
          by_cases within : Decimal.fits (n + direction.unit) = true
          · simp [within, Effect.written]
          · simp [within]
  | leave =>
      simp only [printedBy, apply]
      cases s.popFrame? with
      | none => rfl
      | some popped => rfl
  | blank | comment | unrecognized | declareDefault | print | call => rfl

/-- **Output and history of a run**: the first characters of what has been written, the last of the
entries made. -/
structure Window (settings : Settings) (s : Session) (written : Text)
    (entries : List HistoryEntry) : Prop where
  output_eq : s.output = (Output.empty settings.maxOutputChars).write written
  history_eq : s.history = entries.rtake settings.historyLimit
  limit_eq : s.historyLimit = settings.historyLimit

section Operations

variable {settings : Settings} {s s' : Session} {written : Text} {entries : List HistoryEntry}

/-- What is written is put behind what has been written before. -/
lemma Window.write (h : Window settings s written entries) {text : Text}
    (output : s'.output = s.output.write text) (history : s'.history = s.history)
    (limit : s'.historyLimit = s.historyLimit) :
    Window settings s' (written ++ text) (entries ++ []) where
  output_eq := by rw [output, h.output_eq, Output.write_append]
  history_eq := by rw [history, h.history_eq, List.append_nil]
  limit_eq := limit.trans h.limit_eq

/-- Neither written nor remembered. -/
lemma Window.quiet (h : Window settings s written entries) (output : s'.output = s.output)
    (history : s'.history = s.history) (limit : s'.historyLimit = s.historyLimit) :
    Window settings s' (written ++ []) (entries ++ []) :=
  h.write (output.trans s.output.write_nil.symm) history limit

/-- **Dropping the oldest before the newest comes leaves the newest entries.** -/
lemma rtake_record {α : Type} (limit : Nat) (all : List α) (a : α) :
    (if limit + 1 ≤ (all.rtake (limit + 1)).length then (all.rtake (limit + 1)).drop 1
      else all.rtake (limit + 1)) ++ [a] = (all ++ [a]).rtake (limit + 1) := by
  rw [List.rtake_concat_succ]
  congr 1
  rw [List.rtake, List.rtake, List.length_drop]
  split
  · rename_i full
    rw [List.drop_drop]
    congr 1
    omega
  · rename_i short
    congr 1
    omega

/-- A new entry is put behind those made before. -/
lemma Window.record (h : Window settings s written entries) (line : Nat) (text : Text) :
    Window settings (s.record line text) (written ++ [])
      (entries ++ [⟨line, text, s.snapshot⟩]) := by
  obtain ⟨output, history, limit⟩ := h
  rw [List.append_nil]
  unfold Session.record
  split
  · rename_i none
    refine ⟨output, ?_, limit⟩
    rw [history, ← limit, none, List.rtake_zero, List.rtake_zero]
  · rename_i some
    obtain ⟨n, bound⟩ := Nat.exists_eq_succ_of_ne_zero some
    refine ⟨output, ?_, limit⟩
    rw [history, ← limit, bound]
    exact rtake_record n entries _

/-- A new value changes neither output nor history. -/
lemma kept_of_assign? {name value : Text} {line : Nat}
    (assigned : s.assign? name value line = some s') :
    s'.output = s.output ∧ s'.history = s.history ∧ s'.historyLimit = s.historyLimit := by
  unfold assign? at assigned
  split at assigned
  · cases assigned
  · obtain ⟨b, -, rfl⟩ := Option.map_eq_some_iff.1 assigned
    exact ⟨rfl, rfl, rfl⟩

/-- **One operation** writes behind what has been written and makes its entry behind those made
before. -/
theorem Window.perform (h : Window settings s written entries) {op : Operation}
    (other : op ≠ .reset) :
    Window settings (s.perform op) (written ++ s.writes op) (entries ++ s.remembers op) := by
  cases op with
  | declare b => exact h.quiet rfl rfl rfl
  | assign name value line =>
      cases assigned : s.assign? name value line with
      | none =>
          rw [Session.perform, assigned]
          exact h.quiet rfl rfl rfl
      | some s' =>
          obtain ⟨output, history, limit⟩ := kept_of_assign? assigned
          rw [Session.perform, assigned]
          exact h.quiet output history limit
  | enter method line => exact h.quiet rfl rfl rfl
  | leave =>
      cases left : s.popFrame? with
      | none =>
          rw [Session.perform, left]
          exact h.quiet rfl rfl rfl
      | some popped =>
          obtain ⟨stack, same⟩ := popFrame?_eq_some left
          rw [Session.perform, left, Option.map_some, same]
          exact h.quiet rfl rfl rfl
  | write text => exact h.write rfl rfl rfl
  | record line text => exact h.record line text
  | reset => exact absurd rfl other
  | line text number =>
      have printed := s.printedBy_eq number (classify s.language text)
      cases applied : s.apply number (classify s.language text) with
      | error e =>
          rw [applied] at printed
          rw [Session.perform, applyLine, applied, writes, printed]
          exact h.quiet rfl rfl rfl
      | ok result =>
          obtain ⟨output, history, limit⟩ := kept_of_apply applied
          rw [applied] at printed
          rw [Session.perform, applyLine, applied, writes, printed]
          exact h.write output history limit

/-- **Many operations** do so one after another. -/
theorem Window.performAll (h : Window settings s written entries) {ops : List Operation}
    (onward : .reset ∉ ops) :
    Window settings (s.performAll ops) (written ++ s.along writes ops)
      (entries ++ s.along remembers ops) := by
  induction ops generalizing s written entries with
  | nil =>
      rw [along, along, List.append_nil, List.append_nil]
      exact h
  | cons op later ih =>
      rw [List.mem_cons, not_or] at onward
      rw [along, along, ← List.append_assoc, ← List.append_assoc]
      exact ih (h.perform (Ne.symm onward.1)) onward.2

end Operations

/-! ## Runs -/

/-- A session that is new has nothing to keep. -/
lemma window_start (language : Language) (settings : Settings) :
    Window settings (start language settings) [] [] where
  output_eq := (Output.write_nil _).symm
  history_eq := (List.rtake_nil _).symm
  limit_eq := rfl

/-- A reset leaves the limits as they are. -/
lemma window_reset {settings : Settings} {s : Session}
    (output : s.output.limit = settings.maxOutputChars)
    (history : s.historyLimit = settings.historyLimit) : Window settings s.reset [] [] where
  output_eq := by rw [Output.write_nil, ← output, reset]
  history_eq := (List.rtake_nil _).symm
  limit_eq := history

/-- After any operations, resets among them, output and history are cut from something. -/
lemma exists_window (language : Language) (settings : Settings) (ops : List Operation) :
    ∃ written entries, Window settings ((start language settings).performAll ops) written
      entries := by
  induction ops using List.reverseRecOn with
  | nil => exact ⟨[], [], window_start language settings⟩
  | append_singleton ops op ih =>
      obtain ⟨written, entries, window⟩ := ih
      rw [performAll_concat]
      by_cases again : op = .reset
      · subst again
        refine ⟨[], [], window_reset ?_ window.limit_eq⟩
        rw [window.output_eq]
        rfl
      · exact ⟨_, _, window.perform again⟩

/-- **Output and history are exact windows.**  In a session that is new or has just been reset, let
any operations but a reset follow.  Then the output is the first characters of all that has been
written, it is said to be truncated exactly if that is longer than the limit, and the history is the
last entries that have been made, in their order and with the values of their time. -/
theorem output_and_history_are_windows {language : Language} {settings : Settings}
    {before ops : List Operation} (fresh : before = [] ∨ ∃ earlier, before = earlier ++ [.reset])
    (onward : .reset ∉ ops) :
    let first := (start language settings).performAll before
    let written := first.along writes ops
    let entries := first.along remembers ops
    let s := first.performAll ops
    s.output.text = written.take settings.maxOutputChars ∧
      (s.output.truncated = true ↔ settings.maxOutputChars < written.length) ∧
      s.history = entries.rtake (min settings.historyLimit entries.length) := by
  intro first written entries s
  have begun : Window settings first [] [] := by
    rcases fresh with rfl | ⟨earlier, rfl⟩
    · exact window_start language settings
    · obtain ⟨_, _, window⟩ := exists_window language settings earlier
      rw [show first = _ from performAll_concat ..]
      refine window_reset ?_ window.limit_eq
      rw [window.output_eq]
      rfl
  have window : Window settings s written entries := begun.performAll onward
  refine ⟨?_, ?_, ?_⟩
  · rw [window.output_eq, Output.text_write_empty]
  · rw [window.output_eq]
    exact Output.truncated_write_empty ..
  · rw [window.history_eq, List.rtake, List.rtake]
    congr 1
    omega

/-- Four characters of five and the last two of three statements, after a reset. -/
theorem output_and_history_are_windows_cut :
    let settings : Settings := { Settings.standard with maxOutputChars := 4, historyLimit := 2 }
    let before : List Operation := [.write "lost", .record 9 "gone", .reset]
    let ops : List Operation := [.line "int x = 7;" 1, .record 1 "first", .line "x++;" 2,
      .write "ab", .record 2 "second", .line "System.out.println(x + 5);" 3, .write "c",
      .record 3 "third"]
    Operation.reset ∉ ops ∧
      let s := ((start .java settings).performAll before).performAll ops
      s.output.text = ("ab13" : Text) ∧ s.output.truncated = true ∧
        s.history = [⟨2, "second", [("x", "8")]⟩, ⟨3, "third", [("x", "8")]⟩] := by
  intro settings before ops
  have onward : Operation.reset ∉ ops := by decide
  have fresh : before = [] ∨ ∃ earlier, before = earlier ++ [.reset] :=
    .inr ⟨[.write "lost", .record 9 "gone"], rfl⟩
  obtain ⟨text, truncated, history⟩ :=
    @output_and_history_are_windows .java settings before ops fresh onward
  refine ⟨onward, text.trans ?_, truncated.2 ?_, history.trans ?_⟩
  · decide +kernel
  · decide +kernel
  · decide +kernel

end Session

end SnippetLab

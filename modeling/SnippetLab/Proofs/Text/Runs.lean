import Mathlib.Data.List.Basic
import SnippetLab.Proofs.Text.Blanks

/-!
# Where runs stand

A run of characters of one kind stands between two characters of another kind, or at an end of the
text.  **Every such stretch is found, and nothing else**, each with what stands around it.

* `runsFrom_append_cons` — a character of another kind ends the run before it, and what follows is
  read by itself.
* `mem_runs_iff` — which stretches are runs.
* `getLast?_runs` — the last run, when only characters of another kind follow it.
-/

namespace SnippetLab.Text

section Runs

variable {p : Char → Bool} {before run t w left right : Text} {c : Char} {s : Span}

/-- Characters of the kind join the run that is being read. -/
lemma runsFrom_run (held : ∀ c ∈ w, p c = true) (before run t : Text) :
    runsFrom p before run (w ++ t) = runsFrom p before (w.reverse ++ run) t := by
  induction w generalizing run with
  | nil => rfl
  | cons c w ih =>
      rw [List.forall_mem_cons] at held
      rw [List.cons_append, runsFrom, if_pos held.1, ih held.2, List.reverse_cons,
        List.append_assoc, List.singleton_append]

/-- **A character of another kind ends the run**, and what follows is read by itself. -/
lemma runsFrom_append_cons (other : p c = false) (before run left right : Text) :
    ∃ spans, runsFrom p before run (left ++ c :: right) =
      spans ++ runsFrom p (c :: (left.reverse ++ (run ++ before))) [] right := by
  induction left generalizing before run with
  | nil =>
      rw [List.nil_append, runsFrom, if_neg (by simp [other])]
      split
      · rename_i none
        rw [List.isEmpty_iff.1 none]
        exact ⟨[], rfl⟩
      · exact ⟨[_], rfl⟩
  | cons d left ih =>
      have shift : (d :: left).reverse ++ (run ++ before) =
          left.reverse ++ ([] ++ (d :: (run ++ before))) := by simp
      rw [List.cons_append, runsFrom, shift]
      split
      · exact ih before (d :: run)
      · split
        · rename_i none
          rw [List.isEmpty_iff.1 none]
          exact ih (d :: before) []
        · obtain ⟨spans, later⟩ := ih (d :: (run ++ before)) []
          exact ⟨_ :: spans, by rw [later, List.cons_append]⟩

/-- A stretch of the kind with another kind behind it is the first run. -/
lemma runsFrom_cons_run (nonempty : w ≠ []) (held : ∀ c ∈ w, p c = true)
    (stops : ∀ c ∈ right.head?, p c = false) (before : Text) :
    ∃ before', runsFrom p before [] (w ++ right) =
      ⟨before, w, right⟩ :: runsFrom p before' [] right.tail := by
  have reading : ¬(w.reverse ++ []).isEmpty = true := by simpa using nonempty
  have back : (w.reverse ++ []).reverse = w := by simp
  rw [runsFrom_run held]
  cases right with
  | nil =>
      rw [runsFrom, if_neg reading, back]
      exact ⟨[], rfl⟩
  | cons c right =>
      rw [runsFrom, if_neg (by simp [stops c rfl]), if_neg reading, back]
      exact ⟨_, rfl⟩

/-- **A stretch with other characters on both its sides is found.** -/
lemma mem_runs (nonempty : w ≠ []) (held : ∀ c ∈ w, p c = true)
    (begins : ∀ c ∈ left.getLast?, p c = false) (stops : ∀ c ∈ right.head?, p c = false) :
    ⟨left.reverse, w, right⟩ ∈ runs p (left ++ (w ++ right)) := by
  rcases List.eq_nil_or_concat' left with rfl | ⟨left, c, rfl⟩
  · obtain ⟨before', found⟩ := runsFrom_cons_run nonempty held stops []
    rw [List.nil_append, runs, found]
    exact List.mem_cons_self
  · obtain ⟨spans, skipped⟩ :=
      runsFrom_append_cons (begins c (by simp)) [] [] left (w ++ right)
    have front : c :: (left.reverse ++ ([] ++ [])) = (left ++ [c]).reverse := by simp
    obtain ⟨before', found⟩ := runsFrom_cons_run nonempty held stops (left ++ [c]).reverse
    rw [List.append_assoc, List.singleton_append, runs, skipped, front, found]
    exact List.mem_append_right spans List.mem_cons_self

/-- What is found stands in the text, with other characters on both its sides. -/
lemma around_of_mem_runsFrom (found : s ∈ runsFrom p before run t)
    (apart : ∀ c ∈ before.head?, p c = false) :
    s.whole = before.reverse ++ (run.reverse ++ t) ∧ (∀ c ∈ s.before.head?, p c = false) ∧
      ∀ c ∈ s.after.head?, p c = false := by
  induction t generalizing before run with
  | nil =>
      unfold runsFrom at found
      split at found
      · cases found
      · rw [List.mem_singleton.1 found]
        exact ⟨rfl, apart, fun c first => absurd first (Option.not_mem_none c)⟩
  | cons d r ih =>
      unfold runsFrom at found
      split at found
      · have later := ih found apart
        rwa [List.reverse_cons, List.append_assoc] at later
      · rename_i other
        have stops : ∀ c ∈ (d :: r).head?, p c = false := by
          rintro _ ⟨⟩
          simpa using other
        split at found
        · rename_i none
          have later := ih found stops
          rw [List.isEmpty_iff.1 none]
          simpa using later
        · rcases List.mem_cons.1 found with rfl | found
          · exact ⟨rfl, apart, stops⟩
          · have later := ih found stops
            simpa using later

/-- **The runs of a text are the stretches of the kind that have other characters, or an end of the
text, on both sides.** -/
theorem mem_runs_iff {b a : Text} :
    ⟨b, w, a⟩ ∈ runs p t ↔ t = b.reverse ++ (w ++ a) ∧ w ≠ [] ∧ (∀ c ∈ w, p c = true) ∧
      (∀ c ∈ b.head?, p c = false) ∧ ∀ c ∈ a.head?, p c = false := by
  constructor
  · intro found
    obtain ⟨whole, begins, stops⟩ := around_of_mem_runsFrom found nofun
    exact ⟨whole.symm, body_ne_nil_of_mem_runsFrom found, of_mem_runsFrom found nofun, begins,
      stops⟩
  · rintro ⟨rfl, nonempty, held, begins, stops⟩
    have found : ⟨b.reverse.reverse, w, a⟩ ∈ runs p (b.reverse ++ (w ++ a)) :=
      mem_runs nonempty held (by simpa using begins) stops
    rwa [List.reverse_reverse] at found

/-- In a text of another kind there is no run. -/
lemma runsFrom_eq_nil (other : ∀ c ∈ t, p c = false) (before : Text) :
    runsFrom p before [] t = [] := by
  induction t generalizing before with
  | nil => rfl
  | cons c t ih =>
      rw [List.forall_mem_cons] at other
      rw [runsFrom, if_neg (by simp [other.1])]
      exact ih other.2 (c :: before)

/-- **The last run** is the one behind which only other characters stand. -/
theorem getLast?_runs (nonempty : w ≠ []) (held : ∀ c ∈ w, p c = true)
    (begins : ∀ c ∈ left.getLast?, p c = false) (other : ∀ c ∈ right, p c = false) :
    ((runs p (left ++ (w ++ right))).map Span.body).getLast? = some w := by
  have last (before : Text) : runsFrom p before [] (w ++ right) = [⟨before, w, right⟩] := by
    have stops : ∀ c ∈ right.head?, p c = false := fun c first =>
      other c (List.mem_of_head? first)
    obtain ⟨before', found⟩ := runsFrom_cons_run nonempty held stops before
    rw [found, runsFrom_eq_nil fun c later => other c (List.mem_of_mem_tail later)]
  rcases List.eq_nil_or_concat' left with rfl | ⟨left, c, rfl⟩
  · rw [List.nil_append, runs, last]
    rfl
  · obtain ⟨spans, skipped⟩ :=
      runsFrom_append_cons (begins c (by simp)) [] [] left (w ++ right)
    rw [List.append_assoc, List.singleton_append, runs, skipped, last, List.map_append,
      List.getLast?_append]
    rfl

end Runs

end SnippetLab.Text

import SnippetLab.Proofs.Fix.NormalForm
import SnippetLab.Proofs.Source.Uncomment

/-!
# Collapsed lines

A collapsed line can be read off the line character by character: blanks before the first word and
after the last one go, and those between two words become a space.  Two mutually dependent
equations say so, one for a text that begins a line (`collapse`) and one for a text that goes on
after a character of a word (`afterWord`).  With them **a collapsed line stays as it is**, also
after it has been lower-cased, and **collapsing opens no comment**.
-/

namespace SnippetLab.Fix

open Source Source.Position

/-! ## Collapsing, character by character -/

/-- A text set apart from what precedes it, if it is not empty. -/
def spaced : Text → Text
  | [] => []
  | c :: r => ' ' :: c :: r

/-- What collapsing leaves of a text that follows a character of a word. -/
def afterWord : Text → Text
  | [] => []
  | c :: r => if Text.isBlank c then spaced (collapse r) else c :: afterWord r

/-- A first piece is set apart from the others. -/
lemma join_cons_eq_spaced (p : Text) {rest : List Text} (h : ∀ q ∈ rest, q ≠ []) :
    Text.join " " (p :: rest) = p ++ spaced (Text.join " " rest) := by
  cases rest with
  | nil => simp [Text.join, spaced]
  | cons q rest =>
      have nonempty : Text.join " " (q :: rest) ≠ [] :=
        join_cons_ne_nil rest (h q List.mem_cons_self)
      obtain ⟨c, r, shape⟩ := List.exists_cons_of_ne_nil nonempty
      rw [shape, spaced, ← shape, Text.join, List.intercalate_cons_cons, List.append_assoc]
      rfl

/-- A run read so far stays in front of what follows it. -/
lemma join_runsFrom {run : Text} (nonempty : run ≠ []) (t : Text) :
    Text.join " " ((Text.runsFrom (fun c => !Text.isBlank c) [] run t).map Span.body) =
      run.reverse ++ afterWord t := by
  induction t generalizing run with
  | nil => simp [Text.runsFrom, nonempty, Text.join, afterWord]
  | cons c r ih =>
      rw [Text.runsFrom, afterWord]
      cases blank : Text.isBlank c with
      | false =>
          rw [if_pos (by rfl), if_neg (by simp), ih (List.cons_ne_nil c run), List.reverse_cons]
          simp
      | true =>
          rw [if_neg (by simp), if_neg (by simpa using nonempty), if_pos rfl, List.map_cons,
            Text.bodies_runsFrom, join_cons_eq_spaced]
          · rfl
          · intro q found
            obtain ⟨s, there, rfl⟩ := List.mem_map.1 found
            exact Text.body_ne_nil_of_mem_runsFrom there

/-- Blanks at the beginning go. -/
lemma collapse_of_isBlank {c : Char} (h : Text.isBlank c = true) (r : Text) :
    collapse (c :: r) = collapse r := by
  rw [collapse, Text.pieces, Text.runs, Text.runsFrom, if_neg (by simp [h]), if_pos (by rfl),
    Text.bodies_runsFrom]
  rfl

/-- A character of a word stays, and the rest follows a word. -/
lemma collapse_of_not_isBlank {c : Char} (h : Text.isBlank c = false) (r : Text) :
    collapse (c :: r) = c :: afterWord r := by
  rw [collapse, Text.pieces, Text.runs, Text.runsFrom, if_pos (by simp [h]),
    join_runsFrom (List.cons_ne_nil c [])]
  rfl

lemma afterWord_of_isBlank {c : Char} (h : Text.isBlank c = true) (r : Text) :
    afterWord (c :: r) = spaced (collapse r) := by
  rw [afterWord, if_pos h]

lemma afterWord_of_not_isBlank {c : Char} (h : Text.isBlank c = false) (r : Text) :
    afterWord (c :: r) = c :: afterWord r := by
  rw [afterWord, if_neg (by simp [h])]

lemma spaced_of_ne_nil {t : Text} (h : t ≠ []) : spaced t = ' ' :: t := by
  cases t with
  | nil => exact absurd rfl h
  | cons c r => rfl

lemma head_spaced {t : Text} {d : Char} (h : (spaced t).head? = some d) : d = ' ' := by
  cases t with
  | nil => cases h
  | cons c r =>
      cases h
      rfl

lemma of_spaced_eq_cons {t r : Text} {c : Char} (h : spaced t = c :: r) :
    c = ' ' ∧ t = r ∧ r ≠ [] := by
  cases t with
  | nil => cases h
  | cons d t =>
      cases h
      exact ⟨rfl, rfl, List.cons_ne_nil d t⟩

lemma afterWord_spaced (t : Text) : afterWord (spaced t) = spaced (collapse t) := by
  cases t with
  | nil => rfl
  | cons c r => rw [spaced, afterWord_of_isBlank (by decide)]

/-! ## Collapsing again -/

/-- **A collapsed line stays as it is**, and so does what follows a character of a word. -/
theorem collapse_collapse (t : Text) :
    collapse (collapse t) = collapse t ∧ afterWord (afterWord t) = afterWord t := by
  induction t with
  | nil => exact ⟨rfl, rfl⟩
  | cons c r ih =>
      obtain ⟨begun, followed⟩ := ih
      cases blank : Text.isBlank c with
      | false =>
          rw [collapse_of_not_isBlank blank, collapse_of_not_isBlank blank,
            afterWord_of_not_isBlank blank, afterWord_of_not_isBlank blank, followed]
          exact ⟨rfl, rfl⟩
      | true =>
          rw [collapse_of_isBlank blank, afterWord_of_isBlank blank, afterWord_spaced, begun]
          exact ⟨rfl, rfl⟩

lemma not_isBlank_of_head_collapse {t r : Text} {c : Char} (h : collapse t = c :: r) :
    Text.isBlank c = false := by
  induction t with
  | nil => cases h
  | cons d t ih =>
      cases blank : Text.isBlank d with
      | false =>
          rw [collapse_of_not_isBlank blank] at h
          cases h
          exact blank
      | true => exact ih (collapse_of_isBlank blank t ▸ h)

/-- What lower-casing makes of the character of a word is not blank. -/
lemma not_isBlank_of_mem_formAt {before after : Text} {c d : Char}
    (visible : Text.isBlank c = false) (h : d ∈ Text.formAt before c after) :
    Text.isBlank d = false := by
  cases blank : Text.isBlank d with
  | false => rfl
  | true =>
      rw [Text.eq_of_mem_formAt h (Text.isUncased_of_isBlank blank), visible] at blank
      cases blank

lemma afterWord_append {w : Text} (visible : ∀ c ∈ w, Text.isBlank c = false) (t : Text) :
    afterWord (w ++ t) = w ++ afterWord t := by
  induction w with
  | nil => rfl
  | cons c w ih =>
      rw [List.cons_append, afterWord_of_not_isBlank (visible c List.mem_cons_self),
        ih fun d later => visible d (List.mem_cons_of_mem c later)]
      rfl

lemma collapse_append {w : Text} (nonempty : w ≠ []) (visible : ∀ c ∈ w, Text.isBlank c = false)
    (t : Text) : collapse (w ++ t) = w ++ afterWord t := by
  obtain ⟨c, w, rfl⟩ := List.exists_cons_of_ne_nil nonempty
  obtain ⟨first, others⟩ := List.forall_mem_cons.1 visible
  rw [List.cons_append, collapse_of_not_isBlank first, afterWord_append others]
  rfl

/-- **Lower-casing leaves a collapsed line collapsed**, and what follows a character of a word. -/
theorem collapse_lowerFrom (t : Text) :
    (collapse t = t → ∀ before,
      collapse (Text.lowerFrom before t) = Text.lowerFrom before t) ∧
    (afterWord t = t → ∀ before,
      afterWord (Text.lowerFrom before t) = Text.lowerFrom before t) := by
  induction t with
  | nil => exact ⟨fun _ _ => rfl, fun _ _ => rfl⟩
  | cons c r ih =>
      obtain ⟨begun, followed⟩ := ih
      cases blank : Text.isBlank c with
      | false =>
          have form : ∀ before, ∀ d ∈ Text.formAt before c r, Text.isBlank d = false :=
            fun _ _ => not_isBlank_of_mem_formAt blank
          constructor
          · intro same before
            rw [collapse_of_not_isBlank blank, List.cons.injEq] at same
            rw [Text.lowerFrom_cons, collapse_append (Text.formAt_ne_nil before c r) (form before),
              followed same.2]
          · intro same before
            rw [afterWord_of_not_isBlank blank, List.cons.injEq] at same
            rw [Text.lowerFrom_cons, afterWord_append (form before), followed same.2]
      | true =>
          constructor
          · intro same
            rw [not_isBlank_of_head_collapse same] at blank
            cases blank
          · intro same before
            rw [afterWord_of_isBlank blank] at same
            obtain ⟨rfl, begins, nonempty⟩ := of_spaced_eq_cons same
            rw [Text.lowerFrom_cons, Text.formAt_of_isUncased _ _ (by decide),
              List.singleton_append, afterWord_of_isBlank (by decide), begun begins]
            exact spaced_of_ne_nil (Text.lowerFrom_ne_nil nonempty)

/-! ## Comments -/

/-- A space in front of a text opens no comment, and the scanner goes on where it settles. -/
lemma uncommented_spaced {p : Position} (proper : p.Proper) {t : Text}
    (h : Uncommented p.settled t) : Uncommented p (spaced t) := by
  cases t with
  | nil => trivial
  | cons c r =>
      refine ⟨fun _ => not_opensComment_space _, ?_⟩
      rw [after_of_plain proper (plain_of_isBlank (by decide))]
      exact h

/-- What opens no comment before a text opens none before what collapsing leaves of it. -/
lemma not_opensComment_afterWord {c : Char} {r : Text} (h : ¬OpensComment c r) :
    ¬OpensComment c (afterWord r) := by
  cases r with
  | nil => exact h
  | cons d r =>
      cases blank : Text.isBlank d with
      | false =>
          rw [afterWord_of_not_isBlank blank]
          exact h
      | true =>
          rw [afterWord_of_isBlank blank]
          rintro (hash | ⟨slash, next⟩)
          · exact h (Or.inl hash)
          · rcases next with next | next
            · exact absurd (head_spaced next) (by decide)
            · exact absurd (head_spaced next) (by decide)

/-- **Collapsing opens no comment**, where no backslash waits for the character after it. -/
theorem uncommented_collapse {p : Position} (proper : p.Proper) {t : Text}
    (h : Uncommented p t) :
    (p.settled = p → Uncommented p (collapse t)) ∧ Uncommented p (afterWord t) := by
  induction t generalizing p with
  | nil => exact ⟨fun _ => trivial, trivial⟩
  | cons c r ih =>
      obtain ⟨none, later⟩ := h
      obtain ⟨begun, followed⟩ := ih (proper.after c) later
      cases blank : Text.isBlank c with
      | false =>
          have stays : Uncommented p (c :: afterWord r) :=
            ⟨fun code => not_opensComment_afterWord (none code), followed⟩
          rw [collapse_of_not_isBlank blank, afterWord_of_not_isBlank blank]
          exact ⟨fun _ => stays, stays⟩
      | true =>
          rw [after_of_plain proper (plain_of_isBlank blank)] at begun
          have begun := begun (settled_settled p)
          rw [collapse_of_isBlank blank, afterWord_of_isBlank blank]
          refine ⟨fun settled => ?_, uncommented_spaced proper begun⟩
          rw [settled] at begun
          exact begun

end SnippetLab.Fix

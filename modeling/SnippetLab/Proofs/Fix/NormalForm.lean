import SnippetLab.Fix.NormalForm
import SnippetLab.Proofs.Text.LowerCase

/-!
# Normal forms and their lines

A normal form is its lines joined by line feeds.  No line of a normal form is empty and none holds a
line feed, so the lines can be told from the joined text: **two texts of one normal form have the
same lines** (`normalLines_eq_of_normalize_eq`), and with them the same core.
-/

namespace SnippetLab.Fix

/-! ## Joining -/

lemma mem_join {sep : Text} {pieces : List Text} {c : Char} (h : c ∈ Text.join sep pieces) :
    c ∈ sep ∨ ∃ p ∈ pieces, c ∈ p := by
  induction pieces with
  | nil => cases h
  | cons p rest ih =>
      cases rest with
      | nil =>
          rw [Text.join, List.intercalate_singleton] at h
          exact Or.inr ⟨p, by simp, h⟩
      | cons q rest =>
          rw [Text.join, List.intercalate_cons_cons, List.append_assoc] at h
          rcases List.mem_append.1 h with here | h
          · exact Or.inr ⟨p, by simp, here⟩
          · rcases List.mem_append.1 h with between | later
            · exact Or.inl between
            · rcases ih later with between | ⟨r, hr, hc⟩
              · exact Or.inl between
              · exact Or.inr ⟨r, List.mem_cons_of_mem p hr, hc⟩

/-- Joining a non-empty piece and others leaves something. -/
lemma join_cons_ne_nil {sep p : Text} (rest : List Text) (h : p ≠ []) :
    Text.join sep (p :: rest) ≠ [] := by
  cases rest with
  | nil =>
      rw [Text.join, List.intercalate_singleton]
      exact h
  | cons q rest =>
      rw [Text.join, List.intercalate_cons_cons, List.append_assoc]
      exact List.append_ne_nil_of_left_ne_nil h _

/-- **Lines can be told from the text they are joined to**, if none is empty or holds a line
feed. -/
theorem eq_of_join_eq {lines others : List Text}
    (here : ∀ line ∈ lines, line ≠ [] ∧ '\n' ∉ line)
    (there : ∀ line ∈ others, line ≠ [] ∧ '\n' ∉ line)
    (h : Text.join "\n" lines = Text.join "\n" others) : lines = others := by
  cases lines with
  | nil =>
      cases others with
      | nil => rfl
      | cons p rest => exact absurd h.symm (join_cons_ne_nil rest (there p List.mem_cons_self).1)
  | cons p rest =>
      cases others with
      | nil => exact absurd h (join_cons_ne_nil rest (here p List.mem_cons_self).1)
      | cons q more =>
          have split := List.splitOn_intercalate '\n' (fun line hl => (here line hl).2)
            (List.cons_ne_nil p rest)
          have same : ['\n'].intercalate (p :: rest) = ['\n'].intercalate (q :: more) := h
          rw [same, List.splitOn_intercalate '\n' (fun line hl => (there line hl).2)
            (List.cons_ne_nil q more)] at split
          exact split.symm

/-! ## The lines of a normal form -/

/-- A collapsed line holds no blanks but spaces. -/
lemma eq_space_of_mem_collapse {line : Text} {c : Char} (blank : Text.isBlank c = true)
    (h : c ∈ collapse line) : c = ' ' := by
  rcases mem_join h with space | ⟨piece, found, held⟩
  · exact List.mem_singleton.1 space
  · rw [Text.not_isBlank_of_mem_pieces found held] at blank
    cases blank

/-- **No line of a normal form is empty or holds a line feed.** -/
theorem of_mem_normalLines {code line : Text} (h : line ∈ normalLines code) :
    line ≠ [] ∧ '\n' ∉ line := by
  obtain ⟨collapsed, kept, rfl⟩ := List.mem_map.1 h
  rw [List.mem_filter] at kept
  obtain ⟨source, -, rfl⟩ := List.mem_map.1 kept.1
  constructor
  · apply Text.lowerFrom_ne_nil
    intro empty
    rw [empty] at kept
    exact absurd kept.2 (by decide)
  · intro held
    have feed := eq_space_of_mem_collapse (by decide) (Text.mem_lower_of_isBlank held (by decide))
    exact absurd feed (by decide)

/-- **Texts of one normal form have the same lines.** -/
theorem normalLines_eq_of_normalize_eq {a b : Text} (h : normalize a = normalize b) :
    normalLines a = normalLines b :=
  eq_of_join_eq (fun _ => of_mem_normalLines) (fun _ => of_mem_normalLines) h

/-- Texts of one normal form have the same core. -/
theorem core_eq_of_normalize_eq {a b : Text} (h : normalize a = normalize b) : core a = core b := by
  simp only [core, coreLines, normalLines_eq_of_normalize_eq h]

end SnippetLab.Fix

import SnippetLab.Proofs.Fix.Collapse

/-!
# Normalising is a projection

Every line of a normal form is left alone by each of the three things that make one: no comment
opens in it, it is collapsed, and it is in lower case (`NormalLine`).  A text joined from such lines
has them as its lines again, so it is its own normal form, and **a normal form or a core stays as it
is** (`normalize_projection`).
-/

namespace SnippetLab.Fix

open Source

/-! ## Lines of a joined text -/

/-- A line without line ends, up to the line feed that ends it. -/
lemma lines_append {line : Text} (feed : '\n' ∉ line) (return_ : '\r' ∉ line) (rest : Text) :
    Text.lines (line ++ '\n' :: rest) = line :: Text.lines rest := by
  induction line with
  | nil => rfl
  | cons c r ih =>
      rw [List.mem_cons, not_or] at feed return_
      rw [List.cons_append, Text.lines, ih feed.2 return_.2]
      · rfl
      · rintro rfl
        exact feed.1 rfl
      · rintro _ rfl
        exact absurd rfl return_.1

/-- A last line without a line feed after it. -/
lemma lines_of_not_mem {line : Text} (nonempty : line ≠ []) (feed : '\n' ∉ line)
    (return_ : '\r' ∉ line) : line.lines = [line] := by
  induction line with
  | nil => exact absurd rfl nonempty
  | cons c r ih =>
      rw [List.mem_cons, not_or] at feed return_
      have rest : Text.consHead c (Text.lines r) = [c :: r] := by
        cases r with
        | nil => rfl
        | cons d r => rw [ih (List.cons_ne_nil d r) feed.2 return_.2, Text.consHead]
      rw [Text.lines, rest]
      · rintro rfl
        exact feed.1 rfl
      · rintro _ rfl
        exact absurd rfl return_.1

/-- **The lines of a text joined from lines**, if none is empty or holds a line end. -/
theorem lines_join {lines : List Text}
    (h : ∀ line ∈ lines, line ≠ [] ∧ '\n' ∉ line ∧ '\r' ∉ line) :
    (Text.join "\n" lines).lines = lines := by
  induction lines with
  | nil => rfl
  | cons line rest ih =>
      obtain ⟨nonempty, feed, return_⟩ := h line List.mem_cons_self
      have later := ih fun other there => h other (List.mem_cons_of_mem line there)
      cases rest with
      | nil =>
          rw [Text.join, List.intercalate_singleton]
          exact lines_of_not_mem nonempty feed return_
      | cons next rest =>
          rw [Text.join, List.intercalate_cons_cons, List.append_assoc]
          exact (lines_append feed return_ _).trans (congrArg (line :: ·) later)

/-! ## Lines of a normal form -/

/-- **What every line of a normal form is**: a line that normalising has nothing to do with. -/
structure NormalLine (line : Text) : Prop where
  nonempty : line ≠ []
  uncommented : Uncommented .code line
  collapsed : collapse line = line
  lowered : line.lower = line

lemma NormalLine.not_mem {line : Text} (h : NormalLine line) {c : Char}
    (blank : Text.isBlank c = true) (other : c ≠ ' ') : c ∉ line := by
  intro held
  rw [← h.collapsed] at held
  exact other (eq_space_of_mem_collapse blank held)

/-- **The lines of a normal form are normal.** -/
theorem normalLine_of_mem_normalLines {code line : Text} (h : line ∈ normalLines code) :
    NormalLine line := by
  have nonempty := (of_mem_normalLines h).1
  obtain ⟨collapsed, stays, rfl⟩ := List.mem_map.1 h
  rw [List.mem_filter] at stays
  obtain ⟨source, found, rfl⟩ := List.mem_map.1 stays.1
  have cut := uncommented_of_mem_scanLines found
  have spaced := (uncommented_collapse Position.proper_code cut).1 rfl
  exact {
    nonempty := nonempty
    uncommented := spaced.lowerFrom Position.proper_code []
    collapsed := (collapse_lowerFrom _).1 (collapse_collapse source).1 []
    lowered := Text.lower_lower _ }

/-- **A text joined from normal lines has them as the lines of its normal form.** -/
theorem normalLines_join {lines : List Text} (h : ∀ line ∈ lines, NormalLine line) :
    normalLines (Text.join "\n" lines) = lines := by
  have uncommented : uncommentLines lines = lines :=
    uncommentLines_of_uncommented fun line found => (h line found).uncommented
  have collapsed : lines.map collapse = lines :=
    (List.map_congr_left fun line found => (h line found).collapsed).trans (List.map_id lines)
  have lowered : lines.map Text.lower = lines :=
    (List.map_congr_left fun line found => (h line found).lowered).trans (List.map_id lines)
  have nonempty : (lines.filter fun line => !line.isEmpty) = lines :=
    List.filter_eq_self.2 fun line found => by simpa using (h line found).nonempty
  rw [normalLines, lines_join, uncommented, collapsed, nonempty, lowered]
  intro line found
  have normal := h line found
  exact ⟨normal.nonempty, normal.not_mem (by decide) (by decide),
    normal.not_mem (by decide) (by decide)⟩

/-- **Normalising and taking the core are projections**: a normal form is its own normal form, and a
core is its own core. -/
theorem normalize_projection (code : Text) :
    normalize (normalize code) = normalize code ∧ core (core code) = core code := by
  constructor
  · rw [normalize, normalize, normalLines_join fun _ => normalLine_of_mem_normalLines]
  · have normal : ∀ line ∈ coreLines code, NormalLine line := fun line found =>
      normalLine_of_mem_normalLines (List.mem_filter.1 found).1
    rw [core, coreLines, core, normalLines_join normal, coreLines, List.filter_filter]
    simp

end SnippetLab.Fix

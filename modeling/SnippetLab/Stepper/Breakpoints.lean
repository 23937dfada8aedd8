/-!
# Breakpoints

The lines a run pauses at: a list in ascending order without repetitions.
-/

namespace SnippetLab

/-- Lines to pause at, in ascending order. -/
abbrev Breakpoints := List Nat

namespace Breakpoints

/-- Put a line into its place. -/
def insert (line : Nat) : Breakpoints → Breakpoints
  | [] => [line]
  | other :: rest => if line < other then line :: other :: rest else other :: insert line rest

/-- **Set a breakpoint where there is none, and remove it where there is one.** -/
def toggle (points : Breakpoints) (line : Nat) : Breakpoints :=
  if points.contains line then points.filter (· != line) else insert line points

/-- Inserting a line adds that line and no other. -/
theorem mem_insert {line other : Nat} {points : Breakpoints} :
    other ∈ insert line points ↔ other = line ∨ other ∈ points := by
  induction points with
  | nil => simp [insert]
  | cons p ps ih =>
    by_cases h : line < p
    · simp [insert, h]
    · simp only [insert, h, if_false, List.mem_cons, ih]
      exact or_left_comm

/-- Toggling a line changes whether that line is in the set, and nothing else. -/
theorem mem_toggle {line other : Nat} {points : Breakpoints} :
    other ∈ toggle points line ↔ (if other = line then other ∉ points else other ∈ points) := by
  by_cases h : line ∈ points
  · by_cases ho : other = line <;> simp [toggle, h, ho]
  · by_cases ho : other = line <;> simp [toggle, h, ho, mem_insert]

end Breakpoints

end SnippetLab

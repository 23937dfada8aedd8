import SnippetLab.Proofs.Source.Rows

/-!
# The first lines make the first rows

A line is read with what the lines before it have left behind: a comment that is open, the braces
that are open, the number of the line.  **No line is read with anything that comes after it.**

* `take_rowsOf` — the first rows of a program are the rows of its first lines.
* `take_ofCode` — codes that begin with the same lines have the same rows for them.
-/

namespace SnippetLab.Program

section Columns

variable (n : Nat)

lemma take_scanLines (style : Source.CommentStyle) (keep : Source.Lexeme → Option Char)
    (inComment : Bool) (lines : List Text) :
    (Source.scanLines style keep inComment lines).take n =
      Source.scanLines style keep inComment (lines.take n) := by
  induction lines generalizing n inComment with
  | nil => rw [List.take_nil, Source.scanLines, List.take_nil]
  | cons line rest ih =>
      cases n with
      | zero => rfl
      | succ n => exact congrArg (_ :: ·) (ih n _)

lemma take_braceDepths (opened : Int) (lines : List Text) :
    (braceDepths opened lines).take n = braceDepths opened (lines.take n) := by
  induction lines generalizing n opened with
  | nil => rw [List.take_nil, braceDepths, List.take_nil]
  | cons line rest ih =>
      cases n with
      | zero => rfl
      | succ n => exact congrArg (_ :: ·) (ih n _)

lemma take_indentDepths (last : Nat) (lines : List (Text × Text)) :
    (indentDepths last lines).take n = indentDepths last (lines.take n) := by
  induction lines generalizing n last with
  | nil => rw [List.take_nil, indentDepths, List.take_nil]
  | cons line rest ih =>
      cases n with
      | zero => rfl
      | succ n => exact congrArg (_ :: ·) (ih n _)

lemma take_depths (language : Language) (lines : List (Text × Text)) :
    (depths language lines).take n = depths language (lines.take n) := by
  unfold depths
  split
  · rw [take_braceDepths, List.map_take]
  · exact take_indentDepths n 0 lines

lemma take_rowsFrom (language : Language) (number : Nat) (lines : List ((Text × Text) × Nat)) :
    (rowsFrom language number lines).take n = rowsFrom language number (lines.take n) := by
  induction lines generalizing n number with
  | nil => rw [List.take_nil, rowsFrom, List.take_nil]
  | cons line rest ih =>
      cases n with
      | zero => rfl
      | succ n => exact congrArg (_ :: ·) (ih n _)

end Columns

/-- The rows of some lines. -/
def rowsOf (language : Language) (lines : List Text) : List Row :=
  let pairs := lines.zip (Source.stripLines language lines)
  rowsFrom language 1 (pairs.zip (depths language pairs))

/-- **The first rows of some lines are the rows of the first lines.** -/
theorem take_rowsOf (n : Nat) (language : Language) (lines : List Text) :
    (rowsOf language lines).take n = rowsOf language (lines.take n) := by
  have pairs : (lines.zip (Source.stripLines language lines)).take n =
      (lines.take n).zip (Source.stripLines language (lines.take n)) := by
    rw [List.zip, List.take_zipWith, Source.stripLines, take_scanLines]
    rfl
  rw [rowsOf, take_rowsFrom, List.zip, List.take_zipWith, take_depths, pairs]
  rfl

/-- **Codes that begin with the same lines have the same rows for them.** -/
theorem take_ofCode {language : Language} {code other : Text} {n : Nat}
    (same : other.lines.take n = code.lines.take n) :
    (ofCode language other).rows.take n = (ofCode language code).rows.take n := by
  have rows (code : Text) : (ofCode language code).rows = rowsOf language code.lines := rfl
  rw [rows, rows, take_rowsOf, take_rowsOf, same]

end SnippetLab.Program

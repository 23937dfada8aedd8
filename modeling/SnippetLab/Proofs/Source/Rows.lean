import Mathlib.Data.List.Zip
import Mathlib.Tactic.Lemma
import SnippetLab.Source.Program

/-!
# The rows of a program, column by column

A program is made of several lists, each with an entry for every line of the code: the texts, the
stripped texts, the depths and the statements.  They are put side by side as rows, which loses
nothing because **the lists are equally long for every code**.

* `length_ofCode` — a program has as many rows as its code has lines.
* `map_text_ofCode`, `map_stripped_ofCode`, `map_depth_ofCode`, `map_statement_ofCode` — the lists,
  read off the rows again.
-/

namespace SnippetLab.Program

/-! ## Equally many entries -/

lemma length_scanLines (style : Source.CommentStyle) (keep : Source.Lexeme → Option Char)
    (inComment : Bool) (lines : List Text) :
    (Source.scanLines style keep inComment lines).length = lines.length := by
  induction lines generalizing inComment with
  | nil => rfl
  | cons line rest ih => exact congrArg Nat.succ (ih _)

lemma length_stripLines (language : Language) (lines : List Text) :
    (Source.stripLines language lines).length = lines.length := length_scanLines ..

lemma length_braceDepths (opened : Int) (lines : List Text) :
    (braceDepths opened lines).length = lines.length := by
  induction lines generalizing opened with
  | nil => rfl
  | cons line rest ih => exact congrArg Nat.succ (ih _)

lemma length_indentDepths (last : Nat) (lines : List (Text × Text)) :
    (indentDepths last lines).length = lines.length := by
  induction lines generalizing last with
  | nil => rfl
  | cons line rest ih => exact congrArg Nat.succ (ih _)

lemma length_depths (language : Language) (lines : List (Text × Text)) :
    (depths language lines).length = lines.length := by
  unfold depths
  split
  · rw [length_braceDepths, List.length_map]
  · rw [length_indentDepths]

lemma length_rowsFrom (language : Language) (number : Nat) (lines : List ((Text × Text) × Nat)) :
    (rowsFrom language number lines).length = lines.length := by
  induction lines generalizing number with
  | nil => rfl
  | cons line rest ih => exact congrArg Nat.succ (ih _)

/-- **A program has as many rows as its text has lines.** -/
theorem length_ofCode (language : Language) (code : Text) :
    (ofCode language code).length = code.lines.length := by
  simp only [ofCode, length, length_rowsFrom, List.length_zip, length_depths, length_stripLines,
    Nat.min_self]

/-! ## The columns -/

section RowsFrom

variable (language : Language) (number : Nat) (lines : List ((Text × Text) × Nat))

lemma map_number_rowsFrom :
    (rowsFrom language number lines).map Row.number =
      List.range' number (rowsFrom language number lines).length := by
  induction lines generalizing number with
  | nil => rfl
  | cons line rest ih =>
      simp only [rowsFrom, List.map_cons, List.length_cons, List.range'_succ, ih]

/-- What is read off rows that does not depend on their numbers is read off what they are made
of. -/
lemma map_rowsFrom {α : Type} (column : Row → α) (entry : (Text × Text) × Nat → α)
    (same : ∀ number text stripped depth, column
      { number, text, stripped, depth, statement := classify language text } =
        entry ((text, stripped), depth)) :
    (rowsFrom language number lines).map column = lines.map entry := by
  induction lines generalizing number with
  | nil => rfl
  | cons line rest ih => simp only [rowsFrom, List.map_cons, same, ih]

end RowsFrom

section OfCode

variable (language : Language) (code : Text)

/-- **The rows are read off a column at a time** from the lists they are made of. -/
lemma map_ofCode {α : Type} (column : Row → α) (entry : (Text × Text) × Nat → α)
    (same : ∀ number text stripped depth, column
      { number, text, stripped, depth, statement := classify language text } =
        entry ((text, stripped), depth)) :
    (ofCode language code).rows.map column =
      ((code.lines.zip (Source.stripLines language code.lines)).zip
        (depths language (code.lines.zip (Source.stripLines language code.lines)))).map entry :=
  map_rowsFrom language 1 _ column entry same

/-- The texts and the stripped texts lie beside one another, and the depths beside both. -/
lemma map_fst_zip_depths (lines : List (Text × Text)) :
    (lines.zip (depths language lines)).map Prod.fst = lines :=
  List.map_fst_zip (Nat.le_of_eq (length_depths ..).symm)

theorem map_number_ofCode :
    (ofCode language code).rows.map Row.number = List.range' 1 (ofCode language code).length :=
  map_number_rowsFrom ..

theorem map_text_ofCode : (ofCode language code).rows.map Row.text = code.lines := by
  rw [map_ofCode language code Row.text (Prod.fst ∘ Prod.fst) (fun _ _ _ _ => rfl),
    ← List.map_map, map_fst_zip_depths]
  exact List.map_fst_zip (Nat.le_of_eq (length_stripLines ..).symm)

theorem map_stripped_ofCode :
    (ofCode language code).rows.map Row.stripped = Source.stripLines language code.lines := by
  rw [map_ofCode language code Row.stripped (Prod.snd ∘ Prod.fst) (fun _ _ _ _ => rfl),
    ← List.map_map, map_fst_zip_depths]
  exact List.map_snd_zip (Nat.le_of_eq (length_stripLines ..))

theorem map_depth_ofCode : (ofCode language code).rows.map Row.depth =
    depths language (code.lines.zip (Source.stripLines language code.lines)) := by
  rw [map_ofCode language code Row.depth Prod.snd (fun _ _ _ _ => rfl)]
  exact List.map_snd_zip (Nat.le_of_eq (length_depths ..))

theorem map_statement_ofCode :
    (ofCode language code).rows.map Row.statement = code.lines.map (classify language) := by
  have classified : (ofCode language code).rows.map Row.statement =
      ((ofCode language code).rows.map Row.text).map (classify language) := by
    rw [List.map_map, map_ofCode language code Row.statement
        (classify language ∘ Prod.fst ∘ Prod.fst) (fun _ _ _ _ => rfl)]
    exact (map_ofCode language code (classify language ∘ Row.text) _ fun _ _ _ _ => rfl).symm
  rw [classified, map_text_ofCode]

end OfCode

end SnippetLab.Program

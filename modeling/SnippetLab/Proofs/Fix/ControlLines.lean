import SnippetLab.Fix.Verdict
import SnippetLab.Proofs.Fix.Projection
import SnippetLab.Proofs.Text.Parts

/-!
# What the core keeps of the control flow

The core of a text should hold every line that directs its control flow, so that texts of one core
branch and loop in the same way.  Two tests for scaffolding take such lines away nevertheless
(`else_if_is_dropped`): a line that mentions a class and holds no `=` counts as the header of one,
and a line with a closing brace in front, whose first word is that brace, may be taken for the
header of a method.

* `isControlLine` — the first word behind closing braces is a control word.
* `isScaffolding_of_isControlLine` — of the six tests for scaffolding, only two take control lines.
* `core_keeps_control_lines` — **a control line stays unless one of these two takes it**, and texts
  that match by their cores have the same control lines otherwise.
-/

namespace SnippetLab.Fix

open Text

/-! ## Control lines -/

/-- A line without the closing braces and spaces it begins with. -/
def behindBraces (line : Text) : Text := line.dropWhile fun c => c == '\x7d' || c == ' '

/-- **Does a line direct the control flow?**  The first word behind closing braces tells. -/
def isControlLine (line : Text) : Bool := controlWords.contains (firstWord (behindBraces line))

/-- Is a line taken for the header of a class, or, for the brace it begins with, for the header of a
method? -/
def isMistaken (line : Text) : Bool :=
  isClassHeader line || (line.startsWith "\x7d" && isMethodHeader line)

/-- Is a line a control line that is taken for nothing else? -/
def isKept (line : Text) : Bool := isControlLine line && !isMistaken line

/-! ## First words -/

/-- A word and a space begin a line with that word. -/
lemma firstWord_of_startsWith {word line : Text}
    (plain : (word.all fun c => !(c == ' ' || c == '(')) = true)
    (h : line.startsWith (word ++ " ") = true) : firstWord line = word := by
  obtain ⟨rest, rfl⟩ := startsWith_iff.1 h
  rw [firstWord, List.append_assoc, List.takeWhile_append_of_pos (List.all_eq_true.1 plain)]
  simp

/-- A normal line does not begin with a space. -/
lemma NormalLine.exists_cons {line : Text} (normal : NormalLine line) :
    ∃ c r, line = c :: r ∧ c ≠ ' ' := by
  obtain ⟨c, r, rfl⟩ := List.exists_cons_of_ne_nil normal.nonempty
  refine ⟨c, r, rfl, ?_⟩
  rintro rfl
  exact absurd (not_isBlank_of_head_collapse normal.collapsed) (by decide)

/-- The first word of a control line is a control word, or it begins with a closing brace. -/
lemma firstWord_of_isControlLine {c : Char} {r : Text} (space : c ≠ ' ')
    (h : isControlLine (c :: r) = true) :
    controlWords.contains (firstWord (c :: r)) = true ∨ c = '\x7d' := by
  by_cases brace : c = '\x7d'
  · exact Or.inr brace
  · left
    rwa [isControlLine, behindBraces, List.dropWhile_cons_of_neg (by simp [brace, space])] at h

/-- A control line does not begin with any other word. -/
lemma firstWord_ne_of_isControlLine {line word : Text} (normal : NormalLine line)
    (h : isControlLine line = true) (other : controlWords.contains word = false)
    (unbraced : word.head? ≠ some '\x7d') : firstWord line ≠ word := by
  rintro rfl
  obtain ⟨c, r, rfl, space⟩ := normal.exists_cons
  rcases firstWord_of_isControlLine space h with control | rfl
  · rw [control] at other
    cases other
  · exact unbraced rfl

/-! ## Tests for scaffolding -/

/-- A control word holds a letter, so a control line is more than closing brackets. -/
lemma isClosingOnly_of_isControlLine {line : Text} (h : isControlLine line = true) :
    isClosingOnly line = false := by
  have lettered : ∀ word ∈ controlWords, isClosingOnly word = false := by decide
  have word : isClosingOnly (firstWord (behindBraces line)) = false :=
    lettered _ (List.contains_iff_mem.1 h)
  have inside : firstWord (behindBraces line) <:+: line :=
    (List.takeWhile_prefix _).isInfix.trans (List.dropWhile_suffix _).isInfix
  rw [← Bool.not_eq_true] at word ⊢
  intro closing
  apply word
  rw [isClosingOnly, List.all_eq_true] at closing ⊢
  intro c hc
  exact closing c (inside.subset hc)

/-- A control line that is taken for the header of a method begins with a closing brace. -/
lemma startsWith_of_isMethodHeader {line : Text} (normal : NormalLine line)
    (h : isControlLine line = true) (header : isMethodHeader line = true) :
    line.startsWith "\x7d" = true := by
  obtain ⟨c, r, rfl, space⟩ := normal.exists_cons
  rcases firstWord_of_isControlLine space h with control | rfl
  · rw [isMethodHeader, control, Bool.true_or, if_pos rfl] at header
    cases header
  · simp [startsWith]

/-- **Of the six tests for scaffolding only two take control lines**: those for the headers of
classes and, behind a closing brace, of methods. -/
theorem isScaffolding_of_isControlLine {line : Text} (normal : NormalLine line)
    (h : isControlLine line = true) : isScaffolding line = isMistaken line := by
  have imported : importWords.contains (firstWord line) = false := by
    rw [← Bool.not_eq_true]
    intro found
    have other : ∀ word ∈ importWords,
        controlWords.contains word = false ∧ word.head? ≠ some '\x7d' := by decide
    obtain ⟨control, unbraced⟩ := other _ (List.contains_iff_mem.1 found)
    exact firstWord_ne_of_isControlLine normal h control unbraced rfl
  have begun : ∀ word : Text, (word.all fun c => !(c == ' ' || c == '(')) = true →
      controlWords.contains word = false → word.head? ≠ some '\x7d' →
      line.startsWith (word ++ " ") = false := by
    intro word plain other unbraced
    rw [← Bool.not_eq_true]
    intro starts
    exact firstWord_ne_of_isControlLine normal h other unbraced
      (firstWord_of_startsWith plain starts)
  have python : isPythonHeader line = false := by
    rw [isPythonHeader, Bool.and_eq_false_iff]
    exact Or.inl (begun "def" (by decide) (by decide) (by decide))
  have function : isFunctionHeader line = false := by
    rw [isFunctionHeader, Bool.and_eq_false_iff]
    exact Or.inl (begun "function" (by decide) (by decide) (by decide))
  have method : isMethodHeader line = (line.startsWith "\x7d" && isMethodHeader line) := by
    cases header : isMethodHeader line with
    | false => rw [Bool.and_false]
    | true => rw [startsWith_of_isMethodHeader normal h header, Bool.and_true]
  rw [isScaffolding, isClosingOnly_of_isControlLine h, imported, python, function, Bool.false_or,
    Bool.false_or, Bool.false_or, Bool.or_false, method, isMistaken]

/-! ## Cores -/

/-- The lines of a normal form, read off it. -/
lemma lines_normalize (code : Text) : (normalize code).lines = normalLines code := by
  apply lines_join
  intro line found
  have normal := normalLine_of_mem_normalLines found
  exact ⟨normal.nonempty, normal.not_mem (by decide) (by decide),
    normal.not_mem (by decide) (by decide)⟩

/-- The lines of a core, read off it. -/
lemma lines_core (code : Text) : (core code).lines = coreLines code := by
  apply lines_join
  intro line found
  have normal := normalLine_of_mem_normalLines (List.mem_of_mem_filter found)
  exact ⟨normal.nonempty, normal.not_mem (by decide) (by decide),
    normal.not_mem (by decide) (by decide)⟩

/-- Control lines that nothing takes are in the core, in the same order. -/
lemma filter_coreLines (code : Text) :
    (coreLines code).filter isKept = (normalLines code).filter isKept := by
  rw [coreLines, List.filter_filter]
  apply List.filter_congr
  intro line found
  cases control : isControlLine line with
  | false => rw [isKept, control, Bool.false_and, Bool.false_and]
  | true =>
      rw [isKept, isScaffolding_of_isControlLine (normalLine_of_mem_normalLines found) control,
        control, Bool.true_and, Bool.and_self]

/-- A match by cores is one of equal cores. -/
lemma core_eq_of_strategy {user reference : Text}
    (h : (compare user reference).strategy = .coreFix) : core user = core reference := by
  unfold compare at h
  dsimp only at h
  split at h
  · cases h
  · split at h
    · assumption
    · split at h
      · cases h
      · split at h
        · cases h
        · cases h
        · split at h
          · cases h
          · cases h

/-- **The core keeps the control flow up to two mistakes.**  A control line of the normal form is in
the core exactly if it is not taken for the header of a class, or, behind a closing brace, of a
method; and texts that match by their cores have the same control lines in the same order, those
that are so mistaken apart. -/
theorem core_keeps_control_lines (user reference : Text) :
    (∀ line, line ∈ (normalize user).lines → isControlLine line = true →
      (line ∈ (core user).lines ↔ isMistaken line = false)) ∧
    ((compare user reference).strategy = .coreFix →
      (normalize user).lines.filter isKept = (normalize reference).lines.filter isKept) := by
  constructor
  · intro line found control
    rw [lines_normalize] at found
    rw [lines_core, coreLines, List.mem_filter,
      isScaffolding_of_isControlLine (normalLine_of_mem_normalLines found) control]
    simp [found]
  · intro matched
    rw [lines_normalize, lines_normalize, ← filter_coreLines, ← filter_coreLines, ← lines_core,
      ← lines_core, core_eq_of_strategy matched]

/-- Classes of two names with one branch: the branch stays, and only the names are lost. -/
theorem core_keeps_control_lines_of_class :
    let user : Text := "class A \x7b\nif (a > b) \x7b"
    let reference : Text := "class B \x7b\nif (a > b) \x7b"
    ("if (a > b) \x7b" : Text) ∈ (core user).lines ∧
      (normalize user).lines.filter isKept = (normalize reference).lines.filter isKept := by
  intro user reference
  have keeps := core_keeps_control_lines user reference
  have stays := keeps.1 "if (a > b) \x7b" (by decide +kernel) (by decide)
  exact ⟨stays.2 (by decide +kernel), keeps.2 (by decide +kernel)⟩

/-- **A branch behind a closing brace is lost**, and a text in which its condition is turned around
matches by its core. -/
theorem else_if_is_dropped :
    let line : Text := "\x7d else if (a > b) \x7b"
    let user : Text := "if (a == b) \x7b\n\x7d else if (a > b) \x7b"
    let reference : Text := "if (a == b) \x7b\n\x7d else if (a < b) \x7b"
    line ∈ (normalize user).lines ∧ isControlLine line = true ∧ line ∉ (core user).lines ∧
      (compare user reference).strategy = .coreFix := by
  decide +kernel

end SnippetLab.Fix

import Mathlib.Order.Bounds.Basic
import SnippetLab.Fix.Verdict
import SnippetLab.Proofs.Decimal.Difference
import SnippetLab.Proofs.Fix.ControlLines
import SnippetLab.Proofs.Fix.EditDistance

/-!
# Where a rejection points

A learner whose code is not accepted is told a line to look at.  That there is one to tell rests on
two facts: texts whose normal forms have the same lines have the same normal form, and **no path to
a rejection is open to a text with the normal form of the reference**.  On three of the four paths
the normal forms have been compared before.  The fourth withdraws a match that is nearer to the
broken code, and nothing is nearer to a text than the text itself, as far as similarity can tell.

* `DiffersAt` — two texts differ in a line, or only one of them has it.
* `Measured` — what the fourth path takes from similarity, which `measured_of_words` proves for
  texts whose lengths are words.
* `rejection_names_first_difference` — what a verdict says about lines.
-/

namespace SnippetLab.Fix

/-! ## The first difference -/

/-- **The lines of two texts differ at a number**, counted from one: they have different lines
there, or only one of them has a line. -/
def DiffersAt (lines others : List Text) (number : Nat) : Prop :=
  1 ≤ number ∧ lines[number - 1]? ≠ others[number - 1]?

lemma firstDifference_eq_none_iff {number : Nat} {lines others : List Text} :
    firstDifference number lines others = none ↔ lines = others := by
  fun_induction firstDifference number lines others with
  | case1 => simp
  | case2 number line lines others ih => simp [ih]
  | case3 number line lines other others differ => simp [differ]
  | case4 lines number others notBoth notPairs =>
      refine iff_of_false nofun ?_
      rintro rfl
      cases lines with
      | nil => exact notBoth rfl rfl
      | cons line lines => exact notPairs line lines line lines rfl rfl

/-- **The first difference is the least number at which lines differ**, counted from any number. -/
lemma isLeast_firstDifference {number found : Nat} {lines others : List Text}
    (h : firstDifference number lines others = some found) :
    IsLeast {k | number ≤ k ∧ lines[k - number]? ≠ others[k - number]?} found := by
  fun_induction firstDifference number lines others with
  | case1 => cases h
  | case2 number line lines others ih =>
      have shift : ∀ k, number + 1 ≤ k → k - number = k - (number + 1) + 1 := by omega
      obtain ⟨⟨later, differs⟩, below⟩ := ih h
      refine ⟨⟨Nat.le_of_succ_le later, ?_⟩, ?_⟩
      · rwa [shift found later, List.getElem?_cons_succ, List.getElem?_cons_succ]
      · rintro k ⟨reached, differs'⟩
        rcases Nat.lt_or_eq_of_le reached with behind | rfl
        · refine below ⟨behind, ?_⟩
          rwa [shift k behind, List.getElem?_cons_succ, List.getElem?_cons_succ] at differs'
        · simp at differs'
  | case3 number line lines other others differ =>
      obtain rfl := Option.some.inj h
      exact ⟨⟨Nat.le_refl _, by simpa using differ⟩, fun k mem => mem.1⟩
  | case4 lines number others notBoth notPairs =>
      obtain rfl := Option.some.inj h
      refine ⟨⟨Nat.le_refl _, ?_⟩, fun k mem => mem.1⟩
      cases lines with
      | nil =>
          cases others with
          | nil => exact absurd rfl (notBoth rfl)
          | cons other others => simp
      | cons line lines =>
          cases others with
          | nil => simp
          | cons other others => exact absurd rfl (notPairs line lines other others rfl)

/-- **Texts of different normal forms differ at a first line.** -/
lemma exists_firstDifferingLine {user reference : Text}
    (differ : normalize user ≠ normalize reference) :
    ∃ k, firstDifferingLine user reference = some k ∧
      IsLeast {k | DiffersAt (normalize user).lines (normalize reference).lines k} k := by
  have lines : normalLines user ≠ normalLines reference := fun same =>
    differ (congrArg (Text.join "\n") same)
  obtain ⟨k, first⟩ := Option.ne_none_iff_exists'.1 (firstDifference_eq_none_iff.not.2 lines)
  refine ⟨k, first, ?_⟩
  rw [lines_normalize, lines_normalize]
  exact isLeast_firstDifference first

/-! ## Similarity -/

/-- **What is taken from similarity**: a normal form is similar to itself by one, and to that of the
broken code by no more than one. -/
def Measured (request : Request) : Prop :=
  similarity (normalize request.userCode) (normalize request.userCode) = 1.0 ∧
    ∀ broken, request.brokenCode = some broken →
      ¬(1.0 : Float) < similarity (normalize request.userCode) (normalize broken)

/-- A text is similar to itself by one. -/
lemma similarity_self {t : Text} (word : t.length < Decimal.wordBound) : similarity t t = 1.0 := by
  have same : editDistance t t = 0 := (editDistance_eq_zero_iff t t).2 rfl
  unfold similarity
  dsimp only
  rw [same, Nat.max_self]
  split
  · rfl
  · rename_i some
    exact Decimal.one_sub_zero_div some word

/-- Texts are similar by no more than one. -/
lemma similarity_not_lt {a b : Text} (word : max a.length b.length < Decimal.wordBound) :
    ¬(1.0 : Float) < similarity a b := by
  unfold similarity
  dsimp only
  split
  · decide
  · rename_i some
    exact Decimal.one_sub_div_not_lt some word (editDistance_le_max a b)

/-- **Similarity measures texts whose lengths are words.** -/
theorem measured_of_words {request : Request}
    (user : (normalize request.userCode).length < Decimal.wordBound)
    (broken : ∀ broken, request.brokenCode = some broken →
      (normalize broken).length < Decimal.wordBound) : Measured request :=
  ⟨similarity_self user, fun code given =>
    similarity_not_lt (Nat.max_lt.2 ⟨user, broken code given⟩)⟩

/-! ## Verdicts -/

/-- **A comparison accepts and names no line, or it rejects a text of another normal form** and
names the first line that differs. -/
lemma compare_cases (user reference : Text) :
    (compare user reference).matched = true ∧
        (compare user reference).firstDifferingLine = none ∨
      (compare user reference).matched = false ∧ normalize user ≠ normalize reference ∧
        (compare user reference).firstDifferingLine = firstDifferingLine user reference := by
  unfold compare
  dsimp only
  split
  · exact .inl ⟨rfl, rfl⟩
  · rename_i differ
    split
    · exact .inl ⟨rfl, rfl⟩
    · split
      · exact .inl ⟨rfl, rfl⟩
      · split
        · exact .inl ⟨rfl, rfl⟩
        · exact .inr ⟨rfl, differ, rfl⟩
        · split
          · exact .inl ⟨rfl, rfl⟩
          · exact .inr ⟨rfl, differ, rfl⟩

/-- **The verdicts there are**: a match names no line; code that is unchanged, code of another
normal form and code that is nearer to the broken code are rejected with the first line that
differs. -/
lemma validate_cases (request : Request) :
    (validate request).matched = true ∧ (validate request).firstDifferingLine = none ∨
      (validate request).matched = false ∧
        (validate request).firstDifferingLine =
          firstDifferingLine request.userCode request.referenceCode ∧
        ((validate request).strategy = .unchanged ∨
          normalize request.userCode ≠ normalize request.referenceCode ∨
          (validate request).strategy = .closerToBroken ∧
            ∃ broken, request.brokenCode = some broken ∧
              similarity (normalize request.userCode) (normalize request.referenceCode) <
                similarity (normalize request.userCode) (normalize broken)) := by
  have compared := compare_cases request.userCode request.referenceCode
  unfold validate
  dsimp only
  split
  · exact compared.imp_right fun ⟨no, differ, line⟩ => ⟨no, line, .inr (.inl differ)⟩
  · rename_i broken given
    split
    · exact .inr ⟨rfl, rfl, .inl rfl⟩
    · split
      · rename_i nearer
        rw [Bool.and_eq_true, decide_eq_true_eq] at nearer
        exact .inr ⟨rfl, rfl, .inr (.inr ⟨rfl, broken, given, nearer.2⟩)⟩
      · exact compared.imp_right fun ⟨no, differ, line⟩ => ⟨no, line, .inr (.inl differ)⟩

/-- **A rejection points at the first line that differs.**  Code that is neither accepted nor
unchanged has a first line in which its normal form and the reference's differ, and the verdict
names it; a match names none.  Where a match is withdrawn, this rests on what similarity measures,
and it measures texts whose lengths are words. -/
theorem rejection_names_first_difference (request : Request) :
    let verdict := validate request
    let user := normalize request.userCode
    let reference := normalize request.referenceCode
    (verdict.matched = false → verdict.strategy ≠ .unchanged →
      (verdict.strategy = .closerToBroken → Measured request) →
      ∃ k, verdict.firstDifferingLine = some k ∧
        IsLeast {k | DiffersAt user.lines reference.lines k} k) ∧
    (verdict.matched = true → verdict.firstDifferingLine = none) ∧
    (user.length < Decimal.wordBound →
      (∀ broken, request.brokenCode = some broken →
        (normalize broken).length < Decimal.wordBound) → Measured request) := by
  intro verdict user reference
  refine ⟨fun no changed given => ?_, fun yes => ?_, measured_of_words⟩
  · rcases validate_cases request with ⟨yes, -⟩ | ⟨-, line, path⟩
    · rw [yes] at no
      cases no
    · rw [line]
      refine exists_firstDifferingLine ?_
      rcases path with unchanged | differ | ⟨withdrawn, broken, known, nearer⟩
      · exact absurd unchanged changed
      · exact differ
      · -- nothing is nearer to a text than the text itself
        obtain ⟨whole, atMost⟩ := given withdrawn
        intro same
        rw [← same, whole] at nearer
        exact atMost broken known nearer
  · rcases validate_cases request with ⟨-, none⟩ | ⟨no, -⟩
    · exact none
    · rw [no] at yes
      cases yes

/-- A match is withdrawn from code with a line too many: the third line is named. -/
theorem rejection_names_first_difference_withdrawn :
    let request : Request :=
      ⟨"x = 1;\nreturn x;\nlog(x, x, x, x);", "x = 1;\nreturn x;",
        some "x = 2;\nreturn x;\nlog(x, x, x, x);"⟩
    (validate request).strategy = .closerToBroken ∧
      (validate request).firstDifferingLine = some 3 ∧
      IsLeast {k | DiffersAt (normalize request.userCode).lines
        (normalize request.referenceCode).lines k} 3 := by
  intro request
  have withdrawn : (validate request).strategy = .closerToBroken := by decide +kernel
  have line : (validate request).firstDifferingLine = some 3 := by decide +kernel
  obtain ⟨names, -, measures⟩ := rejection_names_first_difference request
  have measured : Measured request := measures (by decide) (by
    rintro broken known
    obtain rfl := Option.some.inj known
    decide)
  obtain ⟨k, named, least⟩ :=
    names (by decide +kernel) (by rw [withdrawn]; decide) fun _ => measured
  obtain rfl : 3 = k := Option.some.inj (line.symm.trans named)
  exact ⟨withdrawn, line, least⟩

end SnippetLab.Fix

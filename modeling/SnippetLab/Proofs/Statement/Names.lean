import SnippetLab.Proofs.Text.Blanks
import SnippetLab.Proofs.Text.Parts
import SnippetLab.Statement.Basic

/-!
# What names are made of

A name is not empty and holds only characters of words, so trimming leaves it as it is, and there
are no array brackets to take off its end.
-/

namespace SnippetLab

open Text

/-- **A name holds only characters of words.** -/
lemma isWordChar_of_isIdentifier {x : Text} (h : isIdentifier x = true) :
    ∀ c ∈ x, isWordChar c = true := by
  cases x with
  | nil => cases h
  | cons c r =>
      simp only [isIdentifier, Bool.and_eq_true, Bool.or_eq_true, List.all_eq_true] at h
      rw [List.forall_mem_cons]
      refine ⟨?_, h.2⟩
      rcases h.1 with (letter | underscore) | dollar
      · exact isWordChar_of_isLetter letter
      · simp [isWordChar, underscore]
      · simp [isWordChar, dollar]

lemma ne_nil_of_isIdentifier {x : Text} (h : isIdentifier x = true) : x ≠ [] := by
  rintro rfl
  cases h

lemma solid_of_isIdentifier {x : Text} (h : isIdentifier x = true) : Solid x :=
  .of_forall (ne_nil_of_isIdentifier h) fun c hc =>
    isBlank_of_isWordChar (isWordChar_of_isIdentifier h c hc)

lemma withoutBrackets_array (tag : Text) : withoutBrackets (tag ++ "[]") = withoutBrackets tag := by
  rw [withoutBrackets, List.reverse_append]
  rfl

lemma withoutBrackets_of_isIdentifier {x : Text} (h : isIdentifier x = true) :
    withoutBrackets x = x := by
  have last : ∀ c ∈ x.reverse.head?, c ≠ ']' := by
    intro c first
    rw [List.head?_reverse] at first
    exact ne_of_isWordChar (isWordChar_of_isIdentifier h c (List.mem_of_getLast? first)) (by decide)
  have kept : withoutBracketsBack x.reverse = x.reverse := by
    generalize x.reverse = back at last
    fun_cases withoutBracketsBack back with
    | case1 r => exact absurd rfl (last ']' rfl)
    | case2 => rfl
  rw [withoutBrackets, kept, List.reverse_reverse]

end SnippetLab

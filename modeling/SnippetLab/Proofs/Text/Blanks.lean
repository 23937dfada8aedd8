import Mathlib.Tactic.Lemma
import SnippetLab.Text.LowerCase

/-!
# Blanks among the other classes

White space is a class of twenty-five characters, so what a table says about each of them is
evaluated, and a statement about all blanks follows (`mem_blankCodes`).

* `isWordChar_of_isBlank` — no blank is a character of a word.
* `not_isBlank_of_mem_pieces` — the pieces between blanks hold none.
-/

namespace SnippetLab.Text

/-! ## The class as a list -/

/-- The code points of white space. -/
def blankCodes : List Nat :=
  [0x09, 0x0A, 0x0B, 0x0C, 0x0D, 0x20, 0x85, 0xA0, 0x1680, 0x2000, 0x2001, 0x2002, 0x2003, 0x2004,
    0x2005, 0x2006, 0x2007, 0x2008, 0x2009, 0x200A, 0x2028, 0x2029, 0x202F, 0x205F, 0x3000]

/-- **A blank is one of the characters listed.** -/
theorem mem_blankCodes {c : Char} (h : isBlank c = true) : c.toNat ∈ blankCodes := by
  simp only [isBlank, Bool.or_eq_true, Bool.and_eq_true, beq_iff_eq, decide_eq_true_eq] at h
  simp only [blankCodes, List.mem_cons, List.not_mem_nil, or_false]
  omega

/-- What is true of the characters listed is true of every blank. -/
lemma of_isBlank {p : Char → Bool} (all : (blankCodes.map Char.ofNat).all p = true) {c : Char}
    (h : isBlank c = true) : p c = true := by
  have listed := List.mem_map_of_mem (f := Char.ofNat) (mem_blankCodes h)
  rw [Char.ofNat_toNat] at listed
  exact List.all_eq_true.1 all c listed

/-- **No blank is a character of a word.** -/
theorem isWordChar_of_isBlank {c : Char} (h : isBlank c = true) : isWordChar c = false := by
  have other := of_isBlank (p := fun c => !isWordChar c) (by decide +kernel) h
  simpa using other

lemma isBlank_of_isWordChar {c : Char} (h : isWordChar c = true) : isBlank c = false := by
  cases blank : isBlank c with
  | false => rfl
  | true =>
      rw [isWordChar_of_isBlank blank] at h
      cases h

/-! ## Characters of words -/

/-- A digit is a character of words. -/
lemma isWordChar_of_isDigit {c : Char} (h : c.isDigit = true) : isWordChar c = true := by
  simp [isWordChar, isLetterOrNumber, Char.isAlphanum, h]

/-- A letter is a character of words. -/
lemma isWordChar_of_isLetter {c : Char} (h : isLetter c = true) : isWordChar c = true := by
  simp only [isLetter, Bool.or_eq_true, Bool.and_eq_true] at h
  rcases h with ascii | ⟨other, letter⟩
  · simp [isWordChar, isLetterOrNumber, Char.isAlphanum, ascii]
  · simp [isWordChar, isLetterOrNumber, other, letter]

/-- What holds of everything but some characters that no word has holds of the words. -/
lemma ne_of_isWordChar {c d : Char} (h : isWordChar c = true) (other : isWordChar d = false) :
    c ≠ d := by
  rintro rfl
  rw [h] at other
  cases other

/-- A character of words is none of the others listed. -/
lemma not_mem_of_isWordChar {c : Char} (h : isWordChar c = true) (others : Text)
    (plain : (others.all fun d => !isWordChar d) = true) : c ∉ others := by
  intro found
  have other := List.all_eq_true.1 plain c found
  rw [h] at other
  cases other

/-! ## ASCII -/

/-- A statement about ASCII characters is decided by its 128 instances. -/
lemma of_ascii {p : Char → Prop} (all : ∀ n < 0x80, p (Char.ofNat n)) {c : Char}
    (h : c.toNat < 0x80) : p c := by
  have checked := all c.toNat h
  rwa [Char.ofNat_toNat] at checked

/-! ## The pieces between blanks -/

lemma of_mem_runsFrom {p : Char → Bool} {before run t : Text} {s : Span}
    (h : s ∈ runsFrom p before run t) (held : ∀ c ∈ run, p c = true) :
    ∀ c ∈ s.body, p c = true := by
  induction t generalizing before run with
  | nil =>
      unfold runsFrom at h
      split at h
      · cases h
      · rw [List.mem_singleton.1 h]
        intro c hc
        exact held c (List.mem_reverse.1 hc)
  | cons d r ih =>
      unfold runsFrom at h
      split at h
      · rename_i inside
        refine ih h ?_
        intro c hc
        rcases List.mem_cons.1 hc with rfl | hc
        · exact inside
        · exact held c hc
      · split at h
        · exact ih h (by simp)
        · rcases List.mem_cons.1 h with rfl | later
          · intro c hc
            exact held c (List.mem_reverse.1 hc)
          · exact ih later (by simp)

lemma body_ne_nil_of_mem_runsFrom {p : Char → Bool} {before run t : Text} {s : Span}
    (h : s ∈ runsFrom p before run t) : s.body ≠ [] := by
  induction t generalizing before run with
  | nil =>
      rw [runsFrom] at h
      split at h
      · cases h
      · rename_i nonempty
        rw [List.mem_singleton.1 h]
        simpa using nonempty
  | cons c r ih =>
      rw [runsFrom] at h
      split at h
      · exact ih h
      · split at h
        · exact ih h
        · rename_i nonempty
          rcases List.mem_cons.1 h with rfl | later
          · simpa using nonempty
          · exact ih later

/-- The runs themselves do not depend on what has been passed before. -/
lemma bodies_runsFrom (p : Char → Bool) (before run t : Text) :
    (runsFrom p before run t).map Span.body = (runsFrom p [] run t).map Span.body := by
  induction t generalizing before run with
  | nil =>
      rw [runsFrom, runsFrom]
      split <;> rfl
  | cons c r ih =>
      rw [runsFrom, runsFrom]
      split
      · exact ih before (c :: run)
      · split
        · rw [ih (c :: before), ih [c]]
        · rw [List.map_cons, List.map_cons, ih (c :: (run ++ before)), ih (c :: (run ++ []))]

/-- A piece between blanks holds none. -/
theorem not_isBlank_of_mem_pieces {t piece : Text} (h : piece ∈ t.pieces) {c : Char}
    (hc : c ∈ piece) : isBlank c = false := by
  obtain ⟨s, found, rfl⟩ := List.mem_map.1 h
  have held := of_mem_runsFrom found (by simp) c hc
  simpa using held

end SnippetLab.Text

import Mathlib.Tactic.Lemma
import SnippetLab.Decimal.Numeral

/-!
# Written integers read back

`ofNat` and `ofInt` write integers in canonical form: no leading zeros, no plus sign, no negative
zero.  What they write consists of ASCII digits behind at most one minus sign, and reading it gives
the integer back (`signedWord?_ofInt`).
-/

namespace SnippetLab.Decimal

/-! ## Naturals -/

lemma isDigit_of_mem_ofNat {n : Nat} {c : Char} (h : c ∈ ofNat n) : c.isDigit = true :=
  Nat.isDigit_of_mem_toDigits (by decide) (by decide) h

lemma ofNat_ne_nil (n : Nat) : ofNat n ≠ [] := Nat.toDigits_ne_nil

@[simp] lemma isDigits_ofNat (n : Nat) : isDigits (ofNat n) = true := by
  unfold isDigits
  rw [Bool.and_eq_true, List.all_eq_true]
  refine ⟨?_, fun c hc => isDigit_of_mem_ofNat hc⟩
  rw [Bool.not_eq_true', List.isEmpty_eq_false_iff]
  exact ofNat_ne_nil n

@[simp] lemma value_ofNat (n : Nat) : value (ofNat n) = n := Nat.ofDigitChars_ten_toDigits

@[simp] lemma digits?_ofNat (n : Nat) : digits? (ofNat n) = some n := by simp [digits?]

/-- **A natural number below the bound reads back.** -/
theorem word?_ofNat {n : Nat} (h : n < wordBound) : word? (ofNat n) = some n := by
  unfold word?
  dsimp only
  split
  · rename_i r signed
    have digit := isDigit_of_mem_ofNat (n := n) (c := '+') (by simp [signed])
    cases digit
  · rw [digits?_ofNat]
    exact Option.filter_eq_some_iff.2 ⟨rfl, by simpa using h⟩

/-! ## Integers -/

/-- A text of digits has no sign in front, so it is read from its first character on. -/
lemma signedWord?_of_isDigits {t : Text} (h : isDigits t = true) :
    signedWord? t = (some (value t : Int)).filter fits := by
  unfold signedWord?
  split
  · simp [isDigits] at h
  · simp [isDigits] at h
  · simp [digits?, h]

/-- **A 64-bit integer reads back.** -/
theorem signedWord?_ofInt {n : Int} (h : fits n = true) : signedWord? (ofInt n) = some n := by
  cases n with
  | ofNat n =>
      rw [ofInt, signedWord?_of_isDigits (isDigits_ofNat n), value_ofNat]
      exact Option.filter_eq_some_iff.2 ⟨rfl, h⟩
  | negSucc n =>
      rw [ofInt]
      simp only [signedWord?, digits?_ofNat]
      exact Option.filter_eq_some_iff.2 ⟨rfl, h⟩

end SnippetLab.Decimal

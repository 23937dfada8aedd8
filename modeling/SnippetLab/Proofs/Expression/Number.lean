import SnippetLab.Expression.Evaluate
import SnippetLab.Proofs.Decimal.Numeral
import SnippetLab.Proofs.Text.Parts

/-!
# Numbers and their sums

What counts as a number is a decimal (`isNumeric_iff`), so what is none is told by a character that
no number has (`of_isNumeric_cons`).  Written integers are numbers, and a signed sum of them is
exact as long as every partial sum from the left fits into 64 bits (`combine?_ofInt`): doubles are
never consulted.  A single summand that is no number makes a sum a concatenation
(`combine?_texts`).
-/

namespace SnippetLab.Expression

open Decimal Text

/-! ## What a number is -/

lemma isDigit_of_mem {t : Text} (h : isDigits t = true) {c : Char} (hc : c ∈ t) :
    c.isDigit = true := by
  unfold isDigits at h
  rw [Bool.and_eq_true, List.all_eq_true] at h
  exact h.2 c hc

/-- No digit is a point. -/
lemma no_point {t : Text} (h : isDigits t = true) : ∀ c ∈ t, (c == '.') = false := by
  intro c hc
  rw [beq_eq_false_iff_ne]
  rintro rfl
  exact absurd (isDigit_of_mem h hc) (by decide)

/-- **The unsigned numbers**: digits, and perhaps a point and more digits. -/
inductive IsMagnitude : Text → Prop
  | whole {w : Text} (digits : isDigits w = true) : IsMagnitude w
  | fraction {w f : Text} (digits : isDigits w = true) (decimals : isDigits f = true) :
      IsMagnitude (w ++ '.' :: f)

/-- **The numbers**: perhaps a minus sign in front. -/
def IsDecimal (t : Text) : Prop := IsMagnitude t ∨ ∃ r, t = '-' :: r ∧ IsMagnitude r

lemma magnitude?_of_isDigits {t : Text} (h : isDigits t = true) :
    magnitude? t = some (t, none) := by
  simp [magnitude?, splitFirst_eq_none (no_point h), h]

/-- Without its sign a number is digits and a point. -/
lemma IsMagnitude.of_mem {t : Text} (h : IsMagnitude t) {c : Char} (hc : c ∈ t) :
    c.isDigit = true ∨ c = '.' := by
  cases h with
  | whole digits => exact .inl (isDigit_of_mem digits hc)
  | fraction digits decimals =>
      rcases List.mem_append.1 hc with inWhole | behind
      · exact .inl (isDigit_of_mem digits inWhole)
      · rcases List.mem_cons.1 behind with atPoint | inFraction
        · exact .inr atPoint
        · exact .inl (isDigit_of_mem decimals inFraction)

lemma magnitude?_isSome_iff {t : Text} : (magnitude? t).isSome = true ↔ IsMagnitude t := by
  constructor
  · intro h
    unfold magnitude? at h
    split at h
    · split at h
      · rename_i digits
        exact .whole digits
      · cases h
    · rename_i whole fraction parts
      split at h
      · rename_i digits
        rw [Bool.and_eq_true] at digits
        obtain ⟨point, here, rfl⟩ := eq_of_splitFirst parts
        rw [eq_of_beq here]
        exact .fraction digits.1 digits.2
      · cases h
  · rintro (digits | ⟨digits, decimals⟩)
    · rw [magnitude?_of_isDigits digits]
      rfl
    · rw [magnitude?, splitFirst_append_cons (no_point digits) (by decide)]
      simp [digits, decimals]

/-- **What counts as a number is a decimal.** -/
theorem isNumeric_iff {t : Text} : isNumeric t = true ↔ IsDecimal t := by
  rw [isNumeric, magnitude?_isSome_iff, IsDecimal]
  unfold splitSign
  split
  · rename_i r
    constructor
    · exact fun unsigned => .inr ⟨r, rfl, unsigned⟩
    · rintro (unsigned | ⟨_, same, unsigned⟩)
      · rcases unsigned.of_mem List.mem_cons_self with digit | point
        · cases digit
        · cases point
      · cases same
        exact unsigned
  · rename_i other
    constructor
    · exact .inl
    · rintro (unsigned | ⟨r, same, -⟩)
      · exact unsigned
      · exact absurd same (other r)

/-- **Only the first character of a number can be something else than a digit or a point**, and
then it is the minus sign. -/
theorem of_isNumeric_cons {c : Char} {r : Text} (h : isNumeric (c :: r) = true) :
    (c.isDigit = true ∨ c = '.' ∨ c = '-') ∧ ∀ d ∈ r, d.isDigit = true ∨ d = '.' := by
  rcases isNumeric_iff.1 h with unsigned | ⟨r', same, unsigned⟩
  · exact ⟨(unsigned.of_mem List.mem_cons_self).imp_right .inl,
      fun d hd => unsigned.of_mem (List.mem_cons_of_mem c hd)⟩
  · cases same
    exact ⟨.inr (.inr rfl), fun d hd => unsigned.of_mem hd⟩

/-- **What is no decimal is no number.** -/
lemma ofText?_eq_none {t : Text} (h : ¬ IsDecimal t) : Number.ofText? t = none := by
  rw [← isNumeric_iff, isNumeric, Bool.not_eq_true, Option.isSome_eq_false_iff,
    Option.isNone_iff_eq_none] at h
  simp only [Number.ofText?, h]

/-! ## Written integers -/

lemma splitSign_of_isDigits {t : Text} (h : isDigits t = true) : splitSign t = (false, t) := by
  unfold splitSign
  split
  · exact absurd (isDigit_of_mem h List.mem_cons_self) (by decide)
  · rfl

lemma magnitude?_splitSign_ofInt (n : Int) :
    magnitude? (splitSign (ofInt n)).2 = some (ofNat n.natAbs, none) := by
  cases n with
  | ofNat n =>
      rw [ofInt, splitSign_of_isDigits (isDigits_ofNat n)]
      exact magnitude?_of_isDigits (isDigits_ofNat n)
  | negSucc n => exact magnitude?_of_isDigits (isDigits_ofNat (n + 1))

theorem isNumeric_ofInt (n : Int) : isNumeric (ofInt n) = true := by
  simp [isNumeric, magnitude?_splitSign_ofInt]

theorem ofText?_ofInt {n : Int} (h : fits n = true) :
    Number.ofText? (ofInt n) = some (.int n) := by
  simp [Number.ofText?, magnitude?_splitSign_ofInt, signedWord?_ofInt h]

/-! ## Sums -/

/-- A running sum goes on with a signed summand. -/
def addSigned (total : Int) (summand : Sign × Int) : Int := total + summand.1.unit * summand.2

/-- A sum stays exact as long as every partial sum fits. -/
lemma exact_foldl_add {vs : List (Sign × Int)} {total : Total} {t : Int}
    (start : total.exact = some t) (small : ∀ s ∈ vs.scanl addSigned t, fits s = true) :
    ((vs.map fun p => (p.1, Number.int p.2)).foldl
      (fun total (sign, n) => total.add sign n) total).exact = some (vs.foldl addSigned t) := by
  induction vs generalizing total t with
  | nil => exact start
  | cons p vs ih =>
      rw [List.scanl_cons, List.forall_mem_cons] at small
      have fitting : fits (addSigned t p) = true := by
        cases vs with
        | nil => exact small.2 _ (by simp)
        | cons q vs => exact small.2 _ (by simp)
      rw [List.map_cons, List.foldl_cons, List.foldl_cons]
      refine ih ?_ small.2
      simp only [Total.add, start, Number.toInt?]
      exact Option.filter_eq_some_iff.2 ⟨rfl, fitting⟩

lemma mapM_ofText?_ofInt {vs : List (Sign × Int)} (small : ∀ p ∈ vs, fits p.2 = true) :
    ((vs.map fun p => (p.1, ofInt p.2)).mapM fun (sign, v) =>
      (Number.ofText? v).map fun n => (sign, n)) = some (vs.map fun p => (p.1, .int p.2)) := by
  induction vs with
  | nil => rfl
  | cons p vs ih =>
      rw [List.forall_mem_cons] at small
      rw [List.map_cons, List.mapM_cons, ih small.2]
      simp [ofText?_ofInt small.1]

/-- **A chain of integers is their sum** if each of them and each partial sum fits. -/
theorem combine?_ofInt {vs : List (Sign × Int)} (small : ∀ p ∈ vs, fits p.2 = true)
    (sums : ∀ s ∈ vs.scanl addSigned 0, fits s = true) :
    combine? (vs.map fun p => (p.1, ofInt p.2)) = some (ofInt (vs.foldl addSigned 0)) := by
  have summed := @exact_foldl_add vs Total.zero 0 rfl sums
  unfold combine?
  rw [mapM_ofText?_ofInt small]
  simp [sumText, Total.text, summed]

/-! ## Concatenations -/

lemma mapM_eq_none {α β : Type} {f : α → Option β} {l : List α} {a : α} (ha : a ∈ l)
    (failed : f a = none) : l.mapM f = none := by
  induction l with
  | nil => cases ha
  | cons b l ih =>
      rw [List.mapM_cons]
      rcases List.mem_cons.1 ha with rfl | later
      · rw [failed]
        rfl
      · rw [ih later]
        cases f b with
        | none => rfl
        | some _ => rfl

/-- **A chain with an operand that is no number is not summed up**: its operands are put one behind
the other if all are added. -/
theorem combine?_of_other {values : List (Sign × Text)} (other : ∃ p ∈ values, ¬IsDecimal p.2) :
    combine? values =
      if values.all fun p => p.1 == .plus then some (values.flatMap (·.2)) else none := by
  obtain ⟨p, member, other⟩ := other
  have unsummed : values.mapM
      (fun (sign, v) => (Number.ofText? v).map fun n => (sign, n)) = none := by
    refine mapM_eq_none member ?_
    simp only [ofText?_eq_none other, Option.map_none]
  rw [combine?, unsummed]

/-- **Summands of which one is no number are put one behind the other.** -/
theorem combine?_texts {values : List Text} (other : ∃ v ∈ values, ¬ IsDecimal v) :
    combine? (values.map fun v => (.plus, v)) = some values.flatten := by
  obtain ⟨v, hv, other⟩ := other
  rw [combine?_of_other ⟨_, List.mem_map_of_mem hv, other⟩]
  simp [List.flatMap_map]

end SnippetLab.Expression

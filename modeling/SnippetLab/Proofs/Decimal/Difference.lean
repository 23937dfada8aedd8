import SnippetLab.Proofs.Decimal.Quotient

/-!
# One less a share

One less a share of a natural, as doubles, is never more than one (`one_sub_div_not_lt`), and one
less nothing is one (`one_sub_zero_div`).  The share is calculated first and lies between zero and
one; its difference from one is exact, and rounding keeps it below.
-/

namespace SnippetLab.Decimal

open Float.Model Float.Model.UnpackedFloat

/-- **What is below one stays at most one when it is rounded.** -/
lemma round_atMost_one {k : Nat} {e : Int} (nonzero : k ≠ 0) (least : -1022 ≤ e + k.log2)
    (below : e + k.log2 < 0) :
    ∃ q : Binary, round Format.binary64 .positive k e = q.unpacked ∧ q.Normal ∧ q.AtMost .one := by
  by_cases few : k.log2 ≤ 52
  · refine ⟨_, round_of_log2_le nonzero few least (by omega),
      Binary.normal_ofUnits nonzero few least (by omega), .inl ?_⟩
    simp only [Binary.ofUnits, Binary.one]
    omega
  · have target : Format.binary64.targetExponent (totalExponent k e) = e + k.log2 - 52 := by
      simp only [Format.targetExponent, totalExponent, mantissaBits_eq, Format.minExponent]
      omega
    have amount : (e - (e + k.log2 - 52)).toNat = 0 := by omega
    rw [UnpackedFloat.round, target, decreaseExponent]
    dsimp only
    rw [amount, Nat.shiftLeft_eq, Nat.pow_zero, Nat.mul_one, Int.natCast_zero, Int.sub_zero]
    exact roundWithAccuracy_atMost_one (s := k.log2 - 52) (by omega) nonzero (by omega)
      (.inl (by omega))

/-- **One less a magnitude is exact** before it is rounded: both are written in the units of the
magnitude. -/
lemma one_sub_unpacked_eq {m j : Nat} (positive : 0 < m) :
    UnpackedFloat.sub Format.binary64 Binary.one.unpacked (Binary.unpacked ⟨m, -52 - j⟩) =
      normalize Format.binary64 ((2 ^ 52 * 2 ^ j : Nat) - (m : Int)) (-52 - j) .positive := by
  have fewer : min (-52 : Int) (-52 - j) = -52 - j := by omega
  have up : ((-52 : Int) - (-52 - j)).toNat = j := by omega
  have stay : ((-52 - j : Int) - (-52 - j)).toNat = 0 := by omega
  rw [Binary.unpacked_of_pos (b := ⟨m, -52 - j⟩) positive,
    Binary.unpacked_of_pos (b := .one) (by decide)]
  delta UnpackedFloat.sub
  dsimp only
  simp only [Binary.one, decreaseExponent, fewer, up, stay, Nat.shiftLeft_eq, Nat.pow_zero,
    Nat.mul_one]
  rfl

/-- **What is left of one is not too small**: in units so small that the magnitude is at most half of
one, at least half of one is left. -/
lemma le_log2_difference {m k j : Nat} (short : m < 2 ^ 53) (rest : k + m = 2 ^ 52 * 2 ^ j)
    (left : k ≠ 0) : j ≤ k.log2 + 1 := by
  rcases Nat.lt_or_ge j 2 with few | many
  · omega
  · have half : 2 ^ 52 * 2 ^ j = 2 * 2 ^ (51 + j) := by
      rw [← Nat.pow_add, ← Nat.pow_succ']
      congr 1
      omega
    have small : 2 ^ 53 ≤ 2 ^ (51 + j) := Nat.pow_le_pow_right (by decide) (by omega)
    have log : 51 + j ≤ k.log2 := (Nat.le_log2 left).2 (by omega)
    omega

/-- **One less a magnitude that is at most one**: nothing is left, or a magnitude that is at most
one. -/
lemma one_sub_unpacked {q : Binary} (full : q.Normal) (atMost : q.AtMost .one) :
    UnpackedFloat.sub Format.binary64 Binary.one.unpacked q.unpacked = .zero .positive ∨
      ∃ r : Binary, UnpackedFloat.sub Format.binary64 Binary.one.unpacked q.unpacked = r.unpacked ∧
        r.Normal ∧ r.AtMost .one := by
  obtain ⟨m, e⟩ := q
  obtain ⟨low, high, -, -⟩ := full
  simp only [Binary.AtMost, Binary.one] at low high atMost
  -- one in the units of the magnitude
  obtain ⟨j, rfl⟩ : ∃ j : Nat, e = -52 - j := ⟨(-52 - e).toNat, by omega⟩
  rw [one_sub_unpacked_eq (by omega), UnpackedFloat.normalize]
  have larger : m ≤ 2 ^ 52 * 2 ^ j := by
    cases j with
    | zero => omega
    | succ j =>
        have more := Nat.two_pow_pos j
        rw [Nat.pow_succ]
        omega
  obtain ⟨k, rest⟩ : ∃ k : Nat, k + m = 2 ^ 52 * 2 ^ j := ⟨2 ^ 52 * 2 ^ j - m, by omega⟩
  have difference : ((2 ^ 52 * 2 ^ j : Nat) - (m : Int)) = (k : Int) := by omega
  rw [difference]
  by_cases none : k = 0
  · subst none
    exact .inl rfl
  · right
    rw [Int.compare_eq_gt.2 (by omega)]
    dsimp only
    rw [Int.toNat_natCast]
    have power : 2 ^ 52 * 2 ^ j = 2 ^ (52 + j) := (Nat.pow_add 2 52 j).symm
    have upper : k.log2 < 52 + j := (Nat.log2_lt none).2 (by omega)
    have lower := le_log2_difference (by omega) rest none
    exact round_atMost_one none (by omega) (by omega)

/-! ## The order of doubles -/

lemma lt_iff_unpack (x y : Float) :
    x < y ↔ x.toModel.unpack.lt y.toModel.unpack = true := decide_eq_true_iff

lemma Binary.AtMost.not_lt_unpacked {b b' : Binary} (h : b.AtMost b') (hb : b.Normal)
    (hb' : b'.Normal) : b'.unpacked.lt b.unpacked = false := by
  rw [unpacked_of_pos hb.pos, unpacked_of_pos hb'.pos]
  change (some ((compare b'.exponent b.exponent).then (compare b'.mantissa b.mantissa)) ==
    some .lt) = false
  rcases h with lower | ⟨same, atMost⟩
  · rw [Int.compare_eq_gt.2 lower]
    rfl
  · rw [same, Int.compare_eq_eq.2 rfl, Ordering.eq_then]
    rcases Nat.lt_or_eq_of_le atMost with less | equal
    · rw [Nat.compare_eq_gt.2 less]
      rfl
    · rw [Nat.compare_eq_eq.2 equal.symm]
      rfl

lemma unpack_sub (x y : Float) : (x - y).toModel.unpack =
    (Float.Model.pack
      (UnpackedFloat.sub Format.binary64 x.toModel.unpack y.toModel.unpack)).unpack := rfl

/-- **One less nothing is one.** -/
theorem one_sub_zero_div {n : Nat} (nonzero : n ≠ 0) (small : n < wordBound) :
    (1.0 : Float) - Float.ofNat 0 / Float.ofNat n = 1.0 := by
  change Float.ofModel (Float.Model.pack (UnpackedFloat.sub Format.binary64
    (1.0 : Float).toModel.unpack (Float.ofNat 0 / Float.ofNat n).toModel.unpack)) = 1.0
  rw [unpack_zero_div nonzero small]
  rfl

/-- **One less a share is not more than one.** -/
theorem one_sub_div_not_lt {m n : Nat} (nonzero : n ≠ 0) (small : n < wordBound) (h : m ≤ n) :
    ¬(1.0 : Float) < 1.0 - Float.ofNat m / Float.ofNat n := by
  have one : (1.0 : Float).toModel.unpack = Binary.one.unpacked := rfl
  rw [lt_iff_unpack, Bool.not_eq_true]
  by_cases positive : m = 0
  · rw [positive, one_sub_zero_div nonzero small]
    rfl
  · obtain ⟨q, share, full, atMost⟩ := unpack_div_ofNat positive nonzero small h
    rw [unpack_sub, one, share]
    rcases one_sub_unpacked full atMost with whole | ⟨r, rest, full', atMost'⟩
    · rw [whole]
      rfl
    · rw [rest, unpack_pack full']
      exact atMost'.not_lt_unpacked full' Binary.normal_one

end SnippetLab.Decimal

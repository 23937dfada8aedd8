import Mathlib.Tactic.Lemma
import Mathlib.Tactic.Ring
import SnippetLab.Decimal.Numeral
import SnippetLab.Decimal.Shortest

/-!
# A share of a natural as a double

Divided as doubles, a natural by one that is not smaller, the quotient lies between zero and one
(`div_ofNat_bounds`), although every step on the way rounds: naturals beyond 2^53 when they become
doubles, and the quotient itself.  Rounding keeps the order, and one is a double.

* `Binary.unpacked` — a magnitude in the form in which doubles are calculated with; packing it into
  the bits of a double and back changes nothing (`unpack_pack`).
* `residue` — a mantissa with what was cut off it, as one natural.  Cutting off another bit is
  `halve` and rounding is `nearest`, and both are monotone.
* `ofNatBinary` — the magnitude of a natural as a double, which is monotone too.
-/

namespace SnippetLab.Decimal

open Float.Model Float.Model.UnpackedFloat

/-! ## Magnitudes -/

namespace Binary

/-- The positive double of a magnitude, before it is packed into bits. -/
def unpacked (b : Binary) : UnpackedFloat :=
  if h : 0 < b.mantissa then .finite .positive b.mantissa b.exponent h else .zero .positive

/-- **The mantissa is full** and the exponent in range. -/
structure Normal (b : Binary) : Prop where
  low : 2 ^ 52 ≤ b.mantissa
  high : b.mantissa < 2 ^ 53
  least : -1074 ≤ b.exponent
  greatest : b.exponent ≤ 970

lemma Normal.pos {b : Binary} (h : b.Normal) : 0 < b.mantissa := by
  have low := h.low
  omega

lemma unpacked_of_pos {b : Binary} (h : 0 < b.mantissa) :
    b.unpacked = .finite .positive b.mantissa b.exponent h := dif_pos h

lemma unpacked_mk (m : Nat) (e : Int) :
    (if h : m = 0 then .zero .positive else .finite .positive m e (Nat.pos_of_ne_zero h)) =
      unpacked ⟨m, e⟩ := by
  cases m with
  | zero => rfl
  | succ m => rfl

/-- The order of full magnitudes: by their exponents, then by their mantissas. -/
def AtMost (b b' : Binary) : Prop :=
  b.exponent < b'.exponent ∨ b.exponent = b'.exponent ∧ b.mantissa ≤ b'.mantissa

/-- The number one. -/
def one : Binary := ⟨2 ^ 52, -52⟩

end Binary

lemma log2_eq {m k : Nat} (low : 2 ^ k ≤ m) (high : m < 2 ^ (k + 1)) : m.log2 = k := by
  have positive := Nat.two_pow_pos k
  exact (Nat.log2_eq_iff (by omega)).2 ⟨low, high⟩

lemma log2_mul_two_pow {n : Nat} (nonzero : n ≠ 0) (k : Nat) : (n * 2 ^ k).log2 = n.log2 + k := by
  obtain ⟨low, high⟩ := (Nat.log2_eq_iff nonzero).1 rfl
  refine log2_eq ?_ ?_
  · rw [Nat.pow_add]
    exact Nat.mul_le_mul_right _ low
  · rw [Nat.add_right_comm, Nat.pow_add]
    exact Nat.mul_lt_mul_of_pos_right high (Nat.two_pow_pos k)

/-! ## Packing -/

lemma mantissaBits_eq (format : Format) :
    format.mantissaBits = 1 + format.mantissaBitsWithoutImplicit := rfl

lemma finite_congr {s s' : Sign} {m m' : Nat} {e e' : Int} {positive : 0 < m} {positive' : 0 < m'}
    (sign : s = s') (mantissa : m = m') (exponent : e = e') :
    UnpackedFloat.finite s m e positive = UnpackedFloat.finite s' m' e' positive' := by
  subst sign mantissa exponent
  rfl

/-- The sign of what is packed without one. -/
lemma unpackSign_positive (format : Format) (exponent : BitVec format.exponentBits)
    (mantissa : BitVec format.mantissaBitsWithoutImplicit) :
    unpackSign (packComponents format .positive exponent mantissa) = 0#1 := by
  ext i inside
  obtain rfl : i = 0 := by omega
  delta unpackSign
  simp +arith [BitVec.extractLsb, packComponents, BitVec.getElem_append,
    Sign.toBitVec]

/-- **The components of a full magnitude read back**; the leading bit of the mantissa is not
stored. -/
lemma unpack_packComponents (format : Format) {scale m : Nat} (nonzero : 0 < scale)
    (small : scale + 1 < 2 ^ format.exponentBits) (low : 2 ^ format.mantissaBitsWithoutImplicit ≤ m)
    (high : m < 2 ^ (format.mantissaBitsWithoutImplicit + 1)) :
    UnpackedFloat.unpack format
        (packComponents format .positive (BitVec.ofNat _ scale) (BitVec.ofNat _ m)) =
      Binary.unpacked
        ⟨m, scale - (format.exponentBias + format.mantissaBitsWithoutImplicit)⟩ := by
  have read : (BitVec.ofNat format.exponentBits scale).toNat = scale := by
    rw [BitVec.toNat_ofNat, Nat.mod_eq_of_lt (by omega)]
  have finite : BitVec.ofNat format.exponentBits scale ≠ -1#_ := by
    intro h
    have same := congrArg BitVec.toNat h
    rw [read, BitVec.neg_one_eq_allOnes, BitVec.toNat_allOnes] at same
    omega
  have full : BitVec.ofNat format.exponentBits scale ≠ 0#_ := by
    intro h
    have same := congrArg BitVec.toNat h
    rw [read, BitVec.toNat_ofNat, Nat.zero_mod] at same
    omega
  have stored : m % 2 ^ format.mantissaBitsWithoutImplicit =
      m - 2 ^ format.mantissaBitsWithoutImplicit := by
    rw [Nat.pow_succ] at high
    rw [Nat.mod_eq_sub_mod low, Nat.mod_eq_of_lt (by omega)]
  have mantissa : (1#1 ++ BitVec.ofNat format.mantissaBitsWithoutImplicit m).toNat = m := by
    rw [BitVec.toNat_append, BitVec.toNat_ofNat, BitVec.toNat_ofNat, Nat.shiftLeft_eq, Nat.mul_comm,
      ← Nat.two_pow_add_eq_or_of_lt (Nat.mod_lt _ (Nat.two_pow_pos _)), stored]
    omega
  have positive : 0 < m := Nat.lt_of_lt_of_le (Nat.two_pow_pos _) low
  delta UnpackedFloat.unpack
  dsimp only
  rw [if_neg (by rwa [unpackExponent_packComponents]),
    if_neg (by rwa [unpackExponent_packComponents]), Binary.unpacked, dif_pos positive]
  refine finite_congr ?_ ?_ ?_
  · rw [unpackSign_positive]
    rfl
  · rw [unpackMantissa_packComponents, mantissa]
  · rw [unpackExponent_packComponents, read]

/-- **A full magnitude survives in the bits of a double.** -/
theorem unpack_pack {b : Binary} (h : b.Normal) :
    (Float.Model.pack b.unpacked).unpack = b.unpacked := by
  obtain ⟨m, e⟩ := b
  obtain ⟨low, high, least, greatest⟩ := h
  dsimp only at low high least greatest
  have positive : 0 < m := by omega
  obtain ⟨scale, rfl⟩ : ∃ scale : Nat, e = (scale : Int) - 1075 := ⟨(e + 1075).toNat, by omega⟩
  have biased :
      ((scale : Int) - 1075 + Format.binary64.exponentBias + (52 : Nat)).toNat = scale := by
    simp only [Format.exponentBias]
    omega
  have packed : UnpackedFloat.pack Format.binary64 (Binary.unpacked ⟨m, scale - 1075⟩) =
      packComponents Format.binary64 .positive (BitVec.ofNat 11 scale) (BitVec.ofNat 52 m) := by
    rw [Binary.unpacked, dif_pos positive]
    delta UnpackedFloat.pack
    dsimp only
    rw [biased, log2_eq low high, if_neg (by omega), if_pos (by decide)]
  rw [Float.Model.pack, Float.Model.unpack]
  dsimp only
  rw [packed]
  exact unpack_packComponents Format.binary64 (by omega) (by dsimp only; omega) low high

/-! ## Rounding -/

/-- A mantissa and the two bits that say what was cut off it, as one natural. -/
def residue (em : ExtendedMantissa) : Nat :=
  4 * em.mantissa + (2 * em.roundBit.toNat + em.stickyBit.toNat)

/-- Cut off one more bit: the last bit says whether anything but the bit before it is lost. -/
def halve (v : Nat) : Nat := 2 * (v / 4) + min 1 (v % 4)

/-- The nearest mantissa, the even one of two equally near. -/
def nearest (v : Nat) : Nat :=
  v / 4 + if v % 4 = 3 then 1 else if v % 4 = 2 then v / 4 % 2 else 0

lemma monotone_halve : Monotone halve := by
  intro v w h
  unfold halve
  omega

lemma monotone_nearest : Monotone nearest := by
  intro v w h
  unfold nearest
  split_ifs <;> omega

lemma nearest_four_mul (m : Nat) : nearest (4 * m) = m := by
  unfold nearest
  split_ifs <;> omega

lemma halve_iterate_div (n v : Nat) : halve^[n] v / 4 = v / 4 / 2 ^ n := by
  induction n with
  | zero => simp
  | succ n ih =>
      rw [Function.iterate_succ_apply', Nat.pow_succ, ← Nat.div_div_eq_div_mul, ← ih, halve]
      omega

lemma halve_iterate_mul (k m : Nat) : halve^[k] (4 * (m * 2 ^ k)) = 4 * m := by
  induction k with
  | zero => simp
  | succ k ih =>
      have once : halve (4 * (m * 2 ^ (k + 1))) = 4 * (m * 2 ^ k) := by
        have double : m * 2 ^ (k + 1) = 2 * (m * 2 ^ k) := by ring
        rw [halve, double]
        omega
      rw [Function.iterate_succ_apply, once, ih]

lemma mantissa_eq_residue_div (em : ExtendedMantissa) : em.mantissa = residue em / 4 := by
  obtain ⟨m, r, s⟩ := em
  cases r <;> cases s <;> simp [residue] <;> omega

lemma residue_shiftRightOne (em : ExtendedMantissa) :
    residue em.shiftRightOne = halve (residue em) := by
  obtain ⟨m, r, s⟩ := em
  unfold residue halve ExtendedMantissa.shiftRightOne
  dsimp only
  rcases Nat.mod_two_eq_zero_or_one m with even | odd
  · cases r <;> cases s <;> simp [even] <;> omega
  · cases r <;> cases s <;> simp [odd] <;> omega

lemma residue_shiftRight (em : ExtendedMantissa) (n : Nat) :
    residue (em >>> n) = halve^[n] (residue em) := by
  change residue (n.repeat ExtendedMantissa.shiftRightOne em) = _
  induction n with
  | zero => rfl
  | succ n ih => rw [Nat.repeat, residue_shiftRightOne, ih, Function.iterate_succ_apply']

lemma roundedMantissa_eq (em : ExtendedMantissa) : em.roundedMantissa = nearest (residue em) := by
  obtain ⟨m, r, s⟩ := em
  unfold nearest residue
  cases r <;> cases s <;>
    simp [ExtendedMantissa.roundedMantissa, ExtendedMantissa.accuracy,
      Accuracy.roundToNearestEven] <;>
    omega

lemma residue_div (m : Nat) (accuracy : Accuracy) :
    residue (.ofMantissaAndAccuracy m accuracy) / 4 = m := by
  rw [← mantissa_eq_residue_div]
  cases accuracy with
  | exact => rfl
  | inexact side => cases side <;> rfl

lemma residue_exact (m : Nat) : residue (.ofMantissaAndAccuracy m .exact) = 4 * m := by
  simp [residue, ExtendedMantissa.ofMantissaAndAccuracy]

/-- A mantissa with enough bits is cut down to full length. -/
lemma shiftToTargetExponent_eq {m s : Nat} {e : Int} (accuracy : Accuracy)
    (bits : m.log2 = 52 + s) (least : -1074 ≤ e + s) :
    shiftToTargetExponent Format.binary64 m e accuracy =
      (ExtendedMantissa.ofMantissaAndAccuracy m accuracy >>> s, e + s) := by
  have target : Format.binary64.targetExponent (totalExponent m e) = e + s := by
    simp only [Format.targetExponent, totalExponent, Format.minExponent, mantissaBits_eq, bits]
    omega
  have amount : (e + s - e).toNat = s := by omega
  rw [shiftToTargetExponent, shiftToExponent, target, amount]

/-- The magnitude of a rounded mantissa, which may have become one bit too long. -/
def settled (r : Nat) (e : Int) : Binary := if r = 2 ^ 53 then ⟨2 ^ 52, e + 1⟩ else ⟨r, e⟩

lemma exponent_settled (r : Nat) (e : Int) :
    e ≤ (settled r e).exponent ∧ (settled r e).exponent ≤ e + 1 := by
  unfold settled
  split <;> dsimp only <;> omega

lemma normal_settled {r : Nat} {e : Int} (low : 2 ^ 52 ≤ r) (high : r ≤ 2 ^ 53)
    (least : -1074 ≤ e) (greatest : e < 970) : (settled r e).Normal := by
  unfold settled
  split
  · exact ⟨le_refl _, by dsimp only; omega, by dsimp only; omega, by dsimp only; omega⟩
  · exact ⟨low, by dsimp only; omega, least, by dsimp only; omega⟩

/-- Becoming too long keeps the order. -/
lemma settled_atMost {r r' : Nat} {e e' : Int} (low : 2 ^ 52 ≤ r') (high : r ≤ 2 ^ 53)
    (high' : r' ≤ 2 ^ 53) (h : e < e' ∨ e = e' ∧ r ≤ r') :
    (settled r e).AtMost (settled r' e') := by
  unfold settled Binary.AtMost
  split <;> split <;> dsimp only <;> omega

lemma shiftToTargetExponent_settled {r : Nat} {e : Int} (low : 2 ^ 52 ≤ r) (high : r ≤ 2 ^ 53)
    (least : -1074 ≤ e) :
    Binary.mk (shiftToTargetExponent Format.binary64 r e .exact).1.mantissa
        (shiftToTargetExponent Format.binary64 r e .exact).2 = settled r e := by
  unfold settled
  split
  · rename_i long
    rw [shiftToTargetExponent_eq (s := 1) _ (log2_eq (by omega) (by omega)) (by omega), long]
    rfl
  · rw [shiftToTargetExponent_eq (s := 0) _ (log2_eq (by omega) (by omega)) (by omega)]
    simp
    rfl

lemma nearest_bounds {m s v : Nat} (bits : m.log2 = 52 + s) (nonzero : m ≠ 0) (here : v / 4 = m) :
    2 ^ 52 ≤ nearest (halve^[s] v) ∧ nearest (halve^[s] v) ≤ 2 ^ 53 := by
  obtain ⟨low, high⟩ := (Nat.log2_eq_iff nonzero).1 bits
  have whole : halve^[s] v / 4 = m / 2 ^ s := by rw [halve_iterate_div, here]
  have lower : 2 ^ 52 ≤ m / 2 ^ s := by
    rw [Nat.le_div_iff_mul_le (Nat.two_pow_pos s), ← Nat.pow_add]
    exact low
  have upper : m / 2 ^ s < 2 ^ 53 := by
    rw [Nat.div_lt_iff_lt_mul (Nat.two_pow_pos s), ← Nat.pow_add]
    rwa [Nat.add_right_comm] at high
  unfold nearest
  split_ifs <;> omega

/-- **Rounding a mantissa with at least 53 bits**: all but 53 of them are cut off, and the nearest
mantissa of 53 bits is taken. -/
theorem roundWithAccuracy_eq {m s : Nat} {e : Int} (accuracy : Accuracy)
    (bits : m.log2 = 52 + s) (nonzero : m ≠ 0) (least : -1074 ≤ e + s) :
    roundWithAccuracy Format.binary64 .positive m e accuracy =
      (settled (nearest (halve^[s] (residue (.ofMantissaAndAccuracy m accuracy))))
        (e + s)).unpacked := by
  obtain ⟨low, high⟩ := nearest_bounds bits nonzero (residue_div m accuracy)
  rw [← shiftToTargetExponent_settled low high least, roundWithAccuracy,
    shiftToTargetExponent_eq accuracy bits least]
  dsimp only
  rw [roundedMantissa_eq, residue_shiftRight]
  exact Binary.unpacked_mk _ _

/-- Cutting zeros off loses nothing. -/
lemma roundWithAccuracy_shifted {b : Binary} (h : b.Normal) (k : Nat) :
    roundWithAccuracy Format.binary64 .positive (b.mantissa * 2 ^ k) (b.exponent - k) .exact =
      b.unpacked := by
  have back : b.exponent - k + k = b.exponent := by omega
  have bits : (b.mantissa * 2 ^ k).log2 = 52 + k := by
    rw [log2_mul_two_pow h.pos.ne', log2_eq h.low h.high]
  have nonzero := Nat.mul_pos h.pos (Nat.two_pow_pos k)
  rw [roundWithAccuracy_eq .exact bits nonzero.ne' (by rw [back]; exact h.least), residue_exact,
    halve_iterate_mul, nearest_four_mul, settled, if_neg h.high.ne, back]

/-- The magnitude of a natural with at most 53 bits, in the units of an exponent. -/
def Binary.ofUnits (k : Nat) (e : Int) : Binary :=
  ⟨k * 2 ^ (52 - k.log2), e - (52 - k.log2 : Nat)⟩

lemma Binary.normal_ofUnits {k : Nat} {e : Int} (nonzero : k ≠ 0) (few : k.log2 ≤ 52)
    (least : -1022 ≤ e + k.log2) (greatest : e ≤ 970) : (Binary.ofUnits k e).Normal := by
  have scaled := Nat.mul_pos (Nat.pos_of_ne_zero nonzero) (Nat.two_pow_pos (52 - k.log2))
  have bits : (k * 2 ^ (52 - k.log2)).log2 = 52 := by
    rw [log2_mul_two_pow nonzero]
    omega
  obtain ⟨low, high⟩ := (Nat.log2_eq_iff scaled.ne').1 bits
  exact ⟨low, high, by simp only [ofUnits]; omega, by simp only [ofUnits]; omega⟩

/-- **A natural with at most 53 bits is not rounded.** -/
lemma round_of_log2_le {k : Nat} {e : Int} (nonzero : k ≠ 0) (few : k.log2 ≤ 52)
    (least : -1022 ≤ e + k.log2) (greatest : e ≤ 970) :
    round Format.binary64 .positive k e = (Binary.ofUnits k e).unpacked := by
  have target : Format.binary64.targetExponent (totalExponent k e) = e + k.log2 - 52 := by
    simp only [Format.targetExponent, totalExponent, mantissaBits_eq, Format.minExponent]
    omega
  have amount : (e - (e + k.log2 - 52)).toNat = 52 - k.log2 := by omega
  have exact := roundWithAccuracy_shifted (Binary.normal_ofUnits nonzero few least greatest) 0
  rw [Nat.pow_zero, Nat.mul_one, Int.natCast_zero, Int.sub_zero] at exact
  rw [UnpackedFloat.round, target, decreaseExponent]
  dsimp only
  rw [amount, Nat.shiftLeft_eq, ← exact, Binary.ofUnits]

/-- **Multiplying by one changes nothing.** -/
lemma mul_one_unpacked {b : Binary} (h : b.Normal) :
    UnpackedFloat.mul Format.binary64 b.unpacked Binary.one.unpacked = b.unpacked := by
  have whole := roundWithAccuracy_shifted h 52
  rw [Binary.unpacked_of_pos h.pos] at whole ⊢
  exact whole

lemma unpack_mul (x y : Float) : (x * y).toModel.unpack =
    (Float.Model.pack
      (UnpackedFloat.mul Format.binary64 x.toModel.unpack y.toModel.unpack)).unpack := rfl

lemma unpack_power : Float.exactlyRepresentablePowersOfTen[0].toModel.unpack =
    Binary.one.unpacked := rfl

/-! ## Naturals as doubles -/

/-- **The magnitude of a natural as a double.** -/
def ofNatBinary (n : Nat) : Binary :=
  if n.log2 ≤ 52 then ⟨n * 2 ^ (52 - n.log2), n.log2 - 52⟩
  else settled (nearest (halve^[n.log2 - 52] (4 * n))) (n.log2 - 52)

/-- A natural with at most 53 bits has the magnitude of so many units. -/
lemma ofUnits_zero {n : Nat} (few : n.log2 ≤ 52) : Binary.ofUnits n 0 = ofNatBinary n := by
  rw [Binary.ofUnits, ofNatBinary, if_pos few]
  congr 1
  omega

section

variable {n : Nat} (nonzero : n ≠ 0)

include nonzero

lemma nearest_ofNat_bounds (many : ¬n.log2 ≤ 52) :
    2 ^ 52 ≤ nearest (halve^[n.log2 - 52] (4 * n)) ∧
      nearest (halve^[n.log2 - 52] (4 * n)) ≤ 2 ^ 53 :=
  nearest_bounds (by omega) nonzero (by omega)

lemma log2_lt_of_word (small : n < wordBound) : n.log2 < 64 := (Nat.log2_lt nonzero).2 small

lemma normal_ofNatBinary (small : n < wordBound) : (ofNatBinary n).Normal := by
  have log := log2_lt_of_word nonzero small
  by_cases few : n.log2 ≤ 52
  · rw [← ofUnits_zero few]
    exact Binary.normal_ofUnits nonzero few (by omega) (by omega)
  · obtain ⟨low, high⟩ := nearest_ofNat_bounds nonzero few
    rw [ofNatBinary, if_neg few]
    exact normal_settled low high (by omega) (by omega)

lemma exponent_ofNatBinary (small : n < wordBound) :
    -52 ≤ (ofNatBinary n).exponent ∧ (ofNatBinary n).exponent ≤ 12 := by
  have log := log2_lt_of_word nonzero small
  unfold ofNatBinary
  split
  · dsimp only
    omega
  · have reach := exponent_settled (nearest (halve^[n.log2 - 52] (4 * n))) (n.log2 - 52)
    omega

/-- A natural with at most 53 bits becomes a double without rounding. -/
lemma ofNat_of_log2_le (few : n.log2 ≤ 52) :
    UnpackedFloat.ofNat Format.binary64 n = (ofNatBinary n).unpacked := by
  have positive : compare (n : Int) 0 = .gt := Int.compare_eq_gt.2 (by omega)
  rw [UnpackedFloat.ofNat, UnpackedFloat.ofInt, UnpackedFloat.normalize, positive]
  dsimp only
  rw [Int.toNat_natCast, round_of_log2_le nonzero few (by omega) (by omega), ofUnits_zero few]

lemma unpack_toFloat (small : n < wordBound) (few : n.log2 ≤ 52) :
    n.toUInt64.toFloat.toModel.unpack = (ofNatBinary n).unpacked := by
  have word : n.toUInt64.toNat = n := Nat.mod_eq_of_lt small
  change (Float.Model.pack (UnpackedFloat.ofNat _ n.toUInt64.toNat)).unpack = _
  rw [word, ofNat_of_log2_le nonzero few, unpack_pack (normal_ofNatBinary nonzero small)]

/-- A natural with more bits is rounded. -/
lemma ofScientific_of_lt_log2 (many : ¬n.log2 ≤ 52) :
    UnpackedFloat.ofScientific Format.binary64 n 0 = (ofNatBinary n).unpacked := by
  have bits : (n * 2 ^ 53).log2 = 52 + (n.log2 + 1) := by
    rw [log2_mul_two_pow nonzero]
    omega
  have cut : n.log2 + 1 = n.log2 - 52 + 53 := by omega
  have exponent : (-53 + 0 + (n.log2 + 1 : Nat) : Int) = n.log2 - 52 := by omega
  have enough : ¬(0 : Int) < -((2 ^ Format.binary64.exponentBits : Int) + n.log2) := by
    dsimp only
    omega
  rw [UnpackedFloat.ofScientific, dif_neg nonzero, if_neg (by decide), if_neg enough,
    if_pos (le_refl 0)]
  change roundWithAccuracy Format.binary64 .positive (n <<< 53 * 1) (-53 + 0) .exact = _
  rw [Nat.shiftLeft_eq, Nat.mul_one, roundWithAccuracy_eq .exact bits (by omega) (by omega),
    exponent, residue_exact, cut, Function.iterate_add_apply, halve_iterate_mul, ofNatBinary,
    if_neg many]

/-- **As a double a natural has its magnitude.** -/
theorem unpack_ofNat (small : n < wordBound) :
    (Float.ofNat n).toModel.unpack = (ofNatBinary n).unpacked := by
  have normal := normal_ofNatBinary nonzero small
  have unfolded : Float.ofNat n = Float.ofScientific n false 0 := rfl
  rw [unfolded, Float.ofScientific]
  split
  · rename_i few
    have log : n.log2 ≤ 52 := Nat.lt_succ_iff.1 ((Nat.log2_lt nonzero).2 few.1)
    dsimp only
    rw [if_neg (by decide), unpack_mul, unpack_toFloat nonzero small log, unpack_power,
      mul_one_unpacked normal, unpack_pack normal]
  · rename_i large
    have many : ¬n.log2 ≤ 52 := fun few =>
      large ⟨(Nat.log2_lt nonzero).1 (Nat.lt_succ_of_le few), by decide⟩
    have model := ofScientific_of_lt_log2 nonzero many
    dsimp only
    rw [if_neg (by decide)]
    change (Float.Model.pack (UnpackedFloat.ofScientific Format.binary64 n 0)).unpack = _
    rw [model, unpack_pack normal]

/-- **Becoming a double keeps the order of naturals.** -/
theorem ofNatBinary_atMost {m : Nat} (positive : m ≠ 0) (h : m ≤ n) :
    (ofNatBinary m).AtMost (ofNatBinary n) := by
  have logs : m.log2 ≤ n.log2 := by
    rw [Nat.le_log2 nonzero]
    exact Nat.le_trans ((Nat.le_log2 positive).1 (Nat.le_refl _)) h
  by_cases few : n.log2 ≤ 52
  · have few' : m.log2 ≤ 52 := by omega
    rw [ofNatBinary, ofNatBinary, if_pos few, if_pos few', Binary.AtMost]
    dsimp only
    rcases Nat.lt_or_eq_of_le logs with fewer | same
    · omega
    · rw [same]
      exact .inr ⟨rfl, Nat.mul_le_mul_right _ h⟩
  · obtain ⟨low, high⟩ := nearest_ofNat_bounds nonzero few
    by_cases few' : m.log2 ≤ 52
    · have reach := exponent_settled (nearest (halve^[n.log2 - 52] (4 * n))) (n.log2 - 52)
      rw [ofNatBinary, ofNatBinary, if_neg few, if_pos few', Binary.AtMost]
      dsimp only
      omega
    · obtain ⟨low', high'⟩ := nearest_ofNat_bounds positive few'
      rw [ofNatBinary, ofNatBinary, if_neg few, if_neg few']
      refine settled_atMost low high' high ?_
      rcases Nat.lt_or_eq_of_le logs with fewer | same
      · omega
      · rw [same]
        have close : 4 * m ≤ 4 * n := by omega
        exact .inr ⟨rfl, monotone_nearest (monotone_halve.iterate _ close)⟩

end

/-! ## Quotients -/

section

variable {m n : Nat} {e f : Int}

/-- Two full magnitudes are divided with 53 further bits. -/
lemma divCore_eq (hm : m.log2 = 52) (hn : n.log2 = 52) (least : -1021 ≤ e - f) (order : e ≤ f) :
    divCore Format.binary64 m e n f =
      (m * 2 ^ 53 / n, e - f - 53, accuracyOfFraction (m * 2 ^ 53 % n) n) := by
  have target : min (e - f)
      (Format.binary64.targetExponent (totalExponent m e - totalExponent n f)) = e - f - 53 := by
    simp only [Format.targetExponent, totalExponent, mantissaBits_eq, Format.minExponent, hm,
      hn]
    omega
  have amount : (e - f - (e - f - 53)).toNat = 53 := by omega
  rw [divCore, target, amount, Nat.shiftLeft_eq]

lemma log2_quotient (low : 2 ^ 52 ≤ m) (high : m < 2 ^ 53) (low' : 2 ^ 52 ≤ n)
    (high' : n < 2 ^ 53) :
    (m < n → (m * 2 ^ 53 / n).log2 = 52 + 0) ∧ (n ≤ m → (m * 2 ^ 53 / n).log2 = 52 + 1) := by
  have positive : 0 < n := by omega
  constructor
  · intro less
    refine log2_eq ?_ ?_
    · rw [Nat.le_div_iff_mul_le positive]
      omega
    · rw [Nat.div_lt_iff_lt_mul positive]
      omega
  · intro more
    refine log2_eq ?_ ?_
    · rw [Nat.le_div_iff_mul_le positive]
      omega
    · rw [Nat.div_lt_iff_lt_mul positive]
      omega

end

/-- What is rounded below one is at most one. -/
lemma roundWithAccuracy_atMost_one {k s : Nat} {e : Int} {accuracy : Accuracy}
    (bits : k.log2 = 52 + s) (nonzero : k ≠ 0) (least : -1074 ≤ e + s)
    (below : e + s < -52 ∨ e + s = -52 ∧
      nearest (halve^[s] (residue (.ofMantissaAndAccuracy k accuracy))) ≤ 2 ^ 52) :
    ∃ q : Binary, roundWithAccuracy Format.binary64 .positive k e accuracy = q.unpacked ∧
      q.Normal ∧ q.AtMost .one := by
  obtain ⟨low, high⟩ := nearest_bounds bits nonzero (residue_div k accuracy)
  have one : settled (2 ^ 52) (-52) = .one := if_neg (by decide)
  refine ⟨_, roundWithAccuracy_eq accuracy bits nonzero least,
    normal_settled low high least (by omega), ?_⟩
  rw [← one]
  exact settled_atMost (le_refl _) high (by decide) below

/-- **The quotient of a full magnitude by one that is not smaller is at most one.** -/
theorem div_unpacked {b b' : Binary} (h : b.Normal) (h' : b'.Normal) (order : b.AtMost b')
    (least : -969 ≤ b.exponent - b'.exponent) :
    ∃ q : Binary, UnpackedFloat.div Format.binary64 b.unpacked b'.unpacked = q.unpacked ∧
      q.Normal ∧ q.AtMost .one := by
  obtain ⟨fewer, more⟩ := log2_quotient h.low h.high h'.low h'.high
  have exponents : b.exponent ≤ b'.exponent := by
    unfold Binary.AtMost at order
    omega
  have divided : UnpackedFloat.div Format.binary64 b.unpacked b'.unpacked =
      roundWithAccuracy Format.binary64 .positive (b.mantissa * 2 ^ 53 / b'.mantissa)
        (b.exponent - b'.exponent - 53)
        (accuracyOfFraction (b.mantissa * 2 ^ 53 % b'.mantissa) b'.mantissa) := by
    rw [Binary.unpacked_of_pos h.pos, Binary.unpacked_of_pos h'.pos]
    delta UnpackedFloat.div
    dsimp only
    rw [divCore_eq (log2_eq h.low h.high) (log2_eq h'.low h'.high) (by omega) exponents]
    rfl
  have nonzero {s : Nat} (bits : (b.mantissa * 2 ^ 53 / b'.mantissa).log2 = 52 + s) :
      b.mantissa * 2 ^ 53 / b'.mantissa ≠ 0 := by
    intro zero
    rw [zero, Nat.log2_zero] at bits
    omega
  rw [divided]
  by_cases less : b.mantissa < b'.mantissa
  · have bits := fewer less
    exact roundWithAccuracy_atMost_one bits (nonzero bits) (by omega) (.inl (by omega))
  · have bits := more (Nat.le_of_not_lt less)
    refine roundWithAccuracy_atMost_one bits (nonzero bits) (by omega) ?_
    rcases order with earlier | ⟨same, atMost⟩
    · exact .inl (by omega)
    · -- equal magnitudes: the quotient is one, and nothing is rounded
      have equal : b.mantissa = b'.mantissa := by omega
      have exact : accuracyOfFraction 0 b'.mantissa = .exact := rfl
      refine .inr ⟨by omega, ?_⟩
      rw [equal, Nat.mul_div_cancel_left _ h'.pos, Nat.mul_mod_right, exact]
      decide

/-! ## The order of doubles -/

lemma le_iff_unpack (x y : Float) :
    x ≤ y ↔ x.toModel.unpack.le y.toModel.unpack = true := decide_eq_true_iff

lemma Binary.AtMost.le_unpacked {b b' : Binary} (h : b.AtMost b') (hb : b.Normal)
    (hb' : b'.Normal) : b.unpacked.le b'.unpacked = true := by
  rw [unpacked_of_pos hb.pos, unpacked_of_pos hb'.pos]
  change ((compare b.exponent b'.exponent).then (compare b.mantissa b'.mantissa)).isLE = true
  rcases h with lower | ⟨same, atMost⟩
  · rw [Int.compare_eq_lt.2 lower]
    rfl
  · rw [same, Int.compare_eq_eq.2 rfl, Ordering.eq_then, Nat.isLE_compare]
    exact atMost

lemma Binary.Normal.zero_le {b : Binary} (h : b.Normal) :
    UnpackedFloat.le (.zero .positive) b.unpacked = true := by
  rw [unpacked_of_pos h.pos]
  rfl

lemma Binary.normal_one : Binary.one.Normal := ⟨by decide, by decide, by decide, by decide⟩

lemma unpack_div (x y : Float) : (x / y).toModel.unpack =
    (Float.Model.pack
      (UnpackedFloat.div Format.binary64 x.toModel.unpack y.toModel.unpack)).unpack := rfl

/-- Nothing, divided by a natural, is nothing. -/
lemma unpack_zero_div {n : Nat} (nonzero : n ≠ 0) (small : n < wordBound) :
    (Float.ofNat 0 / Float.ofNat n).toModel.unpack = .zero .positive := by
  have quotient : UnpackedFloat.div Format.binary64 (Float.ofNat 0).toModel.unpack
      (ofNatBinary n).unpacked = .zero .positive := by
    rw [Binary.unpacked_of_pos (normal_ofNatBinary nonzero small).pos]
    rfl
  rw [unpack_div, unpack_ofNat nonzero small, quotient]
  rfl

/-- A natural divided by one that is not smaller is a full magnitude, at most one. -/
lemma unpack_div_ofNat {m n : Nat} (positive : m ≠ 0) (nonzero : n ≠ 0) (small : n < wordBound)
    (h : m ≤ n) :
    ∃ q : Binary, (Float.ofNat m / Float.ofNat n).toModel.unpack = q.unpacked ∧ q.Normal ∧
      q.AtMost .one := by
  have small' : m < wordBound := by omega
  have exponents := exponent_ofNatBinary nonzero small
  have exponents' := exponent_ofNatBinary positive small'
  obtain ⟨q, divided, full, atMost⟩ := div_unpacked (normal_ofNatBinary positive small')
    (normal_ofNatBinary nonzero small) (ofNatBinary_atMost nonzero positive h) (by omega)
  refine ⟨q, ?_, full, atMost⟩
  rw [unpack_div, unpack_ofNat nonzero small, unpack_ofNat positive small', divided,
    unpack_pack full]

/-- **A natural divided by one that is not smaller, as doubles, lies between zero and one.** -/
theorem div_ofNat_bounds {m n : Nat} (nonzero : n ≠ 0) (small : n < wordBound) (h : m ≤ n) :
    0 ≤ Float.ofNat m / Float.ofNat n ∧ Float.ofNat m / Float.ofNat n ≤ 1 := by
  have zero : (0 : Float).toModel.unpack = .zero .positive := rfl
  have one : (1 : Float).toModel.unpack = Binary.one.unpacked := rfl
  rw [le_iff_unpack, le_iff_unpack, zero, one]
  by_cases positive : m = 0
  · rw [positive, unpack_zero_div nonzero small]
    exact ⟨rfl, rfl⟩
  · obtain ⟨q, share, full, atMost⟩ := unpack_div_ofNat positive nonzero small h
    rw [share]
    exact ⟨full.zero_le, atMost.le_unpacked full Binary.normal_one⟩

end SnippetLab.Decimal

/-!
# The shortest decimal that reads back

A finite double is a mantissa times a power of two, and the reals that round to it form an
interval around it.  `shortest` finds the decimal with the fewest digits inside that interval:
on the grid of decimals with `n` digits it tries the two neighbours of the value, for `n` from 1
to 17, and takes the nearer of those inside.  All of it is arithmetic on naturals.

* `Binary` — a magnitude `mantissa · 2 ^ exponent`, read off the bits of a double.
* `Decimal.Coefficient` — a magnitude `digits · 10 ^ exponent`.
-/

namespace SnippetLab.Decimal

/-! ## Doubles as exact numbers -/

/-- The magnitude of a finite double: `mantissa · 2 ^ exponent`. -/
structure Binary where
  mantissa : Nat
  exponent : Int
  deriving Repr, DecidableEq

/-- How many values the mantissa of a double has below a power of two: 2^52. -/
def mantissaBound : Nat := 0x10000000000000

/-- How many values its exponent has: 2^11. -/
def exponentCount : Nat := 0x800

/-- What the bits of a double stand for. -/
inductive Reading where
  | notANumber
  | infinite (negative : Bool)
  | finite (negative : Bool) (magnitude : Binary)
  deriving Repr, DecidableEq

/-- Read the sign, the exponent and the mantissa off the bits. -/
def Reading.ofBits (bits : UInt64) : Reading :=
  let n := bits.toNat
  let negative := mantissaBound * exponentCount ≤ n
  let scale := n / mantissaBound % exponentCount
  let fraction := n % mantissaBound
  if scale == exponentCount - 1 then
    if fraction == 0 then .infinite negative else .notANumber
  else if scale == 0 then .finite negative ⟨fraction, -1074⟩
  else .finite negative ⟨fraction + mantissaBound, (scale : Int) - 1075⟩

/-- A power with an integer for its exponent as a fraction, numerator first. -/
def powerFraction (base : Nat) (exponent : Int) : Nat × Nat :=
  (Nat.pow base exponent.toNat, Nat.pow base (-exponent).toNat)

namespace Binary

/-- The value as a fraction, numerator first; the denominator is a power of two. -/
def fraction (b : Binary) : Nat × Nat :=
  let power := powerFraction 2 b.exponent
  (b.mantissa * power.1, power.2)

/-- Is the value a whole number? -/
def isWhole (b : Binary) : Bool := b.fraction.1 % b.fraction.2 == 0

/-- The whole part of the value. -/
def floor (b : Binary) : Nat := b.fraction.1 / b.fraction.2

end Binary

/-! ## The search -/

/-- A magnitude in decimal: `digits · 10 ^ exponent`. -/
structure Coefficient where
  digits : Nat
  exponent : Int
  deriving Repr, DecidableEq

/-- The same magnitude without zeros at the end of its digits; each step of `fuel` drops one. -/
def Coefficient.reduced (fuel : Nat) (c : Coefficient) : Coefficient :=
  match fuel with
  | 0 => c
  | k + 1 =>
    if c.digits != 0 && c.digits % 10 == 0 then Coefficient.reduced k ⟨c.digits / 10, c.exponent + 1⟩
    else c

/-- Which of two decimals equally near to a value is taken. -/
inductive Tie where
  /-- The larger one. -/
  | away
  /-- The one whose last digit is even. -/
  | even
  deriving Repr, DecidableEq

/-- The least `k ≤ fuel` for which `num · 10 ^ k` reaches `den`, counted from `k`. -/
def leadingZeros (num den : Nat) (k : Nat) : Nat → Nat
  | 0 => k
  | fuel + 1 => if den ≤ num * Nat.pow 10 k then k else leadingZeros num den (k + 1) fuel

/-- The power of ten just above a positive fraction: `10 ^ (p - 1) ≤ num / den < 10 ^ p`. -/
def pointPosition (num den : Nat) : Int :=
  if den ≤ num then ((Nat.toDigits 10 (num / den)).length : Int)
  else 1 - (leadingZeros num den 1 400 : Nat)

/-- The nearer of the value's two neighbours on the grid of multiples of `10 ^ grid`, if one of
them rounds to the double `b`. -/
def onGrid (tie : Tie) (b : Binary) (grid : Int) : Option Coefficient :=
  -- Four times the mantissa, so that the ends of the interval are whole numbers too.
  let centre := 4 * b.mantissa
  let upper := centre + 2
  let lower := if b.mantissa == mantissaBound && b.exponent > -1074 then centre - 1 else centre - 2
  let power := powerFraction 2 (b.exponent - 2)
  let unit := powerFraction 10 grid
  let left := power.1 * unit.2
  let right := power.2 * unit.1
  let closed := b.mantissa % 2 == 0
  let inside (d : Nat) : Bool :=
    if closed then lower * left ≤ d * right && d * right ≤ upper * left
    else lower * left < d * right && d * right < upper * left
  let below := centre * left / right
  let above := below + 1
  let downward := centre * left - below * right
  let upward := above * right - centre * left
  match inside below && below != 0, inside above with
  | true, true =>
    let takeBelow :=
      downward < upward || (downward == upward && tie == .even && below % 2 == 0)
    some ⟨if takeBelow then below else above, grid⟩
  | true, false => some ⟨below, grid⟩
  | false, true => some ⟨above, grid⟩
  | false, false => none

/-- **The decimal with the fewest digits that reads back as `b`**, the nearest of those.  Zero is
the single digit zero. -/
def shortest (tie : Tie) (b : Binary) : Coefficient :=
  if b.mantissa == 0 then ⟨0, 0⟩
  else
    let point := pointPosition b.fraction.1 b.fraction.2
    let found := (List.range 17).findSome? fun n : Nat => onGrid tie b (point - (n + 1 : Nat))
    (found.getD ⟨0, 0⟩).reduced 20

end SnippetLab.Decimal

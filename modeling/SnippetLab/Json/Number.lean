import SnippetLab.Decimal.Numeral
import SnippetLab.Decimal.Shortest
import SnippetLab.Json.Basic

/-!
# Numbers in JSON

An integer that fits into 64 bits, with or without a sign, stays an integer; every other number is
a double.  **Doubles are read quickly rather than exactly**: as many digits as fit into 64 bits
make up a whole number, which is then scaled by a power of ten in doubles.  They are written with
the fewest digits that read back exactly, in positional notation from 10^-5 up to 10^16 and with a
signed exponent beyond.
-/

namespace SnippetLab.Json

open Decimal

/-! ## Reading -/

/-- A number's digits, as far as they have been read into 64 bits, and the power of ten they are to
be scaled by. -/
structure Significand where
  digits : Nat
  exponent : Int
  deriving Repr, DecidableEq

/-- The value of a digit. -/
def digitValue (c : Char) : Nat := c.toNat - '0'.toNat

/-- Read one more digit before the point.  **From the first that does not fit on, digits only count
as zeros.** -/
def Significand.whole (s : Significand) (c : Char) : Significand :=
  if s.exponent = 0 ∧ s.digits * 10 + digitValue c < wordBound then
    ⟨s.digits * 10 + digitValue c, 0⟩
  else ⟨s.digits, s.exponent + 1⟩

/-- Read the digits after the point, up to the first that does not fit. -/
def Significand.fraction (s : Significand) : Text → Significand
  | [] => s
  | c :: r =>
    if s.digits * 10 + digitValue c < wordBound then
      Significand.fraction ⟨s.digits * 10 + digitValue c, s.exponent - 1⟩ r
    else s

/-- The largest power of ten that is a double. -/
def largestPower : Nat := 308

/-- Ten to a power, as a double. -/
def powerOfTen (n : Nat) : Float := Float.ofScientific 1 false n

/-- Scale down step by step until one power of ten remains; each step of `fuel` is a division. -/
def scaleDown (fuel : Nat) (x : Float) (exponent : Nat) : Float :=
  match fuel with
  | 0 => x
  | k + 1 =>
    if exponent ≤ largestPower then x / powerOfTen exponent
    else if x == 0.0 then x
    else scaleDown k (x / powerOfTen largestPower) (exponent - largestPower)

/-- A double scaled by a power of ten; nothing if it is too large for one. -/
def scale? (x : Float) (exponent : Int) : Option Float :=
  if exponent < 0 then some (scaleDown (exponent.natAbs / largestPower + 1) x exponent.natAbs)
  else if exponent.toNat ≤ largestPower then
    let y := x * powerOfTen exponent.toNat
    if y.isInf then none else some y
  else if x == 0.0 then some x
  else none

/-- The double of a significand. -/
def Significand.toDouble? (s : Significand) (negative : Bool) : Option Json :=
  (scale? (Float.ofNat s.digits) s.exponent).map fun x =>
    .double (if negative then -x else x).toBits

/-- The integer of some digits, or the double where there is no such integer: beyond 64 bits, and
for a zero with a minus sign. -/
def integer? (negative : Bool) (s : Significand) : Option Json :=
  if s.exponent ≠ 0 then s.toDouble? negative
  else if !negative then some (.nat s.digits)
  else if 0 < s.digits ∧ s.digits ≤ signedWordBound then some (.int (-(s.digits : Int)))
  else s.toDouble? true

/-- Exponents are counted in 32 bits: they stay below 2^31. -/
def exponentBound : Nat := 0x80000000

/-- The number of a significand with an exponent written out.  An exponent out of bounds gives zero
if it can. -/
def withExponent? (negative : Bool) (s : Significand) (down : Bool) (digits : Text) : Option Json :=
  if value digits < exponentBound then
    let exponent := s.exponent + if down then -(value digits : Int) else value digits
    Significand.toDouble? ⟨s.digits, exponent⟩ negative
  else if s.digits ≠ 0 ∧ !down then none
  else some (.double (if negative then (-0.0 : Float) else 0.0).toBits)

/-- The sign and the digits of an exponent. -/
def exponentParts? (t : Text) : Option (Bool × Text) :=
  let (down, digits) := match t with
    | '-' :: r => (true, r)
    | '+' :: r => (false, r)
    | _ => (false, t)
  if isDigits digits then some (down, digits) else none

/-- The digits before the point: no zero stands in front of others. -/
def isWhole (t : Text) : Bool := isDigits t && (t.length == 1 || t.head? != some '0')

/-- **The number a text is**, by the grammar of JSON. -/
def number? (t : Text) : Option Json :=
  let (negative, t) := match t with
    | '-' :: r => (true, r)
    | _ => (false, t)
  let (mantissa, exponent) := match Text.splitFirst (fun c => c == 'e' || c == 'E') t with
    | some (mantissa, exponent) => (mantissa, some exponent)
    | none => (t, none)
  let (whole, fraction) := match Text.splitFirst (· == '.') mantissa with
    | some (whole, fraction) => (whole, some fraction)
    | none => (mantissa, none)
  if isWhole whole && fraction.all isDigits then
    let s := whole.foldl Significand.whole ⟨0, 0⟩
    match fraction, exponent with
    | none, none => integer? negative s
    | _, none => (s.fraction (fraction.getD [])).toDouble? negative
    | _, some exponent =>
      (exponentParts? exponent).bind fun (down, digits) =>
        withExponent? negative (s.fraction (fraction.getD [])) down digits
  else none

/-! ## Writing -/

/-- Where the notation of doubles changes: the point stands among the digits or after them up to
this many places, -/
def placesBefore : Int := 16

/-- and in front of them with fewer than this many zeros between. -/
def zerosAfter : Int := 5

/-- An exponent, always with its sign. -/
def exponentText (n : Int) : Text := if n < 0 then 'e' :: ofInt n else 'e' :: '+' :: ofInt n

/-- A positive magnitude in the notation of JSON. -/
def magnitudeText (c : Coefficient) : Text :=
  let digits := ofNat c.digits
  let point := digits.length + c.exponent
  if 0 ≤ c.exponent ∧ point ≤ placesBefore then
    digits ++ List.replicate c.exponent.toNat '0' ++ ".0"
  else if 0 < point ∧ point ≤ placesBefore then
    digits.take point.toNat ++ '.' :: digits.drop point.toNat
  else if -zerosAfter < point ∧ point ≤ 0 then
    '0' :: '.' :: (List.replicate (-point).toNat '0' ++ digits)
  else
    let exponent := exponentText (point - 1)
    match digits with
    | [d] => d :: exponent
    | d :: rest => d :: '.' :: (rest ++ exponent)
    | [] => exponent

/-- **A double as JSON writes it.**  What is not a finite number is written as null. -/
def doubleText (bits : UInt64) : Text :=
  match Reading.ofBits bits with
  | .finite negative b =>
    let magnitude : Text := if b.mantissa = 0 then "0.0" else magnitudeText (shortest .even b)
    if negative then '-' :: magnitude else magnitude
  | _ => "null"

end SnippetLab.Json

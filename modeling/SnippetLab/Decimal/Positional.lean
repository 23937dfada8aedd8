import SnippetLab.Decimal.Numeral
import SnippetLab.Decimal.Shortest

/-!
# Decimals in positional notation

A double is written the way the snippet languages print one: always with a fractional part and
never with an exponent.  Whole values are written exactly, all others with the fewest digits that
read back.
-/

namespace SnippetLab.Decimal

/-- A coefficient written with a point, for one whose digits reach behind the point. -/
def Coefficient.positional (c : Coefficient) : Text :=
  let digits := ofNat c.digits
  let places := (-c.exponent).toNat
  if places < digits.length then
    digits.take (digits.length - places) ++ '.' :: digits.drop (digits.length - places)
  else '0' :: '.' :: (List.replicate (places - digits.length) '0' ++ digits)

/-- Magnitudes: the exact digits and `.0` for whole ones, the shortest digits for the rest.  Of two
shortest decimals equally near, the larger is written. -/
def magnitudeText (b : Binary) : Text :=
  if b.isWhole then ofNat b.floor ++ ".0" else (shortest .away b).positional

/-- **A double as text**: sign, positional digits, and names for what is not a finite number.  The
zero keeps its sign. -/
def ofBits (bits : UInt64) : Text :=
  match Reading.ofBits bits with
  | .notANumber => "NaN"
  | .infinite false => "inf"
  | .infinite true => "-inf"
  | .finite false b => magnitudeText b
  | .finite true b => '-' :: magnitudeText b

/-- A double as text. -/
def ofFloat (x : Float) : Text := ofBits x.toBits

end SnippetLab.Decimal

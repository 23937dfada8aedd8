import SnippetLab.Decimal.Positional
import SnippetLab.Statement.Basic

/-!
# Numbers in expressions

A number is written as an optional minus sign, digits, and perhaps a point and more digits.  One
without a point that fits into 64 bits is whole; any other is a double.  A sum is whole as long as
every operand and every partial sum is, and a double otherwise.
-/

namespace SnippetLab.Expression

open Decimal

/-- A value that sums can be formed of. -/
inductive Number where
  | int (n : Int)
  | double (x : Float)

/-- The unsigned text of a number: the digits before the point, and those after it if there is
one. -/
def magnitude? (t : Text) : Option (Text × Option Text) :=
  match t.splitFirst (· == '.') with
  | none => if isDigits t then some (t, none) else none
  | some (whole, fraction) =>
    if isDigits whole && isDigits fraction then some (whole, some fraction) else none

/-- A minus sign in front, and the rest. -/
def splitSign : Text → Bool × Text
  | '-' :: r => (true, r)
  | t => (false, t)

/-- **Is a text a number?** -/
def isNumeric (t : Text) : Bool := (magnitude? (splitSign t).2).isSome

/-- The double nearest to a decimal. -/
def nearestDouble (negative : Bool) (whole fraction : Text) : Float :=
  let x := Float.ofScientific (value (whole ++ fraction)) true fraction.length
  if negative then -x else x

/-- The number a text is. -/
def Number.ofText? (t : Text) : Option Number :=
  let (negative, rest) := splitSign t
  match magnitude? rest with
  | none => none
  | some (whole, fraction) =>
    match signedWord? t with
    | some n => some (.int n)
    | none => some (.double (nearestDouble negative whole (fraction.getD [])))

/-! ## Sums -/

/-- A running sum: exact while it can be, and in doubles all along. -/
structure Total where
  exact : Option Int
  double : Float

/-- Nothing summed yet. -/
def Total.zero : Total := ⟨some 0, 0.0⟩

/-- The number as a double. -/
def Number.toDouble : Number → Float
  | .int n => Float.ofInt n
  | .double x => x

/-- The number as an integer, if it is whole. -/
def Number.toInt? : Number → Option Int
  | .int n => some n
  | .double _ => none

/-- Add or subtract a number.  The exact sum is lost with the first operand that is not whole and
the first sum that does not fit. -/
def Total.add (total : Total) (sign : Sign) (n : Number) : Total :=
  { exact :=
      match total.exact, n.toInt? with
      | some t, some k => some (t + sign.unit * k) |>.filter fits
      | _, _ => none
    double :=
      match sign with
      | .plus => total.double + n.toDouble
      | .minus => total.double - n.toDouble }

/-- The text of a sum. -/
def Total.text (total : Total) : Text :=
  match total.exact with
  | some n => ofInt n
  | none => ofFloat total.double

/-- **The text of a signed sum of numbers**, from the left. -/
def sumText (numbers : List (Sign × Number)) : Text :=
  (numbers.foldl (fun total (sign, n) => total.add sign n) Total.zero).text

end SnippetLab.Expression

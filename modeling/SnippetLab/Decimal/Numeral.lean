import SnippetLab.Text.Basic

/-!
# Integers in decimal

Writing naturals and integers, and the two ways a text is read as one.  A *word* is what a count
or a line number has to be: an optional plus sign and ASCII digits, below 2^64.  A *signed word*
may have either sign and lies in the range of 64-bit integers.
-/

namespace SnippetLab.Decimal

/-- One more than the largest word, 2^64. -/
def wordBound : Nat := 0x10000000000000000

/-- One more than the largest signed word, 2^63; the smallest is its negative. -/
def signedWordBound : Nat := 0x8000000000000000

/-- The digits of a natural number, without leading zeros. -/
def ofNat (n : Nat) : Text := Nat.toDigits 10 n

/-- An integer, with a minus sign if it is negative. -/
def ofInt : Int → Text
  | .ofNat n => ofNat n
  | .negSucc n => '-' :: ofNat (n + 1)

/-- Nothing but ASCII digits, and at least one? -/
def isDigits (t : Text) : Bool := !t.isEmpty && t.all Char.isDigit

/-- The number that some digits spell. -/
def value (digits : Text) : Nat := Nat.ofDigitChars 10 digits 0

/-- The number spelled by a text of digits. -/
def digits? (t : Text) : Option Nat := if isDigits t then some (value t) else none

/-- **A word**: digits after an optional plus sign, below 2^64. -/
def word? (t : Text) : Option Nat :=
  let digits := match t with
    | '+' :: r => r
    | _ => t
  (digits? digits).filter (· < wordBound)

/-- Does an integer fit into 64 bits with a sign? -/
def fits (n : Int) : Bool := -(signedWordBound : Int) ≤ n && n < signedWordBound

/-- **A signed word**: digits after an optional sign, in the range of 64-bit integers. -/
def signedWord? (t : Text) : Option Int :=
  let number := match t with
    | '-' :: r => (digits? r).map fun n => -(n : Int)
    | '+' :: r => (digits? r).map fun n => (n : Int)
    | _ => (digits? t).map fun n => (n : Int)
  number.filter fits

end SnippetLab.Decimal

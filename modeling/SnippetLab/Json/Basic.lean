import SnippetLab.Decimal.Numeral
import SnippetLab.Session.NameTable

/-!
# JSON values

Values as they are exchanged: numbers are kept apart as integers and doubles, and an object is a
list of members.  An object that has been read, or made with `Json.object`, has its members in the
order of their names and none twice.
-/

namespace SnippetLab

/-- A JSON value. -/
inductive Json where
  | null
  | bool (b : Bool)
  | int (n : Int)
  /-- A finite double, by its bits. -/
  | double (bits : UInt64)
  | str (t : Text)
  | arr (items : List Json)
  | obj (members : List (Text × Json))
  deriving Repr, Inhabited

namespace Json

/-- The object of some members; of two members of one name the later counts. -/
def object (members : List (Text × Json)) : Json := .obj (NameTable.ofRows members)

/-- A natural number. -/
def nat (n : Nat) : Json := .int n

/-- The value of a member, or null. -/
def ofOption {α : Type} (encode : α → Json) : Option α → Json
  | none => .null
  | some a => encode a

/-- A member of an object; nothing if the value is no object or has no such member. -/
def get? (j : Json) (name : Text) : Option Json :=
  match j with
  | .obj members => NameTable.get? members name
  | _ => none

/-- The text a string is. -/
def text? : Json → Option Text
  | .str t => some t
  | _ => none

/-- The word an integer is: not negative, and below 2^64. -/
def word? : Json → Option Nat
  | .int n => if 0 ≤ n ∧ n < Decimal.wordBound then some n.toNat else none
  | _ => none

end Json

end SnippetLab

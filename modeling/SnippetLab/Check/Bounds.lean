import SnippetLab.Decimal.Numeral
import SnippetLab.Session.NameTable
import SnippetLab.Source.Program

/-!
# Array accesses out of bounds

Line by line, the lengths of arrays are learnt from their definitions, and every access with a
number for an index is compared with the length known so far.  Nothing is run.

* `definition?` — the array a line gives a known length.
* `accesses` — the accesses of a stripped line.
-/

namespace SnippetLab.Check

open Source

/-- An access beyond the end of an array. -/
structure Overrun where
  array : Text
  index : Nat
  length : Nat
  line : Nat
  deriving Repr, DecidableEq

/-- The last piece of a text between blanks. -/
def lastPiece? (t : Text) : Option Text := t.pieces.getLast?

/-- The length in brackets after `new T`. -/
def allocatedLength? (afterNew : Text) : Option Nat :=
  match Text.cut "[" afterNew with
  | none => none
  | some (_, r) => (Text.cut "]" r).bind fun (size, _) => Decimal.word? (Text.trim size)

/-- The number of items of a list in the brackets of the language. -/
def listedLength? (language : Language) (value : Text) : Option Nat :=
  let (opening, closing) : Text × Text :=
    if language = .java then (['{'], ['}']) else (['['], [']'])
  match (value.dropStart? opening).bind (Text.dropEnd? · closing) with
  | none => none
  | some items =>
    some ((splitTopLevel ',' (Text.trim items)).filter fun item => !Text.isAllBlank item).length

/-- **The array a line defines, and its length.** -/
def definition? (language : Language) (line : Text) : Option (Text × Nat) :=
  let body := Text.trimEnd (line.trim.dropEndWhile (· == ';'))
  match splitAssignment body with
  | none => none
  | some (left, right) =>
    match lastPiece? left with
    | none => none
    | some declared =>
      let name := withoutBrackets declared
      let value := Text.trim right
      if isIdentifier name then
        match value.dropStart? "new " with
        | some afterNew => (allocatedLength? afterNew).map fun n => (name, n)
        | none => (listedLength? language value).map fun n => (name, n)
      else none

/-- The access that an opening bracket belongs to, if it is one to an index written as a number and
not the size of an allocation. -/
def accessAt? (bracket : Span) : Option (Text × Nat) :=
  let name := (bracket.before.takeWhile Text.isWordChar).reverse
  let earlier := (bracket.before.dropWhile Text.isWordChar).dropWhile Text.isBlank
  if !isIdentifier name || Text.startsWith earlier "wen" then none
  else
    match Text.cut "]" bracket.after with
    | none => none
    | some (index, _) =>
      ((Decimal.digits? (Text.trim index)).filter (· < Decimal.wordBound)).map fun n => (name, n)

/-- **The array accesses of a stripped line** whose index is written as a number. -/
def accesses (stripped : Text) : List (Text × Nat) :=
  (Text.occurrences "[" stripped).filterMap accessAt?

/-- The first access beyond the end of an array, in the order of the lines, when `lengths` are
known already. -/
def overrunFrom? (language : Language) (lengths : NameTable Nat) : List Row → Option Overrun
  | [] => none
  | row :: rest =>
    let found := (accesses row.stripped).findSome? fun (array, index) =>
      (lengths.get? array).bind fun length =>
        if length ≤ index then some ⟨array, index, length, row.number⟩ else none
    match found with
    | some overrun => some overrun
    | none =>
      let lengths' := match definition? language row.text with
        | some (name, length) => lengths.set name length
        | none => lengths
      overrunFrom? language lengths' rest

/-- **The first access of a program beyond the end of an array.** -/
def overrun? (p : Program) : Option Overrun := overrunFrom? p.language [] p.rows

end SnippetLab.Check

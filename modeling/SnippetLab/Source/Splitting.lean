import SnippetLab.Text.Classes

/-!
# Cutting a line where its structure allows

Three cuts that respect string literals: the pieces between separators at the top level, the two
sides of an assignment, and the operands of a chain of sums.  The first and the last read literals
with backslash escapes, one character at a time, through `Quoting`; an assignment only asks
whether the character before a quote is a backslash.
-/

namespace SnippetLab.Source

/-- Is the next character inside a string literal? -/
inductive Quoting where
  /-- Outside. -/
  | outside
  /-- Inside a literal opened by `quote`. -/
  | inside (quote : Char)
  /-- Inside one, just after a backslash. -/
  | escaped (quote : Char)
  deriving Repr, DecidableEq

/-- How a character moves in and out of literals. -/
def Quoting.next : Quoting → Char → Quoting
  | .escaped q, _ => .inside q
  | .inside q, c => if c = '\\' then .escaped q else if c = q then .outside else .inside q
  | .outside, c => if Text.isQuote c then .inside c else .outside

/-! ## Top-level pieces -/

/-- The three brackets that open a nested part. -/
def isOpening (c : Char) : Bool := c == '(' || c == '[' || c == '{'

/-- The three brackets that close one. -/
def isClosing (c : Char) : Bool := c == ')' || c == ']' || c == '}'

/-- What a character outside literals does to the nesting depth. -/
def nestingStep (c : Char) : Int :=
  if isOpening c then 1 else if isClosing c then -1 else 0

/-- Is `c` a separator where the scanner stands?  A quote or a bracket never is. -/
def separates (sep : Char) (quoting : Quoting) (depth : Int) (c : Char) : Bool :=
  quoting == .outside && depth == 0 && c == sep &&
    !(Text.isQuote c || isOpening c || isClosing c)

/-- The pieces of the rest of a text, from a state of the scanner on. -/
def splitFrom (sep : Char) (quoting : Quoting) (depth : Int) : Text → List Text
  | [] => [[]]
  | c :: r =>
    if separates sep quoting depth c then [] :: splitFrom sep .outside depth r
    else
      let depth' := if quoting = .outside then depth + nestingStep c else depth
      Text.consHead c (splitFrom sep (quoting.next c) depth' r)

/-- **The pieces of a text between separators that stand outside literals and brackets.** -/
def splitTopLevel (sep : Char) (t : Text) : List Text := splitFrom sep .outside 0 t

/-! ## Assignments -/

/-- Split at the assignment sign, after `prev`, inside the literal opened by `quote` if any. -/
def splitAssignmentFrom (quote prev : Option Char) : Text → Option (Text × Text)
  | [] => none
  | c :: r =>
    let onward (quote' : Option Char) :=
      (splitAssignmentFrom quote' (some c) r).map fun (left, right) => (c :: left, right)
    match quote with
    | some q => onward (if c = q ∧ prev ≠ some '\\' then none else some q)
    | none =>
      if Text.isQuote c then onward (some c)
      else if c = '=' then
        if r.head? = some '=' ∨ prev ∈ [some '=', some '!', some '<', some '>'] then none
        else some ([], r)
      else onward none

/-- **The two sides of an assignment**: what stands before and after the first `=` outside
literals, unless that sign belongs to a comparison. -/
def splitAssignment (t : Text) : Option (Text × Text) := splitAssignmentFrom none none t

end SnippetLab.Source

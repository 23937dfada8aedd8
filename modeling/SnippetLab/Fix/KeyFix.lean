import SnippetLab.Fix.NormalForm
import SnippetLab.Statement.Basic

/-!
# Fragments that make a fix

For each of six classic mistakes a detector cuts fragments out of the lines that only the reference
has; the learner's code must hold every one of them, blanks aside.

* `Detector.fragments` — the fragments of one line.
* `checkKeyFixes` — what the detectors say about a learner's core and the reference's.
-/

namespace SnippetLab.Fix

/-- The characters of a name with its path. -/
def isPathChar (c : Char) : Bool := Text.isWordChar c || c == '.'

/-! ## Parts of a line -/

/-- The text inside a parenthesis already open, up to the one that closes it. -/
def parenthesised? (depth : Nat) : Text → Option Text
  | [] => none
  | c :: r =>
    if c = '(' then (parenthesised? (depth + 1) r).map (c :: ·)
    else if c = ')' then
      match depth with
      | 0 => some []
      | d + 1 => (parenthesised? d r).map (c :: ·)
    else (parenthesised? depth r).map (c :: ·)

/-- A line without what may stand in front of a keyword: closing braces and spaces, then `else`. -/
def fromKeyword (line : Text) : Text :=
  let rest : Text := line.dropWhile fun c => c == '}' || c == ' '
  (rest.dropStart? "else ").getD rest

/-- What the parentheses after one of some keywords hold, for a line that begins with one. -/
def headerOf? (keywords : List Text) (line : Text) : Option Text :=
  let rest := fromKeyword line
  if keywords.contains (firstWord rest) then
    (Text.cut "(" rest).bind fun (_, inner) => parenthesised? 0 inner
  else none

/-- The condition of a branch or loop, in parentheses or between its keyword and a colon. -/
def branchCondition? (line : Text) : Option Text :=
  match headerOf? ["if", "while"] line with
  | some condition => some condition
  | none =>
    let keywords : List Text := ["if ", "elif ", "while "]
    match keywords.findSome? (line.dropStart? ·) with
    | none => none
    | some rest => (Text.dropEnd? rest ":").map Text.trim

/-! ## The detectors -/

/-- Calls of `equals`, with their receiver: `a.equals(` -/
def equalsCalls (line : Text) : List Text :=
  (Text.occurrences ".equals(" line).map fun call =>
    (call.before.takeWhile isPathChar).reverse ++ call.body

/-- The middle part of a `for` header, if it compares: `i < n` -/
def loopBounds (line : Text) : List Text :=
  match headerOf? ["for"] line with
  | none => []
  | some header =>
    match (Text.splitOn (· == ';') header)[1]? with
    | none => []
    | some bound =>
      if bound.contains '<' || bound.contains '>' then [Text.trim bound] else []

/-- Conditions joined by a logical operator. -/
def logicalConditions (line : Text) : List Text :=
  (branchCondition? line).toList.filter fun condition =>
    condition.has "&&" || condition.has "||" || condition.has " and " || condition.has " or "

/-- The ways to compare with nothing. -/
def nullTests : List Text :=
  ["!== null", "!= null", "=== null", "== null", "is not none", "is none"]

/-- The occurrences of the comparisons with nothing that do not begin inside one found before. -/
def nullTestsIn (line : Text) : List Span :=
  nullTests.foldl
    (fun found test =>
      (Text.occurrences test line).foldl
        (fun found here =>
          if found.any fun (other : Span) =>
              other.offset ≤ here.offset && here.offset < other.offset + other.body.length
          then found else found ++ [here])
        found)
    []

/-- Comparisons with nothing, with what is compared: `x != null`, `x is none` -/
def nullGuards (line : Text) : List Text :=
  (nullTestsIn line).map fun test =>
    let (blanks, rest) := test.before.span Text.isBlank
    let compared := rest.takeWhile isPathChar
    compared.reverse ++ blanks.reverse ++ test.body

/-- Steps up and down with the name they step, which may stand on either side. -/
def steps (line : Text) : List Text :=
  let signs : List Text := ["++", "--"]
  signs.flatMap fun sign =>
    (Text.occurrences sign line).filterMap fun step =>
      let before := (step.before.takeWhile Text.isWordChar).reverse
      let after := step.after.takeWhile Text.isWordChar
      if !before.isEmpty then some (before ++ sign)
      else if !after.isEmpty then some (sign ++ after)
      else none

/-- Conditions that compare with `==`. -/
def equalityConditions (line : Text) : List Text :=
  (branchCondition? line).toList.filter fun condition =>
    (Text.occurrences "==" condition).any fun sign =>
      !([some '!', some '=', some '<', some '>'].contains sign.before.head?)

/-- A kind of mistake and how its fix is recognised in a line. -/
structure Detector where
  category : Text
  fragments : Text → List Text

/-- **The detectors**, in the order of their say. -/
def detectors : List Detector :=
  [⟨"reference-vs-value equality", equalsCalls⟩,
    ⟨"loop bound off-by-one", loopBounds⟩,
    ⟨"wrong logical operator", logicalConditions⟩,
    ⟨"missing null guard", nullGuards⟩,
    ⟨"wrong increment direction", steps⟩,
    ⟨"assignment-vs-comparison", equalityConditions⟩]

/-! ## The verdict of the detectors -/

/-- What the detectors say. -/
inductive KeyFixOutcome where
  /-- None finds a fragment. -/
  | notApplicable
  /-- The learner's code holds every fragment; the category is that of the first detector that
  found one. -/
  | accepted (category : Text)
  /-- A fragment is missing. -/
  | rejected (category : Text)
  deriving Repr, DecidableEq

/-- The lines of the reference that the learner's code does not have. -/
def changedLines (userCore referenceCore : Text) : List Text :=
  referenceCore.lines.filter fun line => !userCore.lines.contains line

/-- The fragments a detector finds in some lines, without their blanks. -/
def Detector.found (d : Detector) (lines : List Text) : List Text :=
  ((lines.flatMap d.fragments).map Text.squeeze).filter fun fragment => !fragment.isEmpty

/-- What some detectors say about changed lines, given the learner's code without blanks and the
category accepted so far. -/
def checkWith (user : Text) (changed : List Text) (accepted : Option Text) :
    List Detector → KeyFixOutcome
  | [] => accepted.elim .notApplicable .accepted
  | d :: rest =>
    let fragments := d.found changed
    if fragments.isEmpty then checkWith user changed accepted rest
    else if fragments.any fun fragment => !user.has fragment then .rejected d.category
    else checkWith user changed (accepted <|> some d.category) rest

/-- **What the detectors say** about a learner's core and the reference's. -/
def checkKeyFixes (userCore referenceCore : Text) : KeyFixOutcome :=
  checkWith userCore.squeeze (changedLines userCore referenceCore) none detectors

end SnippetLab.Fix

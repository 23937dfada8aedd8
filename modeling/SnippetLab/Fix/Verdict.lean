import SnippetLab.Decimal.Numeral
import SnippetLab.Fix.EditDistance
import SnippetLab.Fix.KeyFix

/-!
# Is a learner's code the fix?

`compare` tries a cascade of comparisons with the reference, from exact to approximate, and the
first that decides gives the verdict.  `validate` knows the broken code too: code that is still the
broken code is refused at once, and **a match is withdrawn from code that is nearer to the broken
code than to the reference**.
-/

namespace SnippetLab.Fix

/-- What decided a verdict. -/
inductive Strategy where
  /-- The normal forms are equal. -/
  | exact
  /-- The cores are equal. -/
  | coreFix
  /-- One core holds the other. -/
  | containment
  /-- The detectors had their say. -/
  | keyFix (category : Text)
  /-- The texts are similar. -/
  | similarity
  /-- The code is still the broken code. -/
  | unchanged
  /-- The code is nearer to the broken code than to the reference. -/
  | closerToBroken
  /-- Nothing matched. -/
  | none
  deriving Repr, DecidableEq

/-- The name of a strategy. -/
def Strategy.name : Strategy → Text
  | .exact => "exact"
  | .coreFix => "core-fix"
  | .containment => "containment"
  | .keyFix category => "key-fix: " ++ category
  | .similarity => "similarity"
  | .unchanged => "unchanged"
  | .closerToBroken => "closer-to-broken"
  | .none => "none"

/-- Whether the code is the fix, why, and where it first differs if it is not. -/
structure Verdict where
  matched : Bool
  strategy : Strategy
  similarity : Float
  firstDifferingLine : Option Nat

/-- What the learner is told. -/
def Verdict.message (v : Verdict) : Text :=
  if v.matched then "Nice work – that's the fix!"
  else if v.strategy = .unchanged then "You need to fix the bug first!"
  else
    match v.firstDifferingLine with
    | some line =>
      "Not quite there yet – something around line " ++ Decimal.ofNat line ++
        " looks off. Double-check the condition or return value."
    | none => "Not quite there yet – double-check your code!"

/-- **The number of the first line that two lists of lines do not share.** -/
def firstDifference (number : Nat) : List Text → List Text → Option Nat
  | [], [] => none
  | a :: as, b :: bs => if a = b then firstDifference (number + 1) as bs else some number
  | _, _ => some number

/-- The first line in which the normal forms of two texts differ. -/
def firstDifferingLine (user reference : Text) : Option Nat :=
  firstDifference 1 (normalLines user) (normalLines reference)

/-- The verdict that a text is the fix. -/
def accept (strategy : Strategy) (score : Float) : Verdict := ⟨true, strategy, score, none⟩

/-- The verdict that a text is not the fix. -/
def reject (strategy : Strategy) (score : Float) (user reference : Text) : Verdict :=
  ⟨false, strategy, score, firstDifferingLine user reference⟩

/-- The similarity from which texts match. -/
def similarityThreshold : Float := 0.90

/-- The higher of two scores. -/
def higher (a b : Float) : Float := if a < b then b else a

/-- Does one core hold the other?  A core that is part of the reference's must not lack a fragment
that makes the fix. -/
def contained (userCore referenceCore : Text) (keyFix : KeyFixOutcome) : Bool :=
  !userCore.isEmpty && !referenceCore.isEmpty &&
    (userCore.has referenceCore ||
      (referenceCore.has userCore &&
        match keyFix with
        | .rejected _ => false
        | _ => true))

/-- **Compare a learner's code with the reference**: normal forms, cores, containment, fragments
that make the fix, similarity. -/
def compare (user reference : Text) : Verdict :=
  let userCore := core user
  let referenceCore := core reference
  if normalize user = normalize reference then accept .exact 1.0
  else if userCore = referenceCore then accept .coreFix 1.0
  else
    let score := higher (similarity (normalize user) (normalize reference))
      (similarity userCore referenceCore)
    let keyFix := checkKeyFixes userCore referenceCore
    if contained userCore referenceCore keyFix then accept .containment score
    else
      match keyFix with
      | .accepted category => accept (.keyFix category) score
      | .rejected category => reject (.keyFix category) score user reference
      | .notApplicable =>
        if similarityThreshold ≤ score then accept .similarity score
        else reject .none score user reference

/-- A learner's code, the reference, and the code before any fix if it is known. -/
structure Request where
  userCode : Text
  referenceCode : Text
  brokenCode : Option Text
  deriving Repr, DecidableEq

/-- **The verdict on a request.** -/
def validate (request : Request) : Verdict :=
  let user := request.userCode
  let reference := request.referenceCode
  match request.brokenCode with
  | none => compare user reference
  | some broken =>
    let toFixed := similarity (normalize user) (normalize reference)
    if normalize user = normalize broken then reject .unchanged toFixed user reference
    else
      let verdict := compare user reference
      if verdict.matched && toFixed < similarity (normalize user) (normalize broken) then
        reject .closerToBroken toFixed user reference
      else verdict

end SnippetLab.Fix

import SnippetLab.Check.Bounds
import SnippetLab.Check.Loops
import SnippetLab.Settings

/-!
# Advice about a program that has run

The two checks that look for likely mistakes without running anything.  Settings say which of them
are made; **an access out of bounds goes before a loop without a way out**.
-/

namespace SnippetLab.Check

/-- What the checks have found. -/
inductive Advice where
  | outOfBounds (overrun : Overrun)
  | endlessLoop (line : Nat)
  deriving Repr, DecidableEq

/-- What the bounds check finds. -/
def boundsAdvice? (p : Program) : Option Advice := (overrun? p).map .outOfBounds

/-- What the loop check finds. -/
def loopAdvice? (p : Program) : Option Advice := (endlessLoop? p).map .endlessLoop

/-- **The first finding of the checks that are made.** -/
def advice? (bounds loops : Bool) (p : Program) : Option Advice :=
  (if bounds then boundsAdvice? p else none) <|> (if loops then loopAdvice? p else none)

end SnippetLab.Check

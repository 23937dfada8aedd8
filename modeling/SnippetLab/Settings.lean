/-!
# Settings

The limits of a run and the advisory checks that follow it.
-/

namespace SnippetLab

/-- How runs are limited and checked. -/
structure Settings where
  /-- How long a run may take, in milliseconds. -/
  timeoutMs : Nat
  /-- How many characters of output are kept. -/
  maxOutputChars : Nat
  /-- How many executed statements the history remembers. -/
  historyLimit : Nat
  /-- Look for array accesses out of bounds? -/
  checkBounds : Bool
  /-- Look for loops without a way out? -/
  checkInfiniteLoops : Bool
  deriving Repr, DecidableEq

/-- The settings in force unless others are given. -/
def Settings.standard : Settings :=
  { timeoutMs := 5000, maxOutputChars := 10000, historyLimit := 1000
    checkBounds := true, checkInfiniteLoops := true }

instance : Inhabited Settings := ⟨.standard⟩

end SnippetLab

import SnippetLab.Source.Lexing

/-!
# The normal form of a text of code

Two texts that differ only in comments, blanks, blank lines and letter case have the same normal
form.  The *core* of a text is what its normal form keeps when the scaffolding around a fix goes:
imports, headers of classes and methods, and lines with nothing but closing brackets.
-/

namespace SnippetLab.Fix

open Source

/-- A line with single spaces between its pieces and none around them. -/
def collapse (line : Text) : Text := Text.join " " line.pieces

/-- **The lines of the normal form**: without comments, with single spaces, in lower case, and none
of them empty. -/
def normalLines (code : Text) : List Text :=
  (((uncommentLines code.lines).map collapse).filter fun line => !line.isEmpty).map Text.lower

/-- **The normal form of a text.** -/
def normalize (code : Text) : Text := Text.join "\n" (normalLines code)

/-! ## Scaffolding -/

/-- The word a line begins with, up to a space or an opening parenthesis. -/
def firstWord (line : Text) : Text := line.takeWhile fun c => !(c == ' ' || c == '(')

/-- Words that begin a statement that holds a block, and never the header of a method. -/
def controlWords : List Text :=
  ["if", "else", "for", "while", "do", "switch", "catch", "try", "synchronized", "elif", "with",
    "finally", "return"]

/-- Words that begin a line about other files. -/
def importWords : List Text := ["import", "package", "using", "from"]

/-- Nothing but closing brackets, semicolons and spaces? -/
def isClosingOnly (line : Text) : Bool :=
  line.all fun c => c == '}' || c == ')' || c == ';' || c == ' '

/-- The header of a method: two words or more before its parameters, and a brace after them. -/
def isMethodHeader (line : Text) : Bool :=
  if controlWords.contains (firstWord line) || line.contains '=' then false
  else
    match line.dropEnd? "\x7b" with
    | none => false
    | some header =>
      match Text.cut "(" (Text.trimEnd header) with
      | none => false
      | some (before, _) =>
        (Text.trimEnd header).endsWith ")" && 2 ≤ (Text.pieces before).length

/-- The header of a Python function. -/
def isPythonHeader (line : Text) : Bool := line.startsWith "def " && line.endsWith ":"

/-- The header of a class. -/
def isClassHeader (line : Text) : Bool :=
  (line.startsWith "class " || line.has " class ") && !line.contains '='

/-- The header of a script's function. -/
def isFunctionHeader (line : Text) : Bool :=
  line.startsWith "function " && line.endsWith "\x7b"

/-- Does a line of a normal form belong to the scaffolding around a fix? -/
def isScaffolding (line : Text) : Bool :=
  isClosingOnly line || importWords.contains (firstWord line) || isPythonHeader line ||
    isClassHeader line || isFunctionHeader line || isMethodHeader line

/-- The lines of the core. -/
def coreLines (code : Text) : List Text := (normalLines code).filter fun line => !isScaffolding line

/-- **The core of a text**: its normal form without scaffolding. -/
def core (code : Text) : Text := Text.join "\n" (coreLines code)

end SnippetLab.Fix

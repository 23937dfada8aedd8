import SnippetLab.Text.LowerCase

/-!
# The languages a snippet may be written in

A language decides which comments a line may hold, which declarations it knows, whether a
statement has to be terminated, which calls read the program's input, and whether a run is
interpreted in place or handed to a script engine.
-/

namespace SnippetLab

/-- A snippet's language. -/
inductive Language where
  | java
  | python
  | javaScript
  deriving Repr, DecidableEq

namespace Language

/-- The language a tag names, without regard to case and surrounding blanks.  **A tag that names no
language means Java.** -/
def ofTag (tag : Text) : Language :=
  let name := tag.trim.lower
  if name.isOneOf ["javascript", "js"] then .javaScript
  else if name.isOneOf ["python", "py"] then .python
  else .java

/-- The name a language is written with. -/
def tag : Language → Text
  | .java => "java"
  | .python => "python"
  | .javaScript => "javascript"

/-- Are whole runs handed to the script engine? -/
def isScripted : Language → Bool
  | .javaScript => true
  | .java | .python => false

/-- Do braces delimit blocks?  Otherwise indentation does. -/
def usesBraces : Language → Bool
  | .python => false
  | .java | .javaScript => true

/-- Does a statement need its semicolon? -/
def needsSemicolon : Language → Bool
  | .java => true
  | .python | .javaScript => false

/-- The calls that read a line of the program's input. -/
def inputCalls : Language → List Text
  | .java => ["scanner.nextLine()", "scanner.nextInt()", "scanner.next()"]
  | .python => ["input()"]
  | .javaScript => ["prompt()"]

end Language

end SnippetLab

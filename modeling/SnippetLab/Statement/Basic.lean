import SnippetLab.Language

/-!
# Statements

The shapes a line of a snippet can have, the names they use, and the types they declare.
-/

namespace SnippetLab

/-- Plus or minus: the operator of a compound assignment, the direction of a step, the sign in
front of a summand. -/
inductive Sign where
  | plus
  | minus
  deriving Repr, DecidableEq

namespace Sign

/-- The character a sign is written with. -/
def char : Sign → Char
  | .plus => '+'
  | .minus => '-'

/-- The sign a character stands for. -/
def ofChar? (c : Char) : Option Sign :=
  if c = '+' then some .plus else if c = '-' then some .minus else none

/-- One step in a direction. -/
def unit : Sign → Int
  | .plus => 1
  | .minus => -1

end Sign

/-- What a line says. -/
inductive Statement where
  /-- Nothing. -/
  | blank
  /-- Only a comment. -/
  | comment
  /-- `int x = e;` -/
  | declare (typeTag name init : Text)
  /-- `int x;`, which binds the type's default value. -/
  | declareDefault (typeTag name : Text)
  /-- `x = e;`, or `x += e;` and `x -= e;` with the sign. -/
  | assign (name : Text) (op : Option Sign) (expr : Text)
  /-- `x++`, `++x`, `x--`, `--x` -/
  | step (name : Text) (direction : Sign)
  /-- A call that prints its arguments. -/
  | print (args : List Text) (newline : Bool)
  /-- Leaving a method. -/
  | leave
  /-- A call of a method, by the last part of its name. -/
  | call (method : Text)
  /-- Anything else. -/
  | unrecognized
  deriving Repr, DecidableEq

/-- Statements that a run passes over: blank lines and comments. -/
def Statement.isIdle : Statement → Bool
  | .blank | .comment => true
  | _ => false

/-! ## Names and types -/

/-- Names begin with a letter, an underscore or a dollar sign and go on with word characters. -/
def isIdentifier : Text → Bool
  | [] => false
  | c :: r => (Text.isLetter c || c == '_' || c == '$') && r.all Text.isWordChar

/-- The words that cannot name a variable or a method. -/
def keywords : List Text :=
  ["if", "else", "for", "while", "do", "switch", "case", "catch", "try", "return", "new",
    "synchronized", "function", "def", "class", "elif"]

/-- Is a word reserved? -/
def isKeyword (word : Text) : Bool := keywords.contains word

/-- The types a Java declaration may begin with. -/
def javaTypes : List Text :=
  ["int", "long", "short", "byte", "double", "float", "boolean", "char", "String", "Integer",
    "Long", "Double", "Float", "Boolean", "Character"]

/-- The words a JavaScript declaration begins with. -/
def scriptDeclarators : List Text := ["let", "const", "var"]

/-- The words that may stand in front of a declaration's type. -/
def modifiers : List Text := ["final", "static"]

/-- A type without the array brackets after it, read from the back. -/
def withoutBracketsBack : Text → Text
  | ']' :: '[' :: r => withoutBracketsBack r
  | t => t

/-- A type without the array brackets after it. -/
def withoutBrackets (t : Text) : Text := (withoutBracketsBack t.reverse).reverse

/-- Does a word begin a declaration of the language? -/
def isTypeTag (language : Language) (word : Text) : Bool :=
  match language with
  | .java => javaTypes.contains (withoutBrackets word)
  | .javaScript => scriptDeclarators.contains word
  | .python => false

/-- **The value of a variable declared without one**, by its type. -/
def defaultValue (typeTag : Text) : Text :=
  if typeTag.endsWith "[]" then "null"
  else if typeTag.isOneOf ["int", "long", "short", "byte", "Integer", "Long"] then "0"
  else if typeTag.isOneOf ["double", "float", "Double", "Float"] then "0.0"
  else if typeTag.isOneOf ["boolean", "Boolean"] then "false"
  else if typeTag.isOneOf ["char", "Character"] then "''"
  else if typeTag.isOneOf scriptDeclarators then "undefined"
  else "null"

end SnippetLab

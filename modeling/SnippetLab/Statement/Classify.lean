import SnippetLab.Source.Lexing
import SnippetLab.Source.Splitting
import SnippetLab.Statement.Basic

/-!
# What a line says

`classify` tries the shapes of a statement in a fixed order and takes the first that fits: comment,
declaration, assignment, step, print, return, call.  Every shape but the first looks at the *body*
of the line, its text without the terminator.
-/

namespace SnippetLab.Statement

open Source

/-- The line without surrounding blanks and without its semicolon; nothing if the language demands
one and the line has none. -/
def body? (language : Language) (line : Text) : Option Text :=
  let trimmed := line.trim
  match trimmed.dropEnd? ";" with
  | some body => some body.trimEnd
  | none => if language.needsSemicolon then none else some trimmed

/-! ## The shapes -/

/-- A blank line, or one that begins as a comment does. -/
def idle? (language : Language) (line : Text) : Option Statement :=
  let trimmed := line.trim
  let marks : List Text := if language.usesBraces then ["//", "/*", "*"] else ["#"]
  if trimmed.isEmpty then some .blank
  else if marks.any (trimmed.startsWith ·) then some .comment
  else none

/-- What follows the modifier a declaration begins with. -/
def afterModifier? (body : Text) : Option Text :=
  match body.splitFirst Text.isBlank with
  | some (first, rest) => if modifiers.contains first then some rest.trimStart else none
  | none => none

/-- A declaration without the modifiers in front of it; `fuel` bounds their number. -/
def withoutModifiers : Nat → Text → Text
  | 0, body => body
  | fuel + 1, body =>
    match afterModifier? body with
    | some rest => withoutModifiers fuel rest
    | none => body

/-- A declaration from its type on: a type, then a name, with or without a value. -/
def typed? (language : Language) (body : Text) : Option Statement :=
  match body.splitFirst Text.isBlank with
  | none => none
  | some (typeTag, rest) =>
    if isTypeTag language typeTag then
      match splitAssignment rest.trim with
      | some (name, init) =>
        if isIdentifier name.trim then some (.declare typeTag name.trim init.trim) else none
      | none =>
        if isIdentifier rest.trim then some (.declareDefault typeTag rest.trim) else none
    else none

/-- A declaration, with any number of modifiers in front. -/
def declaration? (language : Language) (body : Text) : Option Statement :=
  typed? language (withoutModifiers body.length body)

/-- The left side of an assignment without the operator it ends with, and that operator.  An
operator other than a sign makes it no assignment. -/
def target? (left : Text) : Option (Text × Option Sign) :=
  match left.trimEnd.getLast? with
  | none => some ([], none)
  | some c =>
    match Sign.ofChar? c with
    | some sign => some (Text.trimEnd left.trimEnd.dropLast, some sign)
    | none => if c ∈ ['*', '/', '%', '&', '|', '^'] then none else some (left.trimEnd, none)

/-- An assignment to a name. -/
def assignment? (body : Text) : Option Statement :=
  match splitAssignment body with
  | none => none
  | some (left, right) =>
    match target? left with
    | none => none
    | some (target, op) =>
      if isIdentifier target.trim && !isKeyword target.trim then
        some (.assign target.trim op right.trim)
      else none

/-- The doubled sign at either end of a step, and the name at the other. -/
def stepParts? (body : Text) : Option (Text × Sign) :=
  match body.dropEnd? "++", body.dropEnd? "--", body.dropStart? "++", body.dropStart? "--" with
  | some name, _, _, _ => some (name, .plus)
  | none, some name, _, _ => some (name, .minus)
  | none, none, some name, _ => some (name, .plus)
  | none, none, none, some name => some (name, .minus)
  | none, none, none, none => none

/-- One step up or down. -/
def step? (body : Text) : Option Statement :=
  match stepParts? body with
  | some (name, direction) =>
    if isIdentifier name.trim then some (.step name.trim direction) else none
  | none => none

/-- How the print calls of a language begin, and whether they end the line. -/
def printCalls : Language → List (Text × Bool)
  | .java => [("System.out.println(", true), ("System.out.print(", false)]
  | .python => [("print(", true)]
  | .javaScript => [("console.log(", true)]

/-- The arguments of a print call.  Java prints one expression. -/
def printArgs (language : Language) (inner : Text) : List Text :=
  if inner.isEmpty then []
  else if language = .java then [inner]
  else (splitTopLevel ',' inner).map Text.trim

/-- A call that prints.  The first print call the body begins with decides. -/
def print? (language : Language) (body : Text) : Option Statement :=
  let begun : Option (Text × Bool) := (printCalls language).findSome? fun (opening, newline) =>
    (body.dropStart? opening).map fun rest => (rest, newline)
  match begun with
  | none => none
  | some (rest, newline) =>
    match Text.dropEnd? rest ")" with
    | none => none
    | some inner =>
      if parenBalance language inner = 0 then
        some (.print (printArgs language inner.trim) newline)
      else none

/-- Leaving a method, with or without a value. -/
def leave? (body : Text) : Option Statement :=
  let openings : List Text := ["return ", "return(", "return\""]
  if body == "return" || openings.any (body.startsWith ·) then some .leave else none

/-- A call of a method that is neither a keyword nor the system's own. -/
def call? (language : Language) (body : Text) : Option Statement :=
  if body.endsWith ")" && parenBalance language body == 0 then
    match body.splitFirst (· == '(') with
    | none => none
    | some (before, _) =>
      let head := Text.trim before
      if head.startsWith "System." || head.startsWith "console." then none
      else
        let path := (Text.splitOn (· == '.') head).map Text.trim
        match path.head?, path.getLast? with
        | some first, some method =>
          if path.all isIdentifier && !isKeyword first then some (.call method) else none
        | _, _ => none
  else none

end SnippetLab.Statement

namespace SnippetLab

open Statement in
/-- **The statement a line is**: the first shape that fits it. -/
def classify (language : Language) (line : Text) : Statement :=
  let shaped := match body? language line with
    | none => none
    | some body =>
      declaration? language body <|> assignment? body <|> step? body <|> print? language body <|>
        leave? body <|> call? language body
  (idle? language line <|> shaped).getD .unrecognized

end SnippetLab

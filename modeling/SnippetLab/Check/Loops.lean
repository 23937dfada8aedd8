import SnippetLab.Source.Program

/-!
# Loops without a way out

A loop is flagged if nothing in its body leaves it and either it has no condition or nothing in its
body touches a variable of the condition.  Only the stripped lines of the program are read.

* `LoopHead.ofLine?` — the loop a line begins.
* `bracedBody`, `indentedBody` — the text of its body.
* `isMutated` — does a text change a binding?
-/

namespace SnippetLab.Check

open Source

/-- The text up to the bracket that closes one already open, and the text after it; `depth` more
are open. -/
def upToClosing (opening closing : Char) (depth : Nat) : Text → Option (Text × Text)
  | [] => none
  | c :: r =>
    let onward (depth' : Nat) :=
      (upToClosing opening closing depth' r).map fun (inner, rest) => (c :: inner, rest)
    if c = opening then onward (depth + 1)
    else if c = closing then
      match depth with
      | 0 => some ([], r)
      | d + 1 => onward d
    else onward depth

/-! ## The beginning of a loop -/

/-- A loop's condition, and what follows its header on the line. -/
structure LoopHead where
  /-- Nothing for a loop that goes on forever. -/
  condition : Option Text
  after : Text
  deriving Repr, DecidableEq

/-- The two kinds of loop in a language with braces. -/
inductive LoopKeyword where
  | whileLoop
  | forLoop
  deriving Repr, DecidableEq

/-- The keyword a line begins with, and the text after it. -/
def LoopKeyword.ofLine? (line : Text) : Option (LoopKeyword × Text) :=
  match line.dropStart? "while", line.dropStart? "for" with
  | some r, _ => some (.whileLoop, r)
  | none, some r => some (.forLoop, r)
  | none, none => none

/-- The condition that stands in the parentheses of a loop's header: nothing inside if the loop
goes on forever, and nothing at all if it is a loop that ends by itself. -/
def conditionOf (keyword : LoopKeyword) (inner : Text) : Option (Option Text) :=
  match keyword with
  | .forLoop => if inner.squeeze == ";;" then some none else none
  | .whileLoop =>
    if inner.squeeze.isOneOf ["true", "1"] then some none else some (some inner.trim)

/-- The loop a line begins in a language with braces.  A conditional loop with a semicolon after
its header has no body: it ends a `do`. -/
def LoopHead.ofBracedLine? (line : Text) : Option LoopHead :=
  match LoopKeyword.ofLine? line with
  | none => none
  | some (keyword, rest) =>
    match rest.trimStart with
    | '(' :: r =>
      match upToClosing '(' ')' 0 r with
      | none => none
      | some (inner, after) =>
        match conditionOf keyword inner with
        | none => none
        | some condition =>
          if (Text.trimStart after).startsWith ";" && condition.isSome then none
          else some ⟨condition, after⟩
    | _ => none

/-- The loop a line begins in Python. -/
def LoopHead.ofPythonLine? (line : Text) : Option LoopHead :=
  match (line.dropStart? "while ").bind (Text.dropEnd? · ":") with
  | none => none
  | some inner =>
    let condition := Text.trim inner
    some ⟨if condition.isOneOf ["True", "1"] then none else some condition, []⟩

/-- **The loop a stripped line begins**, if it begins one. -/
def LoopHead.ofLine? (language : Language) (stripped : Text) : Option LoopHead :=
  if language = .python then LoopHead.ofPythonLine? stripped.trim
  else LoopHead.ofBracedLine? stripped.trim

/-! ## Its body -/

/-- The text after a header: the rest of its line, and the lines that follow. -/
def textAfter (head : LoopHead) (rest : List Row) : Text :=
  head.after ++ rest.flatMap fun row => '\n' :: row.stripped

/-- **The body that follows a header in a language with braces**: what stands between its braces,
or one statement without them. -/
def bracedBody (head : LoopHead) (rest : List Row) : Text :=
  match Text.trimStart (textAfter head rest) with
  | '{' :: block =>
    match upToClosing '{' '}' 0 block with
    | some (inner, _) => inner
    | none => block
  | t => t.takeWhile (· != ';')

/-- **The body of a header at depth `depth` in Python**: the lines indented deeper, up to the first
that is not; blank lines do not count. -/
def indentedBody (depth : Nat) (rest : List Row) : Text :=
  let lines := rest.filter fun row => !row.stripped.isAllBlank
  (lines.takeWhile fun row => depth < row.depth).flatMap fun row => row.stripped ++ "\n"

/-! ## Words in conditions and bodies -/

/-- Words that name no variable although they look like one. -/
def constantWords : List Text :=
  ["true", "false", "null", "True", "False", "None", "and", "or", "not"]

/-- The variables a condition names; what follows a point is a part of something. -/
def conditionVariables (condition : Text) : List Text :=
  (condition.words.filter fun word =>
    word.before.head? != some '.' && isIdentifier word.body && !isKeyword word.body &&
      !constantWords.contains word.body).map Span.body

/-- Does a condition call anything? -/
def hasCall (condition : Text) : Bool :=
  condition.words.any fun word =>
    isIdentifier word.body && word.after.trimStart.startsWith "("

/-- The operators after a variable that change it. -/
def compoundOperators : List Text := ["+=", "-=", "*=", "/=", "%="]

/-- Does the text around a word change the variable it names?  A word followed by a point may call
a method that does. -/
def changesHere (word : Span) : Bool :=
  let before : Text := word.before.dropWhile Text.isBlank
  let after := word.after.trimStart
  before.startsWith "++" || before.startsWith "--" ||
    after.startsWith "++" || after.startsWith "--" || after.startsWith "." ||
    compoundOperators.any (after.startsWith ·) ||
    (after.startsWith "=" && !after.startsWith "==")

/-- **Does a text change a binding?** -/
def isMutated (body name : Text) : Bool :=
  body.words.any fun word => word.body == name && changesHere word

/-! ## Flags -/

/-- Does a loop with this head and body never end? -/
def isStuck (head : LoopHead) (body : Text) : Bool :=
  if body.mentions "break" || body.mentions "return" then false
  else
    match head.condition with
    | none => true
    | some condition =>
      let named := conditionVariables condition
      !named.isEmpty && !hasCall condition && !named.any (isMutated body)

/-- Does a row, followed by others, begin a loop that never ends? -/
def beginsEndlessLoop (language : Language) (row : Row) (rest : List Row) : Bool :=
  match LoopHead.ofLine? language row.stripped with
  | none => false
  | some head =>
    isStuck head (if language.usesBraces then bracedBody head rest else indentedBody row.depth rest)

/-- The first line that begins a loop without a way out. -/
def endlessLoopFrom? (language : Language) : List Row → Option Nat
  | [] => none
  | row :: rest =>
    if beginsEndlessLoop language row rest then some row.number else endlessLoopFrom? language rest

/-- **The first line of a program that begins a loop without a way out.** -/
def endlessLoop? (p : Program) : Option Nat := endlessLoopFrom? p.language p.rows

end SnippetLab.Check

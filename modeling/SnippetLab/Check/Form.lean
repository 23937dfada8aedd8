import SnippetLab.Source.Lexing

/-!
# Is a snippet well formed?

The check a snippet has to pass before any of its lines is run.  In a language with braces they
must pair up, and there must be as many closing parentheses as opening ones; in Python a line that
ends with a colon must be followed by one indented deeper.  Literals and comments do not count.
-/

namespace SnippetLab.Check

open Source

/-- What is wrong with a snippet's form. -/
inductive FormError where
  /-- Nothing but blanks. -/
  | empty
  /-- A closing brace with none open. -/
  | unexpectedBrace
  /-- Braces that do not pair up: one more of these is needed. -/
  | missingBrace (brace : Char)
  /-- As many parentheses are not opened as closed. -/
  | unbalancedParens
  /-- The line that opens a block has none after it. -/
  | missingBlock (line : Nat)
  deriving Repr, DecidableEq

/-- The wording of an error of form. -/
def FormError.message : FormError → Text
  | .empty => "Code is empty"
  | .unexpectedBrace => "Syntax error: Unexpected '\x7d'"
  | .missingBrace brace => "Syntax error: Unbalanced braces. Missing " ++ [brace]
  | .unbalancedParens => "Syntax error: Unbalanced parentheses"
  | .missingBlock line =>
    "IndentationError: expected an indented block after line " ++ Nat.toDigits 10 line

/-- How many braces are open after a text, if `opened` are before it; nothing if it closes one that
is not open. -/
def openBraces (opened : Int) : Text → Option Int
  | [] => some opened
  | c :: r =>
    if c = '{' then openBraces (opened + 1) r
    else if c = '}' then if opened - 1 < 0 then none else openBraces (opened - 1) r
    else openBraces opened r

/-- What is wrong with the braces and parentheses of some stripped lines. -/
def pairingError? (stripped : List Text) : Option FormError :=
  match openBraces 0 stripped.flatten with
  | none => some .unexpectedBrace
  | some opened =>
    if opened ≠ 0 then some (.missingBrace (if opened > 0 then '}' else '{'))
    else if balance '(' ')' stripped.flatten ≠ 0 then some .unbalancedParens
    else none

/-- The first line that opens a block and is not followed by a deeper one.  Lines are given with
their stripped texts, from `number` on; `opener` is the number and the indentation of the latest
line that is not blank, if it opens a block. -/
def missingBlock? (opener : Option (Nat × Nat)) (number : Nat) : List (Text × Text) → Option Nat
  | [] => opener.map (·.1)
  | (line, stripped) :: rest =>
    if stripped.isAllBlank then missingBlock? opener (number + 1) rest
    else
      let here := if stripped.trimEnd.endsWith ":" then some (number, indentation line) else none
      match opener with
      | none => missingBlock? here (number + 1) rest
      | some (opening, width) =>
        if indentation line ≤ width then some opening else missingBlock? here (number + 1) rest

/-- **What is wrong with a snippet's form**, if anything. -/
def formError? (language : Language) (code : Text) : Option FormError :=
  let lines := code.lines
  let stripped := stripLines language lines
  if code.isAllBlank then some .empty
  else if language.usesBraces then pairingError? stripped
  else (missingBlock? none 1 (lines.zip stripped)).map .missingBlock

end SnippetLab.Check

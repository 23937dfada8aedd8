import SnippetLab.Source.Lexing
import SnippetLab.Statement.Classify

/-!
# Programs

A snippet made ready to run: for every line its number, its text, the statement it is, the text
without literals and comments, and the depth of its block.

* `braceDepths` — the braces open at the beginning of each line, as a 16-bit count.
* `indentDepths` — the indentation of each line, blank ones taking that of the line before.
-/

namespace SnippetLab

/-- One line of a program. -/
structure Row where
  /-- Counted from one. -/
  number : Nat
  text : Text
  /-- The text without literal contents and comments. -/
  stripped : Text
  /-- Nesting at the beginning of the line. -/
  depth : Nat
  statement : Statement
  deriving Repr, DecidableEq

/-- A snippet, line by line. -/
structure Program where
  language : Language
  rows : List Row
  deriving Repr, DecidableEq

namespace Program

open Source

/-- Depths are counted in 16 bits: they stay below 2^16. -/
def depthBound : Nat := 65536

/-- The open braces at the beginning of each line; lines are stripped, and `opened` braces more
have been opened than closed before.  The count **wraps around** at the depth bound. -/
def braceDepths (opened : Int) : List Text → List Nat
  | [] => []
  | line :: rest =>
    opened.toNat % depthBound :: braceDepths (opened + balance '{' '}' line) rest

/-- The indentation of each line, given with its stripped text; `last` is that of the latest line
that is not blank.  Indentation beyond the depth bound counts as the largest depth. -/
def indentDepths (last : Nat) : List (Text × Text) → List Nat
  | [] => []
  | (line, stripped) :: rest =>
    let depth := if stripped.isAllBlank then last else min (indentation line) (depthBound - 1)
    depth :: indentDepths depth rest

/-- The depth of every line, given with its stripped text. -/
def depths (language : Language) (lines : List (Text × Text)) : List Nat :=
  if language.usesBraces then braceDepths 0 (lines.map (·.2)) else indentDepths 0 lines

/-- Rows from their parts, numbered from `number` on. -/
def rowsFrom (language : Language) (number : Nat) : List ((Text × Text) × Nat) → List Row
  | [] => []
  | ((text, stripped), depth) :: rest =>
    { number, text, stripped, depth, statement := classify language text } ::
      rowsFrom language (number + 1) rest

/-- **The program of a snippet.** -/
def ofCode (language : Language) (code : Text) : Program :=
  let texts := code.lines
  let lines := texts.zip (stripLines language texts)
  { language, rows := rowsFrom language 1 (lines.zip (depths language lines)) }

/-- How many lines there are. -/
def length (p : Program) : Nat := p.rows.length

end Program

end SnippetLab

import SnippetLab.Language

/-!
# Code, literals and comments

One scanner tells the characters of a line apart: code, the quotes of string literals, what stands
between them, and comments.  A literal never reaches over the end of its line; a block comment may,
so the scanner of a line is told whether one is open and says whether one is left open.

* `lexemes` — the characters of a line by their kind.
* `strip` — the line without literal contents and comments, which is what every structural
  analysis reads.
* `uncomment` — the line without comments but with its literals, for comparing texts.
-/

namespace SnippetLab.Source

/-- Which comments a text may hold. -/
structure CommentStyle where
  /-- A hash sign begins a comment that ends with the line. -/
  hash : Bool
  /-- Two slashes begin a comment that ends with the line; a slash and a star one that ends with a
  star and a slash. -/
  slashes : Bool
  deriving Repr, DecidableEq

/-- The comments of a language. -/
def CommentStyle.of (language : Language) : CommentStyle :=
  ⟨!language.usesBraces, language.usesBraces⟩

/-- Where the scanner stands between two characters. -/
inductive Position where
  /-- In code. -/
  | code
  /-- In a block comment. -/
  | comment
  /-- In a literal opened by `quote`. -/
  | literal (quote : Char)
  /-- In a literal opened by `quote`, just after a backslash. -/
  | escaped (quote : Char)
  deriving Repr, DecidableEq

/-- What the scanner makes of a line, character by character.  Comments leave nothing behind, a
closed block comment excepted. -/
inductive Lexeme where
  /-- A character of code. -/
  | code (c : Char)
  /-- A quote that opens or closes a literal. -/
  | quote (c : Char)
  /-- A character inside a literal, backslashes included. -/
  | content (c : Char)
  /-- The end of a block comment. -/
  | gap
  deriving Repr, DecidableEq

/-- Put a lexeme in front of a scanned rest. -/
def emit (l : Lexeme) (rest : List Lexeme × Bool) : List Lexeme × Bool := (l :: rest.1, rest.2)

/-- **Scan a line** from a position on: its lexemes, and whether a block comment is open at its
end. -/
def scan (style : CommentStyle) : Position → Text → List Lexeme × Bool
  | .comment, [] => ([], true)
  | .code, [] | .literal _, [] | .escaped _, [] => ([], false)
  | .comment, '*' :: '/' :: r => emit .gap (scan style .code r)
  | .comment, _ :: r => scan style .comment r
  | .escaped q, c :: r => emit (.content c) (scan style (.literal q) r)
  | .literal q, c :: r =>
    if c = '\\' then emit (.content c) (scan style (.escaped q) r)
    else if c = q then emit (.quote c) (scan style .code r)
    else emit (.content c) (scan style (.literal q) r)
  | .code, '/' :: '/' :: r =>
    if style.slashes then ([], false)
    else emit (.code '/') (emit (.code '/') (scan style .code r))
  | .code, '/' :: '*' :: r =>
    if style.slashes then scan style .comment r
    else emit (.code '/') (emit (.code '*') (scan style .code r))
  | .code, c :: r =>
    if Text.isQuote c then emit (.quote c) (scan style (.literal c) r)
    else if style.hash && c == '#' then ([], false)
    else emit (.code c) (scan style .code r)

/-- Scan a line that begins inside a block comment or outside. -/
def lexemes (style : CommentStyle) (inComment : Bool) (line : Text) : List Lexeme × Bool :=
  scan style (if inComment then .comment else .code) line

/-- What is left of a lexeme when literals are emptied: a closed comment leaves a space, so the
code around it stays apart. -/
def Lexeme.outline : Lexeme → Option Char
  | .code c | .quote c => some c
  | .content _ => none
  | .gap => some ' '

/-- What is left of a lexeme when only comments go. -/
def Lexeme.text : Lexeme → Option Char
  | .code c | .quote c | .content c => some c
  | .gap => some ' '

/-- **A line without literal contents and comments**; the quotes stay. -/
def strip (language : Language) (line : Text) : Text :=
  (lexemes (.of language) false line).1.filterMap Lexeme.outline

/-- Keep a part of every lexeme of some lines, where block comments may span lines. -/
def scanLines (style : CommentStyle) (keep : Lexeme → Option Char) (inComment : Bool) :
    List Text → List Text
  | [] => []
  | line :: rest =>
    let scanned := lexemes style inComment line
    scanned.1.filterMap keep :: scanLines style keep scanned.2 rest

/-- **All lines without literal contents and comments.** -/
def stripLines (language : Language) (lines : List Text) : List Text :=
  scanLines (.of language) Lexeme.outline false lines

/-- All lines without comments, of either kind; literals keep their contents. -/
def uncommentLines (lines : List Text) : List Text :=
  scanLines ⟨true, true⟩ Lexeme.text false lines

/-! ## Nesting -/

/-- How many more characters open than close. -/
def balance (opening closing : Char) (t : Text) : Int :=
  (t.count opening : Int) - (t.count closing : Int)

/-- How many more parentheses a line opens than it closes, outside literals and comments. -/
def parenBalance (language : Language) (line : Text) : Int :=
  balance '(' ')' (strip language line)

/-- The width of a line's indentation; a tab counts as four columns. -/
def indentation : Text → Nat
  | ' ' :: r => indentation r + 1
  | '\t' :: r => indentation r + 4
  | _ => 0

end SnippetLab.Source

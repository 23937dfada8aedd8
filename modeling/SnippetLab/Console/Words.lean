import SnippetLab.Text.Basic

/-!
# The words of a command

A command is split into words at blanks.  Quotes join what stands between them to one word, a
backslash takes the meaning from the character after it, and a hash sign where a word would begin
starts a comment.  Between double quotes a backslash only acts on the few characters that mean
something there.
-/

namespace SnippetLab.Console

/-- Where the splitter stands.  The word begun is kept nearest character first. -/
inductive Splitting where
  /-- Between words. -/
  | between
  /-- In a comment. -/
  | comment
  /-- In a word. -/
  | word (begun : Text)
  /-- In a word, just after a backslash. -/
  | escape (begun : Text)
  /-- Between single quotes. -/
  | single (begun : Text)
  /-- Between double quotes. -/
  | double (begun : Text)
  /-- Between double quotes, just after a backslash. -/
  | doubleEscape (begun : Text)
  deriving Repr, DecidableEq

/-- The characters that separate words. -/
def isSeparator (c : Char) : Bool := c == ' ' || c == '\t' || c == '\n'

/-- The characters a backslash acts on between double quotes, the line feed apart. -/
def isEscapable (c : Char) : Bool := c == '$' || c == '`' || c == '"' || c == '\\'

/-- A character in a word: the state after it. -/
def inWord (begun : Text) (c : Char) : Splitting :=
  if c = '"' then .double begun
  else if c = '\'' then .single begun
  else if c = '\\' then .escape begun
  else .word (c :: begun)

/-- The words from a state on; nothing if a quote stays open or a backslash ends the text. -/
def splitFrom (state : Splitting) : Text → Option (List Text)
  | [] =>
    match state with
    | .between | .comment => some []
    | .word begun => some [begun.reverse]
    | .escape _ | .single _ | .double _ | .doubleEscape _ => none
  | c :: r =>
    match state with
    | .between =>
      if isSeparator c then splitFrom .between r
      else if c = '#' then splitFrom .comment r
      else splitFrom (inWord [] c) r
    | .comment => splitFrom (if c = '\n' then .between else .comment) r
    | .word begun =>
      if isSeparator c then (splitFrom .between r).map (begun.reverse :: ·)
      else splitFrom (inWord begun c) r
    | .escape begun => splitFrom (.word (if c = '\n' then begun else c :: begun)) r
    | .single begun => splitFrom (if c = '\'' then .word begun else .single (c :: begun)) r
    | .double begun =>
      if c = '"' then splitFrom (.word begun) r
      else if c = '\\' then splitFrom (.doubleEscape begun) r
      else splitFrom (.double (c :: begun)) r
    | .doubleEscape begun =>
      if c = '\n' then splitFrom (.double begun) r
      else if isEscapable c then splitFrom (.double (c :: begun)) r
      else splitFrom (.double (c :: '\\' :: begun)) r

/-- **The words of a command**; nothing if a quote stays open or a backslash ends it. -/
def splitWords (t : Text) : Option (List Text) := splitFrom .between t

end SnippetLab.Console

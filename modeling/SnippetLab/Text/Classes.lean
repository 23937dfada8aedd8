import SnippetLab.Text.Basic
import SnippetLab.Text.Table.Alphabetic
import SnippetLab.Text.Table.Visible

/-!
# Character classes

The classes that the rest of the library asks for: blanks, letters, the characters of words and
names, and the characters a quoted text may show as they are.  ASCII characters are decided by
comparison, all others by the tables of their Unicode properties.
-/

namespace SnippetLab.Text

/-- Does a code point lie in one of the ranges? -/
def inRanges (ranges : List (Nat × Nat)) (n : Nat) : Bool :=
  ranges.any fun r => r.1 ≤ n && n ≤ r.2

/-- **White space**: the twenty-five characters of the `White_Space` property. -/
def isBlank (c : Char) : Bool :=
  let n := c.toNat
  n == 0x20 || (0x09 ≤ n && n ≤ 0x0D) ||
    (n > 0x7F && (n == 0x85 || n == 0xA0 || n == 0x1680 || (0x2000 ≤ n && n ≤ 0x200A) ||
      n == 0x2028 || n == 0x2029 || n == 0x202F || n == 0x205F || n == 0x3000))

/-- Letters: the `Alphabetic` property. -/
def isLetter (c : Char) : Bool :=
  c.isAlpha || (c.toNat > 0x7F && inRanges Table.alphabetic c.toNat)

/-- Letters and numbers of any script. -/
def isLetterOrNumber (c : Char) : Bool :=
  c.isAlphanum ||
    (c.toNat > 0x7F && (inRanges Table.alphabetic c.toNat || inRanges Table.numeric c.toNat))

/-- The characters of a word: letters, numbers, the underscore and the dollar sign. -/
def isWordChar (c : Char) : Bool := isLetterOrNumber c || c == '_' || c == '$'

/-- Quotes that open a string literal. -/
def isQuote (c : Char) : Bool := c == '"' || c == '\''

/-- Characters that join onto the character before them. -/
def extendsGrapheme (c : Char) : Bool :=
  c.toNat > 0x7F && inRanges Table.graphemeExtend c.toNat

/-- Characters without a visible form; the space counts as visible. -/
def isInvisible (c : Char) : Bool :=
  c.toNat < 0x20 || (c.toNat > 0x7E && inRanges Table.invisible c.toNat)

/-! ## What the classes give -/

/-- Without the blanks it begins with. -/
def trimStart (t : Text) : Text := t.dropWhile isBlank

/-- Without the blanks it ends with. -/
def trimEnd (t : Text) : Text := t.dropEndWhile isBlank

/-- Without the blanks at either end. -/
def trim (t : Text) : Text := trimEnd (trimStart t)

/-- Nothing but blanks? -/
def isAllBlank (t : Text) : Bool := t.all isBlank

/-- The pieces between blanks, without empty ones. -/
def pieces (t : Text) : List Text := (runs (fun c => !isBlank c) t).map (·.body)

/-- The words of a text with their surroundings. -/
def words (t : Text) : List Span := runs isWordChar t

/-- Is `w` one of the words of `t`? -/
def mentions (t w : Text) : Bool := (words t).any fun s => s.body == w

/-- The text without any of its blanks. -/
def squeeze (t : Text) : Text := t.filter fun c => !isBlank c

end SnippetLab.Text

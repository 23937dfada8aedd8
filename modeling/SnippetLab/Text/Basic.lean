/-!
# Texts as lists of characters

Everything this library reads, compares and prints is a `Text`: a list of characters, so that
scanning is recursion on the list and every cut of a text is a statement about `++`.  String
literals stand for the texts they spell.

* `lines` — the lines of a text; a line feed ends a line, and one carriage return right before it
  belongs to the ending.
* `runs` — the maximal runs of characters of one kind, without what separates them.
* `splitOn` — the pieces between separators, empty pieces included.
* `cut`, `occurrences`, `replaceAll` — searching for a fixed piece of text, from the left and
  without overlaps.
-/

namespace SnippetLab

/-- A text: its characters in order. -/
abbrev Text := List Char

/-- What a literal stands for. -/
instance : Coe String Text := ⟨String.toList⟩

/-- A stretch of a text together with its surroundings. -/
structure Span where
  /-- The text before the stretch, **nearest character first**. -/
  before : Text
  /-- The stretch itself. -/
  body : Text
  /-- The text after the stretch. -/
  after : Text
  deriving Repr, DecidableEq

namespace Span

/-- The whole text a span was taken from. -/
def whole (s : Span) : Text := s.before.reverse ++ (s.body ++ s.after)

/-- Where the stretch begins, counted in characters. -/
def offset (s : Span) : Nat := s.before.length

end Span

namespace Text

/-! ## Beginnings and endings -/

/-- Does `t` begin with `p`? -/
def startsWith (t p : Text) : Bool := p.isPrefixOf t

/-- Does `t` end with `p`? -/
def endsWith (t p : Text) : Bool := p.isSuffixOf t

/-- What follows `p` in a text that begins with it. -/
def dropStart? (t p : Text) : Option Text := p.isPrefixOf? t

/-- What precedes `p` in a text that ends with it. -/
def dropEnd? (t p : Text) : Option Text := p.isSuffixOf? t

/-- Is `t` one of some texts? -/
def isOneOf (t : Text) (texts : List Text) : Bool := texts.contains t

/-- Drop the characters of a class from the end. -/
def dropEndWhile (t : Text) (p : Char → Bool) : Text := (t.reverse.dropWhile p).reverse

/-! ## Splitting -/

/-- Put a character in front of the first of some pieces. -/
def consHead (c : Char) : List Text → List Text
  | [] => [[c]]
  | p :: ps => (c :: p) :: ps

/-- The lines of a text.  **A line feed ends a line rather than separating two**, so a text that
ends with one has no empty last line; one carriage return just before it goes with it. -/
def lines : Text → List Text
  | [] => []
  | '\n' :: r => [] :: lines r
  | '\r' :: '\n' :: r => [] :: lines r
  | c :: r => consHead c (lines r)

/-- The pieces between the characters of a class: always one more than there are separators. -/
def splitOn (p : Char → Bool) : Text → List Text
  | [] => [[]]
  | c :: r => if p c then [] :: splitOn p r else consHead c (splitOn p r)

/-- The part before the first character of a class, and the part after that character. -/
def splitFirst (p : Char → Bool) : Text → Option (Text × Text)
  | [] => none
  | c :: r => if p c then some ([], r) else (splitFirst p r).map fun (l, r') => (c :: l, r')

/-- The maximal runs of characters of a class, each with its surroundings, when `before` has
already been passed and `run` is the part of the current run read so far (both nearest character
first). -/
def runsFrom (p : Char → Bool) (before run : Text) : Text → List Span
  | [] => if run.isEmpty then [] else [⟨before, run.reverse, []⟩]
  | c :: r =>
    if p c then runsFrom p before (c :: run) r
    else if run.isEmpty then runsFrom p (c :: before) [] r
    else ⟨before, run.reverse, c :: r⟩ :: runsFrom p (c :: (run ++ before)) [] r

/-- **The maximal non-empty runs of characters of a class**, in order, with their surroundings. -/
def runs (p : Char → Bool) (t : Text) : List Span := runsFrom p [] [] t

/-- Pieces joined with a separator between neighbours. -/
def join (sep : Text) (pieces : List Text) : Text := sep.intercalate pieces

/-! ## Searching -/

/-- The text before and after the first occurrence of `sep`. -/
def cut (sep : Text) : Text → Option (Text × Text)
  | [] => if sep.isEmpty then some ([], []) else none
  | c :: r =>
    match dropStart? (c :: r) sep with
    | some after => some ([], after)
    | none => (cut sep r).map fun (l, after) => (c :: l, after)

/-- Does `sep` occur in `t`? -/
def has (t sep : Text) : Bool := (cut sep t).isSome

/-- The occurrences of `sep` from the left, none overlapping the one before; `skip` characters of
the last one are still to be passed. -/
def occurrencesFrom (sep : Text) (before : Text) (skip : Nat) : Text → List Span
  | [] => []
  | c :: r =>
    match skip with
    | n + 1 => occurrencesFrom sep (c :: before) n r
    | 0 =>
      match dropStart? (c :: r) sep with
      | some after => ⟨before, sep, after⟩ :: occurrencesFrom sep (c :: before) (sep.length - 1) r
      | none => occurrencesFrom sep (c :: before) 0 r

/-- The occurrences of a non-empty `sep` from the left, none overlapping the one before. -/
def occurrences (sep t : Text) : List Span := occurrencesFrom sep [] 0 t

/-- Replace from the left, leaving out `skip` characters of an occurrence already replaced. -/
def replaceFrom (old new : Text) (skip : Nat) : Text → Text
  | [] => []
  | c :: r =>
    match skip with
    | n + 1 => replaceFrom old new n r
    | 0 =>
      if startsWith (c :: r) old then new ++ replaceFrom old new (old.length - 1) r
      else c :: replaceFrom old new 0 r

/-- Every occurrence of a non-empty `old`, from the left and without overlaps, becomes `new`. -/
def replaceAll (old new t : Text) : Text := replaceFrom old new 0 t

end Text

end SnippetLab

import SnippetLab.Text.Basic

/-!
# Edit distance and similarity

The edit distance of two texts is computed row by row: the row of a beginning of the first text
holds its distance to every beginning of the second.  Similarity is one less the share of the
longer text that has to be edited.
-/

namespace SnippetLab.Fix

/-- The rest of the row for one more character `c` of the first text.  `previous` is the rest of
the row before, from the entry above and to the left; `left` is the entry just computed. -/
def rowAfter (c : Char) (left : Nat) : Text → List Nat → List Nat
  | d :: rest, diagonal :: above :: previous =>
    let entry := min (min (above + 1) (left + 1)) (diagonal + if c = d then 0 else 1)
    entry :: rowAfter c entry rest (above :: previous)
  | _, _ => []

/-- The last row, after the rest of the first text; `count` of its characters are done. -/
def lastRow (b : Text) (count : Nat) (row : List Nat) : Text → List Nat
  | [] => row
  | c :: rest => lastRow b (count + 1) ((count + 1) :: rowAfter c (count + 1) b row) rest

/-- **The least number of insertions, deletions and replacements** of single characters that turn
one text into the other. -/
def editDistance (a b : Text) : Nat := (lastRow b 0 (List.range (b.length + 1)) a).getLast?.getD 0

/-- **The similarity of two texts**: one for equal texts, zero for texts without anything in
common. -/
def similarity (a b : Text) : Float :=
  let longest := max a.length b.length
  if longest = 0 then 1.0
  else 1.0 - Float.ofNat (editDistance a b) / Float.ofNat longest

end SnippetLab.Fix

import SnippetLab.Text.Classes
import SnippetLab.Text.Table.Case

/-!
# Lower-casing

Every character is replaced by its lower-case form.  Two characters need care: the capital I with
a dot has a form of two characters, and a capital sigma takes its final form where it ends a word,
that is, where the nearest character before it that matters is cased and the nearest one after it
is not.
-/

namespace SnippetLab.Text

/-- The character with a lower-case form of its own in a run, if the run holds it. -/
def lowerInRun? (r : Table.CaseRun) (n : Nat) : Option Char :=
  if r.first ≤ n && n ≤ r.last && (n - r.first) % r.stride == 0 then
    some (Char.ofNat (Int.toNat (n + r.offset)))
  else none

/-- The lower-case form of one character, whatever stands around it. -/
def lowerChar (c : Char) : Text :=
  if c.toNat < 0x80 then [c.toLower]
  else if c.toNat == 0x130 then ['i', Char.ofNat 0x307]
  else [(Table.lowerRuns.findSome? fun r => lowerInRun? r c.toNat).getD c]

/-- Is the first character that is not ignorable a cased one? -/
def meetsCased (t : Text) : Bool :=
  match t.dropWhile fun c => inRanges Table.caseIgnorable c.toNat with
  | [] => false
  | c :: _ => inRanges Table.cased c.toNat

/-- Lower-case a text that follows `before` (nearest character first). -/
def lowerFrom (before : Text) : Text → Text
  | [] => []
  | c :: r =>
    (if c.toNat == 0x3A3 then
      [if meetsCased before && !meetsCased r then Char.ofNat 0x3C2 else Char.ofNat 0x3C3]
    else lowerChar c) ++ lowerFrom (c :: before) r

/-- **The lower-case form of a text.** -/
def lower (t : Text) : Text := lowerFrom [] t

end SnippetLab.Text

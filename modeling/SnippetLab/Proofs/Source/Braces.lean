import Mathlib.Data.Int.Order.Basic
import Mathlib.Data.List.Infix
import Mathlib.Tactic.Lemma
import SnippetLab.Source.Lexing

/-!
# Counting braces

Braces pair up if they can be written as a word of nested pairs.  A counter that goes up at an
opening brace and down at a closing one finds that out: it must end where it began and must not go
below it on the way.

* `DropsBelow` — braces counted one by one: somewhere in a text more are closed than are open.
* `Dyck` — the words in which every brace has its partner.
* `bracesOf` — the braces of a text, without what is between them.
* `dyck_bracesOf_iff` — **the braces of a text pair up** exactly if the count ends at nought and
  does not drop below it.
-/

namespace SnippetLab

open Source

/-! ## The count -/

section Count

variable {opened : Int} {t u : Text}

/-- **More braces are closed than are open**, somewhere in a text before which `opened` braces are
open. -/
def DropsBelow (opened : Int) (t : Text) : Prop := ∃ p, p <+: t ∧ opened + balance '{' '}' p < 0

/-- Whether the count drops is found out by counting in every beginning. -/
instance (opened : Int) (t : Text) : Decidable (DropsBelow opened t) :=
  decidable_of_iff (∃ p ∈ t.inits, opened + balance '{' '}' p < 0) (by simp [DropsBelow])

lemma balance_append (opening closing : Char) (t u : Text) :
    balance opening closing (t ++ u) = balance opening closing t + balance opening closing u := by
  simp only [balance, List.count_append]
  omega

/-- The count drops in the first text, or in the second from where the first has led. -/
lemma dropsBelow_append :
    DropsBelow opened (t ++ u) ↔
      DropsBelow opened t ∨ DropsBelow (opened + balance '{' '}' t) u := by
  constructor
  · rintro ⟨p, begun, drops⟩
    rcases List.prefix_or_prefix_of_prefix begun (List.prefix_append t u) with inside | ⟨q, rfl⟩
    · exact .inl ⟨p, inside, drops⟩
    · rw [balance_append, ← Int.add_assoc] at drops
      exact .inr ⟨q, (List.prefix_append_right_inj t).1 begun, drops⟩
  · rintro (⟨p, begun, drops⟩ | ⟨q, begun, drops⟩)
    · exact ⟨p, begun.trans (List.prefix_append t u), drops⟩
    · refine ⟨t ++ q, (List.prefix_append_right_inj t).2 begun, ?_⟩
      rwa [balance_append, ← Int.add_assoc]

/-- Once it is below nought it has dropped. -/
lemma dropsBelow_of_neg (below : opened < 0) (t : Text) : DropsBelow opened t :=
  ⟨[], List.nil_prefix, by simpa [balance] using below⟩

lemma not_dropsBelow_nil (open_ : 0 ≤ opened) : ¬DropsBelow opened [] := by
  rintro ⟨p, begun, drops⟩
  rw [List.prefix_nil.1 begun] at drops
  simp [balance] at drops
  omega

/-- What a character does to the count. -/
lemma balance_cons (opening closing c : Char) (t : Text) :
    balance opening closing (c :: t) =
      balance opening closing [c] + balance opening closing t :=
  balance_append opening closing [c] t

/-- A character is counted, and the count goes on behind it. -/
lemma dropsBelow_cons (open_ : 0 ≤ opened) (c : Char) :
    DropsBelow opened (c :: t) ↔ DropsBelow (opened + balance '{' '}' [c]) t := by
  constructor
  · rintro ⟨p, begun, drops⟩
    rcases List.prefix_cons_iff.1 begun with rfl | ⟨q, rfl, later⟩
    · exact absurd drops (by simpa [balance] using open_)
    · rw [balance_cons, ← Int.add_assoc] at drops
      exact ⟨q, later, drops⟩
  · rintro ⟨q, later, drops⟩
    refine ⟨c :: q, (List.prefix_cons_inj c).2 later, ?_⟩
    rwa [balance_cons, ← Int.add_assoc]

@[simp] lemma balance_opening : balance '{' '}' ['{'] = 1 := by decide

@[simp] lemma balance_closing : balance '{' '}' ['}'] = -1 := by decide

end Count

/-! ## Words of braces -/

/-- Is it a brace? -/
def isBrace (c : Char) : Bool := c == '{' || c == '}'

/-- **The braces of a text**, one after another. -/
def bracesOf (t : Text) : Text := t.filter isBrace

/-- **Braces that pair up**: nothing, or a pair with such words in it and behind it. -/
inductive Dyck : Text → Prop where
  | nil : Dyck []
  | pair {inner behind : Text} (nested : Dyck inner) (later : Dyck behind) :
      Dyck ('{' :: (inner ++ '}' :: behind))

/-- **Words that close `n` braces** opened before them, and every one they open. -/
def Closes : Nat → Text → Prop
  | 0, t => Dyck t
  | n + 1, t => ∃ inner behind, t = inner ++ '}' :: behind ∧ Dyck inner ∧ Closes n behind

section Words

variable {opened : Int} {n : Nat} {t u : Text}

lemma balance_of_not_isBrace {c : Char} (other : isBrace c = false) : balance '{' '}' [c] = 0 := by
  have apart : c ≠ '{' ∧ c ≠ '}' := by simpa [isBrace] using other
  simp [balance, apart.1, apart.2]

@[simp] lemma balance_bracesOf (t : Text) : balance '{' '}' (bracesOf t) = balance '{' '}' t := by
  unfold balance bracesOf
  rw [List.count_filter (by decide), List.count_filter (by decide)]

/-- What is between the braces does not count. -/
lemma dropsBelow_bracesOf (open_ : 0 ≤ opened) (t : Text) :
    DropsBelow opened (bracesOf t) ↔ DropsBelow opened t := by
  induction t generalizing opened with
  | nil => exact Iff.rfl
  | cons c t ih =>
      rw [dropsBelow_cons open_]
      by_cases brace : isBrace c = true
      · rw [bracesOf, List.filter_cons_of_pos brace, ← bracesOf, dropsBelow_cons open_]
        by_cases below : opened + balance '{' '}' [c] < 0
        · exact iff_of_true (dropsBelow_of_neg below _) (dropsBelow_of_neg below _)
        · exact ih (Int.not_lt.1 below)
      · rw [bracesOf, List.filter_cons_of_neg brace, ← bracesOf,
          balance_of_not_isBrace (by simpa using brace), Int.add_zero]
        exact ih open_

/-- **Braces that pair up** leave the count where it was, and never below it. -/
lemma Dyck.count (h : Dyck t) :
    balance '{' '}' t = 0 ∧ ∀ opened : Int, 0 ≤ opened → ¬DropsBelow opened t := by
  induction h with
  | nil => exact ⟨rfl, fun opened => not_dropsBelow_nil⟩
  | @pair inner behind nested later inside outside =>
      constructor
      · rw [balance_cons, balance_append, balance_cons _ _ _ behind, inside.1, outside.1]
        simp
      · intro opened open_
        have deeper : 0 ≤ opened + 1 := by omega
        rw [dropsBelow_cons open_, balance_opening, dropsBelow_append, inside.1, Int.add_zero,
          dropsBelow_cons deeper, balance_closing, Int.add_neg_cancel_right]
        exact not_or.2 ⟨inside.2 _ deeper, outside.2 _ open_⟩

/-- A pair may stand in front of a word that closes braces. -/
lemma Closes.pair (nested : Dyck t) (later : Closes n u) : Closes n ('{' :: (t ++ '}' :: u)) := by
  cases n with
  | zero => exact .pair nested later
  | succ n =>
      obtain ⟨inner, behind, rfl, whole, rest⟩ := later
      exact ⟨'{' :: (t ++ '}' :: inner), behind, by simp, .pair nested whole, rest⟩

/-- **A count that comes down to nought, and not below it, closes what is open.** -/
lemma closes_of_count (braces : ∀ c ∈ t, isBrace c = true)
    (ends : (n : Int) + balance '{' '}' t = 0) (never : ¬DropsBelow n t) : Closes n t := by
  induction t generalizing n with
  | nil =>
      obtain rfl : n = 0 := by simpa [balance] using ends
      exact Dyck.nil
  | cons c t ih =>
      rw [List.forall_mem_cons] at braces
      rw [dropsBelow_cons (Int.natCast_nonneg n)] at never
      rw [balance_cons, ← Int.add_assoc] at ends
      have brace : c = '{' ∨ c = '}' := by simpa [isBrace] using braces.1
      rcases brace with rfl | rfl
      · -- one more brace is open behind it
        rw [balance_opening] at ends never
        obtain ⟨inner, behind, rfl, nested, later⟩ := ih (n := n + 1) braces.2 ends never
        exact .pair nested later
      · rw [balance_closing] at ends never
        cases n with
        | zero => exact absurd (dropsBelow_of_neg (by decide) t) never
        | succ n =>
            have level : ((n + 1 : Nat) : Int) + -1 = n := by omega
            rw [level] at ends never
            exact ⟨[], t, rfl, .nil, ih braces.2 ends never⟩

/-- **The braces of a text pair up** exactly if their count ends at nought without dropping below
it. -/
theorem dyck_bracesOf_iff :
    Dyck (bracesOf t) ↔ balance '{' '}' t = 0 ∧ ¬DropsBelow 0 t := by
  constructor
  · intro h
    have count := h.count
    rw [balance_bracesOf] at count
    exact ⟨count.1, (dropsBelow_bracesOf le_rfl t).not.1 (count.2 0 le_rfl)⟩
  · rintro ⟨ends, never⟩
    refine closes_of_count (n := 0) (fun c mem => (List.mem_filter.1 mem).2) ?_
      ((dropsBelow_bracesOf le_rfl t).not.2 never)
    rw [balance_bracesOf, ends]
    rfl

end Words

end SnippetLab

import Mathlib.Algebra.Order.Field.Rat
import Mathlib.Data.Nat.Dist
import Mathlib.Tactic.Positivity
import SnippetLab.Fix.EditDistance
import SnippetLab.Proofs.Decimal.Quotient

/-!
# The edit distance counts edits

`editDistance` is filled in row by row.  That its last entry is the least number of edits that turn
one text into the other takes two steps.

* `rowOf` — what the rows hold: the distances of beginnings of the texts, where `distance` is the
  recursion behind the table.  It looks at the nearest character first, so the texts are read
  backwards (`editDistance_eq`).
* `Edits` — edits one after the other.  As many as the distance are enough (`edits_distance`), and
  fewer are not, because one edit brings two texts nearer by one at most
  (`distance_le_of_oneEdit`).

What is known of edits then holds of the distance: edits can be undone, put one after the other,
and none of them changes the length by more than one.
-/

namespace SnippetLab.Fix

/-! ## Edits -/

/-- **One edit**: a character is put in, taken out or replaced. -/
inductive OneEdit : Text → Text → Prop
  | insertion (before : Text) (c : Char) (after : Text) :
      OneEdit (before ++ after) (before ++ c :: after)
  | deletion (before : Text) (c : Char) (after : Text) :
      OneEdit (before ++ c :: after) (before ++ after)
  | replacement (before : Text) (c d : Char) (after : Text) :
      OneEdit (before ++ c :: after) (before ++ d :: after)

/-- `Edits n a b`: **`n` edits, one after the other, turn `a` into `b`.** -/
inductive Edits : Nat → Text → Text → Prop
  | none (t : Text) : Edits 0 t t
  | more {n : Nat} {a b c : Text} (first : OneEdit a b) (rest : Edits n b c) : Edits (n + 1) a c

namespace OneEdit

variable {a b : Text}

lemma symm (h : OneEdit a b) : OneEdit b a := by
  cases h with
  | insertion before c after => exact .deletion before c after
  | deletion before c after => exact .insertion before c after
  | replacement before c d after => exact .replacement before d c after

lemma cons (h : OneEdit a b) (e : Char) : OneEdit (e :: a) (e :: b) := by
  cases h with
  | insertion before c after => exact .insertion (e :: before) c after
  | deletion before c after => exact .deletion (e :: before) c after
  | replacement before c d after => exact .replacement (e :: before) c d after

lemma reverse (h : OneEdit a b) : OneEdit a.reverse b.reverse := by
  cases h with
  | insertion before c after => simpa using insertion after.reverse c before.reverse
  | deletion before c after => simpa using deletion after.reverse c before.reverse
  | replacement before c d after => simpa using replacement after.reverse c d before.reverse

lemma length_le (h : OneEdit a b) : a.length ≤ b.length + 1 := by
  cases h with
  | insertion before c after => simp; omega
  | deletion before c after => simp; omega
  | replacement before c d after => simp

end OneEdit

namespace Edits

variable {m n : Nat} {a b c : Text}

lemma trans (h : Edits m a b) (h' : Edits n b c) : Edits (m + n) a c := by
  induction h with
  | none _ => rwa [Nat.zero_add]
  | more first _ ih =>
      rw [Nat.add_right_comm]
      exact .more first (ih h')

lemma symm (h : Edits n a b) : Edits n b a := by
  induction h with
  | none t => exact .none t
  | @more _ a _ _ first _ ih => exact ih.trans (.more first.symm (.none a))

lemma cons (h : Edits n a b) (e : Char) : Edits n (e :: a) (e :: b) := by
  induction h with
  | none t => exact .none (e :: t)
  | more first _ ih => exact .more (first.cons e) ih

lemma reverse (h : Edits n a b) : Edits n a.reverse b.reverse := by
  induction h with
  | none t => exact .none t.reverse
  | more first _ ih => exact .more first.reverse ih

lemma length_le (h : Edits n a b) : a.length ≤ b.length + n := by
  induction h with
  | none _ => exact Nat.le_refl _
  | more first _ ih =>
      have once := first.length_le
      omega

lemma zero_iff : Edits 0 a b ↔ a = b := by
  constructor
  · rintro ⟨⟩
    rfl
  · rintro rfl
    exact .none a

/-- A text can be written character by character. -/
lemma of_nil (t : Text) : Edits t.length [] t := by
  induction t with
  | nil => exact .none []
  | cons c t ih => exact .more (.insertion [] c []) (ih.cons c)

end Edits

/-! ## The distance by recursion -/

/-- **The distance of two texts by their first characters**: the one is taken out, the other is put
in, or the one becomes the other. -/
def distance : Text → Text → Nat
  | [], b => b.length
  | a, [] => a.length
  | c :: a, d :: b =>
    min (min (distance a (d :: b) + 1) (distance (c :: a) b + 1))
      (distance a b + if c = d then 0 else 1)
termination_by a b => a.length + b.length

lemma distance_nil_left (b : Text) : distance [] b = b.length := by rw [distance]

lemma distance_nil_right (a : Text) : distance a [] = a.length := by
  cases a with
  | nil => exact distance_nil_left []
  | cons c a => rw [distance]; exact List.cons_ne_nil c a

lemma distance_cons_cons (c d : Char) (a b : Text) :
    distance (c :: a) (d :: b) =
      min (min (distance a (d :: b) + 1) (distance (c :: a) b + 1))
        (distance a b + if c = d then 0 else 1) := by
  rw [distance]

lemma distance_self (t : Text) : distance t t = 0 := by
  induction t with
  | nil => exact distance_nil_left []
  | cons c t ih => simp [distance_cons_cons, ih]

lemma distance_le_max (a b : Text) : distance a b ≤ max a.length b.length := by
  induction a generalizing b with
  | nil =>
      rw [distance_nil_left]
      exact Nat.le_max_right _ _
  | cons c a ih =>
      cases b with
      | nil =>
          rw [distance_nil_right]
          exact Nat.le_max_left _ _
      | cons d b =>
          have rest := ih b
          rw [distance_cons_cons, List.length_cons, List.length_cons]
          split <;> omega

/-- **As many edits as the distance says are enough.** -/
theorem edits_distance (a b : Text) : Edits (distance a b) a b := by
  induction a generalizing b with
  | nil =>
      rw [distance_nil_left]
      exact .of_nil b
  | cons c a shorter =>
      induction b with
      | nil =>
          rw [distance_nil_right]
          exact (Edits.of_nil (c :: a)).symm
      | cons d b ih =>
          have takenOut : Edits (distance a (d :: b) + 1) (c :: a) (d :: b) :=
            .more (.deletion [] c a) (shorter (d :: b))
          have putIn : Edits (distance (c :: a) b + 1) (c :: a) (d :: b) :=
            .more (.insertion [] d (c :: a)) (ih.cons d)
          have replaced : Edits (distance a b + if c = d then 0 else 1) (c :: a) (d :: b) := by
            by_cases same : c = d
            · rw [if_pos same, same]
              exact (shorter b).cons d
            · rw [if_neg same]
              exact .more (.replacement [] c d a) ((shorter b).cons d)
          have of_min {m n : Nat} (hm : Edits m (c :: a) (d :: b))
              (hn : Edits n (c :: a) (d :: b)) : Edits (min m n) (c :: a) (d :: b) := by
            rcases Nat.le_total m n with less | more
            · rwa [Nat.min_eq_left less]
            · rwa [Nat.min_eq_right more]
          rw [distance_cons_cons]
          exact of_min (of_min takenOut putIn) replaced

/-! ## One edit brings texts nearer by one at most -/

lemma distance_cons_left (c : Char) (a t : Text) : distance (c :: a) t ≤ distance a t + 1 := by
  cases t with
  | nil => simp [distance_nil_right]
  | cons d t =>
      rw [distance_cons_cons]
      omega

lemma distance_cons_right (d : Char) (a t : Text) : distance a (d :: t) ≤ distance a t + 1 := by
  cases a with
  | nil => simp [distance_nil_left]
  | cons c a =>
      rw [distance_cons_cons]
      omega

lemma distance_le_cons_left (c : Char) (a t : Text) : distance a t ≤ distance (c :: a) t + 1 := by
  induction t with
  | nil =>
      rw [distance_nil_right, distance_nil_right, List.length_cons]
      omega
  | cons d t ih =>
      have longer := distance_cons_right d a t
      rw [distance_cons_cons]
      omega

lemma distance_replace_left (c e : Char) (a t : Text) :
    distance (c :: a) t ≤ distance (e :: a) t + 1 := by
  induction t with
  | nil => simp [distance_nil_right]
  | cons d t ih =>
      rw [distance_cons_cons, distance_cons_cons]
      split <;> split <;> omega

/-- What brings two texts nearer to a third by one at most does so behind a common beginning. -/
lemma distance_append_left {a b : Text} (h : ∀ t, distance a t ≤ distance b t + 1)
    (before t : Text) : distance (before ++ a) t ≤ distance (before ++ b) t + 1 := by
  induction before generalizing t with
  | nil => exact h t
  | cons c before shorter =>
      induction t with
      | nil =>
          have lengths := h []
          rw [distance_nil_right, distance_nil_right] at lengths ⊢
          simp only [List.cons_append, List.length_cons, List.length_append]
          omega
      | cons d t ih =>
          have above := shorter (d :: t)
          have diagonal := shorter t
          rw [List.cons_append, List.cons_append] at ih ⊢
          rw [distance_cons_cons, distance_cons_cons]
          omega

/-- **One edit brings a text nearer to another by one at most.** -/
theorem distance_le_of_oneEdit {a b : Text} (h : OneEdit a b) (t : Text) :
    distance a t ≤ distance b t + 1 := by
  cases h with
  | insertion before c after => exact distance_append_left (distance_le_cons_left c after) before t
  | deletion before c after => exact distance_append_left (distance_cons_left c after) before t
  | replacement before c d after =>
      exact distance_append_left (distance_replace_left c d after) before t

/-- **Fewer edits than the distance says are not enough.** -/
theorem distance_le_of_edits {n : Nat} {a b : Text} (h : Edits n a b) : distance a b ≤ n := by
  induction h with
  | none t => exact Nat.le_of_eq (distance_self t)
  | @more _ _ _ c first _ ih =>
      have once := distance_le_of_oneEdit first c
      omega

/-! ## Rows -/

/-- The row for a beginning `done` of the first text, from the entry for the beginning `passed` of
the second on; `rest` is what follows that.  Both beginnings are read backwards. -/
def rowOf (done passed : Text) : Text → List Nat
  | [] => [distance done passed]
  | d :: rest => distance done passed :: rowOf done (d :: passed) rest

lemma rowOf_eq_cons (done passed rest : Text) :
    ∃ later, rowOf done passed rest = distance done passed :: later := by
  cases rest with
  | nil => exact ⟨[], rfl⟩
  | cons d rest => exact ⟨rowOf done (d :: passed) rest, rfl⟩

lemma rowOf_nil (passed rest : Text) :
    rowOf [] passed rest = List.range' passed.length (rest.length + 1) := by
  induction rest generalizing passed with
  | nil => simp [rowOf, distance_nil_left]
  | cons d rest ih =>
      rw [rowOf, ih, distance_nil_left]
      rfl

/-- **From one row to the next.** -/
lemma rowAfter_rowOf (c : Char) (done passed rest : Text) :
    distance (c :: done) passed ::
        rowAfter c (distance (c :: done) passed) rest (rowOf done passed rest) =
      rowOf (c :: done) passed rest := by
  induction rest generalizing passed with
  | nil => rfl
  | cons d rest ih =>
      obtain ⟨later, above⟩ := rowOf_eq_cons done (d :: passed) rest
      rw [rowOf, rowOf, above, rowAfter, ← distance_cons_cons, ← above, ih]

/-- **The last row is that of the whole first text**, from any of its beginnings on. -/
lemma lastRow_rowOf (b a done : Text) :
    lastRow b done.length (rowOf done [] b) a = rowOf (a.reverse ++ done) [] b := by
  induction a generalizing done with
  | nil => rfl
  | cons c a ih =>
      have entry : distance (c :: done) [] = done.length + 1 := distance_nil_right (c :: done)
      have next := rowAfter_rowOf c done [] b
      rw [entry] at next
      rw [lastRow, next, List.reverse_cons, List.append_assoc, List.singleton_append]
      exact ih (c :: done)

lemma getLast?_rowOf (done passed rest : Text) :
    (rowOf done passed rest).getLast? = some (distance done (rest.reverse ++ passed)) := by
  induction rest generalizing passed with
  | nil => rfl
  | cons d rest ih =>
      obtain ⟨later, above⟩ := rowOf_eq_cons done (d :: passed) rest
      rw [rowOf, above, List.getLast?_cons_cons, ← above, ih, List.reverse_cons, List.append_assoc,
        List.singleton_append]

/-- **The table ends in the distance of the texts**, read backwards. -/
theorem editDistance_eq (a b : Text) : editDistance a b = distance a.reverse b.reverse := by
  have first : List.range (b.length + 1) = rowOf [] [] b := by
    rw [rowOf_nil, List.range_eq_range', List.length_nil]
  have last := lastRow_rowOf b a []
  rw [List.length_nil, ← first, List.append_nil] at last
  rw [editDistance, last, getLast?_rowOf, List.append_nil, Option.getD_some]

/-! ## The edit distance -/

lemma edits_editDistance (a b : Text) : Edits (editDistance a b) a b := by
  have backwards := (edits_distance a.reverse b.reverse).reverse
  rwa [List.reverse_reverse, List.reverse_reverse, ← editDistance_eq] at backwards

lemma editDistance_le_of_edits {n : Nat} {a b : Text} (h : Edits n a b) : editDistance a b ≤ n := by
  rw [editDistance_eq]
  exact distance_le_of_edits h.reverse

lemma editDistance_comm (a b : Text) : editDistance a b = editDistance b a :=
  Nat.le_antisymm (editDistance_le_of_edits (edits_editDistance b a).symm)
    (editDistance_le_of_edits (edits_editDistance a b).symm)

lemma editDistance_eq_zero_iff (a b : Text) : editDistance a b = 0 ↔ a = b := by
  rw [← Edits.zero_iff]
  constructor
  · intro zero
    rw [← zero]
    exact edits_editDistance a b
  · exact fun same => Nat.le_zero.1 (editDistance_le_of_edits same)

lemma editDistance_triangle (a b c : Text) :
    editDistance a c ≤ editDistance a b + editDistance b c :=
  editDistance_le_of_edits ((edits_editDistance a b).trans (edits_editDistance b c))

lemma dist_length_le_editDistance (a b : Text) :
    Nat.dist a.length b.length ≤ editDistance a b := by
  have forth := (edits_editDistance a b).length_le
  have back := (edits_editDistance a b).symm.length_le
  unfold Nat.dist
  omega

lemma editDistance_le_max (a b : Text) : editDistance a b ≤ max a.length b.length := by
  have bound := distance_le_max a.reverse b.reverse
  rwa [List.length_reverse, List.length_reverse, ← editDistance_eq] at bound

/-- **The edit distance is the least number of edits** that turn one text into the other.  So it is
a metric, lies between the difference of the lengths and the greater length, and the share of the
longer text that `similarity` takes from one lies between zero and one, as a number and as the
double that is calculated for texts whose lengths are words. -/
theorem editDistance_counts_edits (a b : Text) :
    IsLeast {n | Edits n a b} (editDistance a b) ∧
      (editDistance a b = 0 ↔ a = b) ∧
      editDistance a b = editDistance b a ∧
      (∀ c, editDistance a c ≤ editDistance a b + editDistance b c) ∧
      Nat.dist a.length b.length ≤ editDistance a b ∧
      editDistance a b ≤ max a.length b.length ∧
      (0 ≤ (editDistance a b : ℚ) / max a.length b.length ∧
        (editDistance a b : ℚ) / max a.length b.length ≤ 1) ∧
      (max a.length b.length ≠ 0 → max a.length b.length < Decimal.wordBound →
        similarity a b =
            1.0 - Float.ofNat (editDistance a b) / Float.ofNat (max a.length b.length) ∧
          0 ≤ Float.ofNat (editDistance a b) / Float.ofNat (max a.length b.length) ∧
          Float.ofNat (editDistance a b) / Float.ofNat (max a.length b.length) ≤ 1) := by
  have share : (editDistance a b : ℚ) ≤ (max a.length b.length : ℕ) :=
    Nat.cast_le.2 (editDistance_le_max a b)
  refine ⟨⟨edits_editDistance a b, fun n => editDistance_le_of_edits⟩,
    editDistance_eq_zero_iff a b, editDistance_comm a b, editDistance_triangle a b,
    dist_length_le_editDistance a b, editDistance_le_max a b, ⟨?_, ?_⟩, fun nonempty word => ?_⟩
  · positivity
  · exact_mod_cast div_le_one_of_le₀ share (Nat.cast_nonneg _)
  · exact ⟨if_neg nonempty, Decimal.div_ofNat_bounds nonempty word (editDistance_le_max a b)⟩

/-- From one word to another: two characters are replaced and one is put behind. -/
theorem editDistance_counts_edits_kitten :
    editDistance "kitten" "sitting" = 3 ∧
      IsLeast {n | Edits n ("kitten" : Text) ("sitting" : Text)} 3 ∧
      0 ≤ Float.ofNat 3 / Float.ofNat 7 ∧ Float.ofNat 3 / Float.ofNat 7 ≤ 1 := by
  have three : editDistance "kitten" "sitting" = 3 := by decide
  have counted := editDistance_counts_edits "kitten" "sitting"
  rw [three] at counted
  obtain ⟨least, -, -, -, -, -, -, double⟩ := counted
  obtain ⟨-, bounds⟩ := double (by decide) (by decide)
  exact ⟨three, least, bounds⟩

end SnippetLab.Fix

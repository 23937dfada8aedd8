import Mathlib.Data.List.Sort
import Mathlib.Tactic.Lemma
import SnippetLab.Session.NameTable

/-!
# Tables in order

Rows are put into a table one after another, each in its place, and what is put in later counts.

* `NameTable.Sorted` — rows in the order of their names; `mem_iff_get?` says that such a table has
  the rows that are found in it.
* `NameTable.get?_setAll` — **what is found after rows have been put into a table**.
* `NameTable.Sorted.findSome?_congr` — the first row of a kind is the same in tables that have the
  same rows of that kind.
-/

namespace SnippetLab

namespace NameTable

variable {α : Type} {name : Text} {a : α} {table rows : NameTable α}

/-- **The rows are in the order of their names**, and none has the name of another. -/
def Sorted (table : NameTable α) : Prop := table.Pairwise fun m n => m.1 < n.1

/-- Rows put into a table one after another. -/
def setAll (table rows : NameTable α) : NameTable α :=
  rows.foldl (fun table row => table.set row.1 row.2) table

lemma mem_of_mem_set {row : Text × α} (h : row ∈ set name a table) :
    row = (name, a) ∨ row ∈ table := by
  induction table with
  | nil => exact .inl (List.mem_singleton.1 h)
  | cons first rest ih =>
      obtain ⟨other, b⟩ := first
      unfold set at h
      split at h
      · exact (List.mem_cons.1 h).imp_right (List.mem_cons_of_mem _)
      · split at h
        · exact List.mem_cons.1 h
        · rcases List.mem_cons.1 h with rfl | later
          · exact .inr List.mem_cons_self
          · exact (ih later).imp_right (List.mem_cons_of_mem _)

/-- A row goes to its place in the order. -/
lemma Sorted.set (sorted : Sorted table) (name : Text) (a : α) :
    Sorted (NameTable.set name a table) := by
  induction table with
  | nil => exact List.pairwise_singleton _ _
  | cons first rest ih =>
      obtain ⟨other, b⟩ := first
      obtain ⟨least, later⟩ := List.pairwise_cons.1 sorted
      unfold NameTable.set
      split
      · rename_i same
        subst same
        exact List.pairwise_cons.2 ⟨least, later⟩
      · rename_i different
        split
        · rename_i before
          refine List.pairwise_cons.2 ⟨?_, sorted⟩
          exact List.forall_mem_cons.2 ⟨before, fun row mem => List.lt_trans before (least row mem)⟩
        · rename_i behind
          refine List.pairwise_cons.2 ⟨fun row mem => ?_, ih later⟩
          rcases mem_of_mem_set mem with rfl | mem
          · exact (List.le_iff_lt_or_eq.1 (List.not_lt.1 behind)).resolve_right (Ne.symm different)
          · exact least row mem

lemma Sorted.setAll (sorted : Sorted table) (rows : NameTable α) :
    Sorted (NameTable.setAll table rows) := by
  induction rows generalizing table with
  | nil => exact sorted
  | cons row rest ih => exact ih (sorted.set row.1 row.2)

lemma mem_of_mem_setAll {row : Text × α} (h : row ∈ setAll table rows) :
    row ∈ rows ∨ row ∈ table := by
  induction rows generalizing table with
  | nil => exact .inr h
  | cons first rest ih =>
      rcases ih h with later | now
      · exact .inl (List.mem_cons_of_mem _ later)
      · rcases mem_of_mem_set now with rfl | old
        · exact .inl List.mem_cons_self
        · exact .inr old

/-- **A table in order has the rows that are found in it.** -/
lemma mem_iff_get? (sorted : Sorted table) : (name, a) ∈ table ↔ table.get? name = some a := by
  induction table with
  | nil => simp [get?]
  | cons row rest ih =>
      obtain ⟨other, b⟩ := row
      obtain ⟨least, later⟩ := List.pairwise_cons.1 sorted
      by_cases same : name = other
      · subst same
        have once : (name, a) ∉ rest := fun mem => List.lt_irrefl name (least _ mem)
        simp [get?, List.mem_cons, once, eq_comm]
      · have apart : (name == other) = false := beq_false_of_ne same
        rw [List.mem_cons, get?, List.lookup_cons, apart, ih later]
        simp [same, get?]

lemma get?_cons (name : Text) (a : α) (rest : NameTable α) (wanted : Text) :
    get? ((name, a) :: rest) wanted = if wanted = name then some a else get? rest wanted := by
  by_cases same : wanted = name
  · simp [get?, same]
  · have apart : (wanted == name) = false := beq_false_of_ne same
    rw [get?, List.lookup_cons, apart, if_neg same]
    rfl

lemma get?_set (name : Text) (a : α) (table : NameTable α) (wanted : Text) :
    get? (set name a table) wanted = if wanted = name then some a else get? table wanted := by
  by_cases same : wanted = name
  · rw [if_pos same, same, get?_set_self]
  · rw [if_neg same, get?_set_of_ne same]

/-- The first row of a table in order may be looked at last. -/
lemma Sorted.get?_cons_or (sorted : Sorted ((name, a) :: table)) (wanted : Text)
    (otherwise : Option α) : (get? ((name, a) :: table) wanted <|> otherwise) =
      (get? table wanted <|> if wanted = name then some a else otherwise) := by
  rw [get?_cons]
  split
  case isFalse => rfl
  case isTrue same =>
    subst same
    have once : get? table wanted = none := by
      rw [Option.eq_none_iff_forall_ne_some]
      intro b found
      obtain ⟨least, later⟩ := List.pairwise_cons.1 sorted
      exact List.lt_irrefl wanted (least _ ((mem_iff_get? later).2 found))
    rw [once]
    rfl

/-- **What is found after rows have been put into a table**: what the rows say, or else what the
table said. -/
theorem get?_setAll (sorted : Sorted rows) (table : NameTable α) (name : Text) :
    (table.setAll rows).get? name = (rows.get? name <|> table.get? name) := by
  induction rows generalizing table with
  | nil => rfl
  | cons row rest ih =>
      obtain ⟨other, b⟩ := row
      rw [sorted.get?_cons_or, ← get?_set]
      exact ih (List.pairwise_cons.1 sorted).2 _

lemma findSome?_filter_isSome {β γ : Type} (f : β → Option γ) (l : List β) :
    (l.filter fun b => (f b).isSome).findSome? f = l.findSome? f := by
  rw [← List.head?_filterMap, ← List.head?_filterMap, List.filterMap_filter]
  congr 2
  funext b
  cases f b <;> rfl

/-- **The first row with a property is the same in tables in order with the same such rows.** -/
lemma Sorted.findSome?_congr {β : Type} {f : Text × α → Option β} (sorted : Sorted table)
    (sorted' : Sorted rows) (same : ∀ row, (f row).isSome → (row ∈ table ↔ row ∈ rows)) :
    table.findSome? f = rows.findSome? f := by
  have equal : (table.filter fun row => (f row).isSome) = rows.filter fun row => (f row).isSome := by
    have : Std.Irrefl fun m n : Text × α => m.1 < n.1 := ⟨fun m => List.lt_irrefl m.1⟩
    have : Std.Antisymm fun m n : Text × α => m.1 < n.1 :=
      ⟨fun m n before after => absurd (List.lt_trans before after) (List.lt_irrefl m.1)⟩
    refine List.Pairwise.eq_of_mem_iff (sorted.filter _) (sorted'.filter _) fun row => ?_
    rw [List.mem_filter, List.mem_filter]
    exact and_congr_left (same row)
  rw [← findSome?_filter_isSome f table, equal, findSome?_filter_isSome]

end NameTable

end SnippetLab

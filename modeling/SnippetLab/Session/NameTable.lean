import SnippetLab.Text.Basic

/-!
# Tables ordered by name

What a session knows about each variable is kept in a table whose rows are in the order of their
names, character by character.
-/

namespace SnippetLab

/-- Rows of a name and what belongs to it, in the order of the names. -/
abbrev NameTable (α : Type) := List (Text × α)

namespace NameTable

/-- What belongs to a name. -/
def get? {α : Type} (table : NameTable α) (name : Text) : Option α := List.lookup name table

/-- **The table with one row set**: a row of that name is replaced, a new one goes to its place in
the order. -/
def set {α : Type} (name : Text) (a : α) : NameTable α → NameTable α
  | [] => [(name, a)]
  | (other, b) :: rest =>
    if name = other then (name, a) :: rest
    else if name < other then (name, a) :: (other, b) :: rest
    else (other, b) :: set name a rest

/-- The table with every row's entry changed. -/
def mapValues {α β : Type} (f : α → β) (table : NameTable α) : NameTable β :=
  table.map fun (name, a) => (name, f a)

/-- A table of rows in any order; of two rows of one name the later counts. -/
def ofRows {α : Type} (rows : List (Text × α)) : NameTable α :=
  rows.foldl (fun table (name, a) => set name a table) []

/-- The row just set is the one found. -/
theorem get?_set_self {α : Type} (name : Text) (a : α) (table : NameTable α) :
    get? (set name a table) name = some a := by
  induction table with
  | nil => simp [set, get?]
  | cons row rest ih =>
    obtain ⟨other, b⟩ := row
    by_cases h : name = other
    · simp [set, get?, h]
    · by_cases hlt : name < other
      · simp [set, get?, h, hlt]
      · have hb : (name == other) = false := by simpa using h
        simpa [set, get?, h, hlt, List.lookup_cons, hb] using ih

/-- Setting one row leaves the others as they were. -/
theorem get?_set_of_ne {α : Type} {name wanted : Text} (h : wanted ≠ name) (a : α)
    (table : NameTable α) : get? (set name a table) wanted = get? table wanted := by
  have hw : (wanted == name) = false := by simpa using h
  induction table with
  | nil => simp [set, get?, List.lookup_cons, hw]
  | cons row rest ih =>
    obtain ⟨other, b⟩ := row
    by_cases hn : name = other
    · subst hn
      simp [set, get?, List.lookup_cons, hw]
    · by_cases hlt : name < other
      · simp [set, get?, hn, hlt, List.lookup_cons, hw]
      · simp only [set, hn, hlt, if_false, get?, List.lookup_cons] at ih ⊢
        split <;> simp_all

end NameTable

end SnippetLab

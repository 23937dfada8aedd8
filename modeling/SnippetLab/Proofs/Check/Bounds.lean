import Mathlib.Data.List.Induction
import SnippetLab.Proofs.Check.Arrays
import SnippetLab.Proofs.Source.Rows

/-!
# Accesses beyond the end of an array

The search goes through the lines with a table of the lengths it has learnt, and reports the first
access beyond a length in the table.  **A length stays in the table until a line gives another
one**: an assignment of something whose length cannot be seen leaves it there.

* `learn` — the table after some lines.
* `get?_learn_eq_some_iff` — **the table holds the lengths given last.**
* `overrunFrom?_eq_some_iff` — **the search reports the first line with an access beyond a length in
  the table before it.**
* `overrun?_is_access` — what a report says of the code.
* `overrun?_after_assignment` — a report of an access that need not be beyond the end.
-/

namespace SnippetLab.Check

open Source

/-! ## Lengths that are known -/

/-- What a line does to the lengths that are known. -/
def learnLine (language : Language) (lengths : NameTable Nat) (line : Text) : NameTable Nat :=
  match definition? language line with
  | some (name, length) => lengths.set name length
  | none => lengths

/-- **The lengths that are known after some lines.** -/
def learn (language : Language) (lengths : NameTable Nat) (lines : List Text) : NameTable Nat :=
  lines.foldl (learnLine language) lengths

/-- **The last of some lines that gives an array a length gives it this one.** -/
def LastDefines (language : Language) (lines : List Text) (array : Text) (length : Nat) : Prop :=
  ∃ k : Nat, (∃ line ∈ lines[k]?, Defines language line array length) ∧
    ∀ j : Nat, k < j → ∀ line ∈ lines[j]?, ∀ other, ¬Defines language line array other

section Learn

variable {language : Language} {array : Text} {length : Nat}

lemma get?_learnLine (lengths : NameTable Nat) (line : Text) :
    (learnLine language lengths line).get? array = some length ↔
      Defines language line array length ∨
        (∀ other, ¬Defines language line array other) ∧ lengths.get? array = some length := by
  simp only [← definition?_eq_some_iff]
  unfold learnLine
  split
  · rename_i name n given
    by_cases same : array = name
    · subst same
      simp [NameTable.get?_set_self, given]
    · simp [NameTable.get?_set_of_ne same, given, Ne.symm same]
  · rename_i given
    simp [given]

/-- With one more line the length is given by that or, if it gives none, by those before. -/
lemma lastDefines_concat {lines : List Text} {line : Text} :
    LastDefines language (lines ++ [line]) array length ↔
      Defines language line array length ∨
        (∀ other, ¬Defines language line array other) ∧
          LastDefines language lines array length := by
  have last : (lines ++ [line])[lines.length]? = some line := List.getElem?_concat_length
  have inside {j : Nat} (h : j < lines.length) : (lines ++ [line])[j]? = lines[j]? :=
    List.getElem?_append_left h
  have outside {j : Nat} {found : Text} (at_ : (lines ++ [line])[j]? = some found) :
      j < lines.length ∨ j = lines.length := by
    have bound := (List.getElem?_eq_some_iff.1 at_).1
    rw [List.length_append, List.length_singleton] at bound
    omega
  constructor
  · rintro ⟨k, ⟨found, at_, gives⟩, later⟩
    rcases outside at_ with within | rfl
    · refine .inr ⟨later lines.length within line last, k,
        ⟨found, (inside within).symm.trans at_, gives⟩,
        fun j after other there => later j after other ?_⟩
      exact (inside (List.getElem?_eq_some_iff.1 there).1).trans there
    · cases last.symm.trans at_
      exact .inl gives
  · rintro (gives | ⟨none, k, ⟨found, at_, gives⟩, later⟩)
    · refine ⟨lines.length, ⟨line, last, gives⟩, fun j after other there => ?_⟩
      rcases outside there with within | rfl
      · exact absurd after (Nat.lt_asymm within)
      · exact absurd after (Nat.lt_irrefl _)
    · have within := (List.getElem?_eq_some_iff.1 at_).1
      refine ⟨k, ⟨found, (inside within).trans at_, gives⟩, fun j after other there => ?_⟩
      rcases outside there with within | rfl
      · exact later j after other ((inside within).symm.trans there)
      · cases last.symm.trans there
        exact none

/-- Lines that give an array the same lengths give it the same length last. -/
lemma lastDefines_congr {lines others : List Text} (aligned : lines.length = others.length)
    (same : ∀ j : Nat, ∀ line ∈ lines[j]?, ∀ other ∈ others[j]?, ∀ n,
      Defines language line array n ↔ Defines language other array n)
    (h : LastDefines language lines array length) : LastDefines language others array length := by
  obtain ⟨k, ⟨line, at_, gives⟩, later⟩ := h
  obtain ⟨bound, -⟩ := List.getElem?_eq_some_iff.1 at_
  have found : others[k]? = some others[k] := List.getElem?_eq_getElem (aligned ▸ bound)
  refine ⟨k, ⟨_, found, (same k line at_ _ found length).1 gives⟩,
    fun j after other there n gives => ?_⟩
  have bound := (List.getElem?_eq_some_iff.1 there).1
  have found : lines[j]? = some lines[j] := List.getElem?_eq_getElem (aligned ▸ bound)
  exact later j after _ found n ((same j _ found other there n).2 gives)

/-- **The lengths that are known are those given last.** -/
theorem get?_learn_eq_some_iff {lines : List Text} :
    (learn language [] lines).get? array = some length ↔
      LastDefines language lines array length := by
  induction lines using List.reverseRecOn with
  | nil =>
      refine iff_of_false nofun ?_
      rintro ⟨k, ⟨line, ⟨⟩, -⟩, -⟩
  | append_singleton lines line ih =>
      rw [learn, List.foldl_append, List.foldl_cons, List.foldl_nil, ← learn, get?_learnLine,
        lastDefines_concat, ih]

end Learn

/-! ## The search -/

/-- The first access of a line beyond a known length. -/
def overrunAt? (lengths : NameTable Nat) (row : Row) : Option Overrun :=
  (accesses row.stripped).findSome? fun access => (lengths.get? access.1).bind fun length =>
    if length ≤ access.2 then some ⟨access.1, access.2, length, row.number⟩ else none

section Search

variable {language : Language}

lemma overrunFrom?_cons (lengths : NameTable Nat) (row : Row) (rest : List Row) :
    overrunFrom? language lengths (row :: rest) =
      (overrunAt? lengths row).or
        (overrunFrom? language (learnLine language lengths row.text) rest) := by
  rw [overrunFrom?]
  dsimp only
  split
  · rename_i o found
    have found : overrunAt? lengths row = some o := found
    rw [found]
    rfl
  · rename_i found
    have found : overrunAt? lengths row = none := found
    rw [found]
    rfl

/-- **The search reports the first line with an access beyond a length that is known before it.** -/
lemma overrunFrom?_eq_some_iff {lengths : NameTable Nat} {rows : List Row} {o : Overrun} :
    overrunFrom? language lengths rows = some o ↔
      ∃ k row, rows[k]? = some row ∧
        overrunAt? (learn language lengths ((rows.take k).map Row.text)) row = some o ∧
        ∀ j < k, ∀ earlier ∈ rows[j]?,
          overrunAt? (learn language lengths ((rows.take j).map Row.text)) earlier = none := by
  induction rows generalizing lengths with
  | nil =>
      refine iff_of_false nofun ?_
      rintro ⟨k, row, ⟨⟩, -⟩
  | cons first rest ih =>
      have learnt (k : Nat) : learn language lengths (((first :: rest).take (k + 1)).map Row.text) =
          learn language (learnLine language lengths first.text) ((rest.take k).map Row.text) := rfl
      rw [overrunFrom?_cons, Option.or_eq_some_iff, ih]
      constructor
      · rintro (here | ⟨none, k, row, at_, found, before⟩)
        · exact ⟨0, first, rfl, here, nofun⟩
        · refine ⟨k + 1, row, at_, found, fun j earlier other there => ?_⟩
          cases j with
          | zero =>
              cases there
              exact none
          | succ j => exact before j (Nat.lt_of_succ_lt_succ earlier) other there
      · rintro ⟨k, row, at_, found, before⟩
        cases k with
        | zero =>
            cases at_
            exact .inl found
        | succ k =>
            refine .inr ⟨before 0 k.succ_pos first rfl, k, row, at_, found,
              fun j earlier other there => ?_⟩
            exact before (j + 1) (Nat.succ_lt_succ earlier) other there

/-- **What is reported of a line** is an access in it beyond a known length. -/
lemma overrunAt?_eq_some {lengths : NameTable Nat} {row : Row} {o : Overrun}
    (found : overrunAt? lengths row = some o) :
    o.line = row.number ∧ HasAccess row.stripped o.array o.index ∧ o.length ≤ o.index ∧
      lengths.get? o.array = some o.length := by
  obtain ⟨⟨array, index⟩, access, beyond⟩ := List.exists_of_findSome?_eq_some found
  obtain ⟨length, known, report⟩ := Option.bind_eq_some_iff.1 beyond
  split at report
  · rename_i past
    cases report
    exact ⟨rfl, mem_accesses_iff.1 access, past, known⟩
  · cases report

end Search

/-! ## What a report says -/

/-- All lines without comments; literals keep their contents. -/
def codeLines (language : Language) (lines : List Text) : List Text :=
  scanLines (.of language) Lexeme.text false lines

lemma length_codeLines (language : Language) (lines : List Text) :
    (codeLines language lines).length = lines.length := Program.length_scanLines ..

/-- Lines are counted from one. -/
lemma number_of_getElem? {language : Language} {code : Text} {k : Nat} {row : Row}
    (at_ : (Program.ofCode language code).rows[k]? = some row) : row.number = k + 1 := by
  have numbered := congrArg (fun numbers => numbers[k]?) (Program.map_number_ofCode language code)
  rw [List.getElem?_map, at_, Option.map_some] at numbered
  obtain ⟨_, counted⟩ := List.getElem?_eq_some_iff.1 numbered.symm
  rw [← counted, List.getElem_range']
  omega

/-- **A report is of an access in the line, at an index not below the length that the array was last
seen to be given.**  What comments hold is left open: they neither make nor unmake a definition. -/
theorem overrun?_is_access {language : Language} {code : Text} {o : Overrun}
    (found : overrun? (Program.ofCode language code) = some o) :
    let bare := codeLines language code.lines
    ∃ k row, (Program.ofCode language code).rows[k]? = some row ∧ o.line = k + 1 ∧
      HasAccess row.stripped o.array o.index ∧ o.length ≤ o.index ∧
      ((∀ j < k, ∀ line ∈ code.lines[j]?, ∀ plain ∈ bare[j]?, ∀ length,
          Defines language line o.array length ↔ Defines language plain o.array length) →
        LastDefines language (bare.take k) o.array o.length) := by
  obtain ⟨k, row, at_, here, -⟩ := overrunFrom?_eq_some_iff.1 found
  obtain ⟨line, access, past, known⟩ := overrunAt?_eq_some here
  rw [List.map_take, Program.map_text_ofCode] at known
  refine ⟨k, row, at_, line.trans (number_of_getElem? at_), access, past, fun same => ?_⟩
  have aligned : (code.lines.take k).length = ((codeLines language code.lines).take k).length := by
    rw [List.length_take, List.length_take, length_codeLines]
  refine lastDefines_congr aligned (fun j line there other beside => ?_)
    (get?_learn_eq_some_iff.1 known)
  have inside := (List.getElem?_eq_some_iff.1 there).1
  rw [List.length_take] at inside
  have before : j < k := by omega
  rw [List.getElem?_take_of_lt before] at there beside
  exact same j before line there other beside

/-- The same characters in a literal are no access. -/
theorem overrun?_is_access_behind_literal :
    let code : Text := "int[] a = new int[2];\nf(\"a[7]\");\na[2] = 4;"
    overrun? (Program.ofCode .java code) = some ⟨"a", 2, 2, 3⟩ ∧
      ∃ row, (Program.ofCode .java code).rows[2]? = some row ∧ HasAccess row.stripped "a" 2 ∧
        LastDefines .java ((codeLines .java code.lines).take 2) "a" 2 := by
  intro code
  have found : overrun? (Program.ofCode .java code) = some ⟨"a", 2, 2, 3⟩ := by decide
  have uncommented : codeLines .java code.lines = code.lines := by decide
  obtain ⟨k, row, at_, line, access, -, known⟩ := overrun?_is_access found
  obtain rfl : 2 = k := Nat.succ.inj line
  refine ⟨found, row, at_, access, known fun j _ text there plain beside length => ?_⟩
  rw [uncommented] at beside
  cases there.symm.trans beside
  exact Iff.rfl

/-- **An assignment of something whose length cannot be seen is passed over**, and the length before
it is still compared with. -/
theorem overrun?_after_assignment :
    ¬∀ (language : Language) (code : Text) (o : Overrun),
      overrun? (Program.ofCode language code) = some o →
        let bare := codeLines language code.lines
        ∃ k row, (Program.ofCode language code).rows[k]? = some row ∧ o.line = k + 1 ∧
          HasAccess row.stripped o.array o.index ∧ o.length ≤ o.index ∧
          ∃ d < k, (∃ line ∈ bare[d]?, Defines language line o.array o.length) ∧
            ∀ j, d < j → j < k → ∀ line ∈ bare[j]?, ∀ right, ¬Assigns line o.array right := by
  intro claimed
  let code : Text := "int[] a = new int[3];\na = b;\na[5] = 1;"
  have found : overrun? (Program.ofCode .java code) = some ⟨"a", 5, 3, 3⟩ := by decide
  have assigns : Assigns "a = b;" "a" " b" :=
    ⟨"a ", "a", by decide, by decide, by decide, by decide⟩
  have unseen : definition? .java "a = b;" = none := by decide
  obtain ⟨k, row, -, line, -, -, d, before, ⟨text, there, defines⟩, last⟩ :=
    claimed .java code _ found
  obtain rfl : 2 = k := Nat.succ.inj line
  obtain rfl | rfl : d = 0 ∨ d = 1 := by omega
  · exact last 1 (by decide) (by decide) "a = b;" rfl " b" assigns
  · obtain rfl : "a = b;" = text := Option.some.inj there
    cases unseen.symm.trans (definition?_eq_some_iff.2 defines)

end SnippetLab.Check

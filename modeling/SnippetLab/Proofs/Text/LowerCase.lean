import SnippetLab.Proofs.Text.Blanks

/-!
# Lower-casing is a projection

Lower-casing replaces characters one by one, except that a capital sigma looks at its surroundings,
and **what it puts in has no other lower-case form**.  So lower-casing again changes nothing.

* `isUncased` — blanks and the ASCII characters that are no letters: lower-casing neither changes
  them nor brings them in.
* `formAt` — what stands for one character of a text once the text is lower-cased.
* `isSmall` — characters that are their own lower-case form; every form consists of such.
* `lower_lower` — a text that has been lower-cased stays as it is.
* `lower_map_toLower` — the case of ASCII letters makes no difference.
-/

namespace SnippetLab.Text

/-! ## The small forms in the table of capitals -/

/-- The code of the first small form that a run gives. -/
def smallFirst (r : Table.CaseRun) : Nat := (r.first + r.offset).toNat

/-- The code of the last small form that a run gives. -/
def smallLast (r : Table.CaseRun) : Nat := (r.last + r.offset).toNat

/-- **Where the small forms of a run lie.**  They are characters beyond ASCII, but for that of the
Kelvin sign; none is one of the two capitals with a form outside the table; and they lie between two
neighbouring blanks. -/
lemma smallForms_place : ∀ r ∈ Table.lowerRuns,
    (0 ≤ r.first + r.offset ∧
      (smallLast r < 0xD800 ∨ 0xDFFF < smallFirst r ∧ smallLast r < 0x110000)) ∧
    (0x80 ≤ smallFirst r ∨ smallFirst r = 'k'.toNat ∧ smallLast r = 'k'.toNat) ∧
    (smallLast r < 0x130 ∨ 0x130 < smallFirst r) ∧
    (smallLast r < 0x3A3 ∨ 0x3A3 < smallFirst r) ∧
    ∀ b ∈ blankCodes, b < smallFirst r ∨ smallLast r < b := by
  decide +kernel

/-- **A small form lies as far behind the first of its run as the capital behind the first
capital.** -/
lemma code_of_lowerInRun? {r : Table.CaseRun} (listed : r ∈ Table.lowerRuns) {n : Nat} {d : Char}
    (h : lowerInRun? r n = some d) :
    smallFirst r ≤ d.toNat ∧ d.toNat ≤ smallLast r ∧ (d.toNat - smallFirst r) % r.stride = 0 ∧
      d.toNat - smallFirst r ≤ r.last - r.first := by
  obtain ⟨⟨positive, valid⟩, -⟩ := smallForms_place r listed
  unfold lowerInRun? at h
  unfold smallFirst smallLast at *
  split at h
  · rename_i within
    simp only [Bool.and_eq_true, decide_eq_true_eq, beq_iff_eq] at within
    obtain ⟨⟨first, last⟩, member⟩ := within
    cases h
    have character : (n + r.offset).toNat.isValidChar := by
      unfold Nat.isValidChar
      omega
    have code : (Char.ofNat (n + r.offset).toNat).toNat = (n + r.offset).toNat := by
      rw [Char.ofNat, dif_pos character]
      rfl
    rw [code]
    have distance : (n + r.offset).toNat - (r.first + r.offset).toNat = n - r.first := by omega
    rw [distance]
    exact ⟨by omega, by omega, member, by omega⟩
  · cases h

/-- Are the small forms of one run no capitals of another?  They lie outside it, or where it has the
small letters between its capitals. -/
def clears (r other : Table.CaseRun) : Bool :=
  Nat.blt (smallLast r) other.first || Nat.blt other.last (smallFirst r) ||
    (other.stride == 2 && (r.stride == 2 || r.first == r.last) &&
      Nat.ble other.first (smallFirst r) && (smallFirst r - other.first) % 2 == 1)

lemma smallForms_clear :
    (Table.lowerRuns.all fun r => Table.lowerRuns.all (clears r)) = true := by
  decide +kernel

/-- **No small form is a capital of the table.** -/
lemma lowerInRun?_of_small {r other : Table.CaseRun} (listed : r ∈ Table.lowerRuns)
    (there : other ∈ Table.lowerRuns) {n : Nat} {d : Char} (h : lowerInRun? r n = some d) :
    lowerInRun? other d.toNat = none := by
  obtain ⟨first, last, member, width⟩ := code_of_lowerInRun? listed h
  have clear := List.all_eq_true.1 (List.all_eq_true.1 smallForms_clear r listed) other there
  simp only [clears, Nat.blt_eq, Nat.ble_eq, Bool.or_eq_true, Bool.and_eq_true, beq_iff_eq] at clear
  unfold lowerInRun?
  rw [if_neg]
  simp only [Bool.and_eq_true, decide_eq_true_eq, beq_iff_eq, not_and]
  intro within even
  rcases clear with (below | above) | ⟨⟨⟨alternate, same⟩, behind⟩, odd⟩
  · omega
  · omega
  · rw [alternate] at even
    rcases same with stride | single
    · rw [stride] at member
      omega
    · omega

/-! ## Small characters and characters without case -/

/-- Is a character its own lower-case form? -/
def isSmall (c : Char) : Bool := lowerChar c == [c] && c.toNat != 0x3A3

/-- Characters that lower-casing has nothing to do with. -/
def isUncased (c : Char) : Bool := isBlank c || (c.toNat < 0x80 && !c.isAlpha)

/-- The forms outside the table, of the capital I with a dot and of the capital sigma, are small and
have case. -/
lemma otherForms_small {d : Char}
    (h : d ∈ ['i', Char.ofNat 0x307, Char.ofNat 0x3C2, Char.ofNat 0x3C3]) :
    isSmall d = true ∧ isUncased d = false := by
  have all : (['i', Char.ofNat 0x307, Char.ofNat 0x3C2, Char.ofNat 0x3C3].all
      fun d => isSmall d && !isUncased d) = true := by decide
  simpa using List.all_eq_true.1 all d h

/-- What lower-casing does to an ASCII character. -/
lemma ascii_toLower {c : Char} (h : c.toNat < 0x80) : isSmall c.toLower = true ∧
    (isUncased c.toLower = true → c.toLower = c) ∧ (c.isAlpha = false → c.toLower = c) :=
  of_ascii (p := fun c => isSmall c.toLower = true ∧
    (isUncased c.toLower = true → c.toLower = c) ∧ (c.isAlpha = false → c.toLower = c))
    (by decide) h

lemma lowerChar_of_isSmall {c : Char} (h : isSmall c = true) : lowerChar c = [c] := by
  simp only [isSmall, Bool.and_eq_true, beq_iff_eq] at h
  exact h.1

lemma ne_sigma_of_isSmall {c : Char} (h : isSmall c = true) : (c.toNat == 0x3A3) = false := by
  simp only [isSmall, Bool.and_eq_true, bne_iff_ne] at h
  simpa using h.2

/-- What the table gives is small. -/
lemma isSmall_of_lowerInRun? {r : Table.CaseRun} (listed : r ∈ Table.lowerRuns) {n : Nat}
    {d : Char} (h : lowerInRun? r n = some d) : isSmall d = true := by
  obtain ⟨first, last, -, -⟩ := code_of_lowerInRun? listed h
  obtain ⟨-, beyond, dotted, sigma, -⟩ := smallForms_place r listed
  rcases beyond with beyond | ⟨kelvin, single⟩
  · have none : (Table.lowerRuns.findSome? fun other => lowerInRun? other d.toNat) = none :=
      List.findSome?_eq_none_iff.2 fun other there => lowerInRun?_of_small listed there h
    have ascii : ¬d.toNat < 0x80 := by omega
    have dot : ¬(d.toNat == 0x130) = true := by
      rw [beq_iff_eq]
      omega
    have other : d.toNat ≠ 0x3A3 := by omega
    simp [isSmall, lowerChar, ascii, dot, none, other]
  · have code : d.toNat = 'k'.toNat := by omega
    rw [← Char.ofNat_toNat d, code]
    decide

/-- **What stands for a character other than a capital sigma is small.** -/
lemma isSmall_of_mem_lowerChar {c d : Char} (other : ¬(c.toNat == 0x3A3) = true)
    (h : d ∈ lowerChar c) : isSmall d = true := by
  unfold lowerChar at h
  split at h
  · rename_i ascii
    rw [List.mem_singleton.1 h]
    exact (ascii_toLower ascii).1
  · split at h
    · exact (otherForms_small (List.mem_append_left [_, _] h)).1
    · rename_i ascii dotted
      cases found : Table.lowerRuns.findSome? fun r => lowerInRun? r c.toNat with
      | none =>
          rw [found, Option.getD_none, List.mem_singleton] at h
          subst h
          simp only [beq_iff_eq] at other dotted
          simp [isSmall, lowerChar, ascii, dotted, found, other]
      | some form =>
          rw [found, Option.getD_some, List.mem_singleton] at h
          subst h
          obtain ⟨r, listed, here⟩ := List.exists_of_findSome?_eq_some found
          exact isSmall_of_lowerInRun? listed here

/-! ## What has no case -/

lemma isUncased_of_isBlank {c : Char} (h : isBlank c = true) : isUncased c = true := by
  simp [isUncased, h]

/-- What the table gives has case. -/
lemma not_isUncased_of_lowerInRun? {r : Table.CaseRun} (listed : r ∈ Table.lowerRuns) {n : Nat}
    {d : Char} (h : lowerInRun? r n = some d) : isUncased d = false := by
  obtain ⟨first, last, -, -⟩ := code_of_lowerInRun? listed h
  obtain ⟨-, beyond, -, -, apart⟩ := smallForms_place r listed
  rcases beyond with beyond | ⟨kelvin, single⟩
  · have visible : isBlank d = false := by
      cases blank : isBlank d with
      | false => rfl
      | true =>
          have gap := apart _ (mem_blankCodes blank)
          omega
    have ascii : ¬d.toNat < 0x80 := by omega
    simp [isUncased, visible, ascii]
  · have code : d.toNat = 'k'.toNat := by omega
    rw [← Char.ofNat_toNat d, code]
    decide

/-- **A character without case is the lower-case form of itself only.** -/
lemma eq_of_mem_lowerChar {c d : Char} (h : d ∈ lowerChar c) (uncased : isUncased d = true) :
    d = c := by
  unfold lowerChar at h
  split at h
  · rename_i ascii
    have small : d = c.toLower := List.mem_singleton.1 h
    rw [small] at uncased ⊢
    exact (ascii_toLower ascii).2.1 uncased
  · split at h
    · rw [(otherForms_small (List.mem_append_left [_, _] h)).2] at uncased
      cases uncased
    · have small := List.mem_singleton.1 h
      cases found : Table.lowerRuns.findSome? fun r => lowerInRun? r c.toNat with
      | none => rwa [found] at small
      | some form =>
          obtain ⟨r, listed, here⟩ := List.exists_of_findSome?_eq_some found
          rw [found, Option.getD_some] at small
          rw [small, not_isUncased_of_lowerInRun? listed here] at uncased
          cases uncased

/-- **Lower-casing keeps a character without case.** -/
lemma lowerChar_of_isUncased {c : Char} (h : isUncased c = true) : lowerChar c = [c] := by
  have blanks := @of_isBlank (fun c => lowerChar c == [c]) (by decide) c
  simp only [isUncased, Bool.or_eq_true, Bool.and_eq_true, decide_eq_true_eq] at h
  rcases h with blank | ⟨ascii, other⟩
  · simpa using blanks blank
  · have same := (ascii_toLower ascii).2.2 (by simpa using other)
    simp [lowerChar, ascii, same]

/-! ## Texts -/

/-- What stands for a character once a text is lower-cased, with the text before the character,
nearest first, and after it. -/
def formAt (before : Text) (c : Char) (after : Text) : Text :=
  if c.toNat == 0x3A3 then
    [if meetsCased before && !meetsCased after then Char.ofNat 0x3C2 else Char.ofNat 0x3C3]
  else lowerChar c

lemma lowerFrom_cons (before : Text) (c : Char) (r : Text) :
    lowerFrom before (c :: r) = formAt before c r ++ lowerFrom (c :: before) r := rfl

lemma lowerChar_ne_nil (c : Char) : lowerChar c ≠ [] := by
  unfold lowerChar
  split
  · simp
  · split
    · simp
    · simp

lemma formAt_ne_nil (before : Text) (c : Char) (after : Text) : formAt before c after ≠ [] := by
  unfold formAt
  split
  · simp
  · exact lowerChar_ne_nil c

/-- The two forms of a capital sigma. -/
lemma sigmaForms_small {before after : Text} {d : Char}
    (h : d ∈ [if meetsCased before && !meetsCased after then Char.ofNat 0x3C2
      else Char.ofNat 0x3C3]) : isSmall d = true ∧ isUncased d = false := by
  refine otherForms_small (List.mem_append_right ['i', _] ?_)
  rw [List.mem_singleton] at h
  split at h
  · simp [h]
  · simp [h]

/-- **All that lower-casing puts in is small.** -/
lemma isSmall_of_mem_formAt {before after : Text} {c d : Char} (h : d ∈ formAt before c after) :
    isSmall d = true := by
  unfold formAt at h
  split at h
  · exact (sigmaForms_small h).1
  · rename_i other
    exact isSmall_of_mem_lowerChar other h

lemma eq_of_mem_formAt {before after : Text} {c d : Char} (h : d ∈ formAt before c after)
    (uncased : isUncased d = true) : d = c := by
  unfold formAt at h
  split at h
  · rw [(sigmaForms_small h).2] at uncased
    cases uncased
  · exact eq_of_mem_lowerChar h uncased

lemma formAt_of_isUncased (before after : Text) {c : Char} (h : isUncased c = true) :
    formAt before c after = [c] := by
  unfold formAt
  split
  · rename_i sigma
    rw [← Char.ofNat_toNat c, beq_iff_eq.1 sigma] at h
    exact absurd h (by decide)
  · exact lowerChar_of_isUncased h

/-- **Lower-casing brings in no blank.** -/
theorem mem_lower_of_isBlank {t : Text} {d : Char} (h : d ∈ t.lower) (blank : isBlank d = true) :
    d ∈ t := by
  have held : ∀ (t before : Text), d ∈ lowerFrom before t → d ∈ t := by
    intro t
    induction t with
    | nil => exact fun _ h => h
    | cons c r ih =>
        intro before h
        rcases List.mem_append.1 (lowerFrom_cons before c r ▸ h) with here | later
        · rw [eq_of_mem_formAt here (isUncased_of_isBlank blank)]
          exact List.mem_cons_self
        · exact List.mem_cons_of_mem c (ih _ later)
  exact held t [] h

/-- Lower-casing leaves nothing out altogether. -/
lemma lowerFrom_ne_nil {before t : Text} (h : t ≠ []) : lowerFrom before t ≠ [] := by
  cases t with
  | nil => exact absurd rfl h
  | cons c r =>
      rw [lowerFrom_cons]
      exact List.append_ne_nil_of_left_ne_nil (formAt_ne_nil before c r) _

lemma isSmall_of_mem_lowerFrom {before t : Text} {d : Char} (h : d ∈ lowerFrom before t) :
    isSmall d = true := by
  induction t generalizing before with
  | nil => cases h
  | cons c r ih =>
      rcases List.mem_append.1 (lowerFrom_cons before c r ▸ h) with here | later
      · exact isSmall_of_mem_formAt here
      · exact ih later

lemma lowerFrom_of_small {t : Text} (before : Text) (h : ∀ c ∈ t, isSmall c = true) :
    lowerFrom before t = t := by
  induction t generalizing before with
  | nil => rfl
  | cons c r ih =>
      have small := h c List.mem_cons_self
      have form : formAt before c r = [c] := by
        rw [formAt, ne_sigma_of_isSmall small, lowerChar_of_isSmall small]
        rfl
      rw [lowerFrom_cons, form, ih (c :: before) fun d later => h d (List.mem_cons_of_mem c later)]
      rfl

/-- **A text that has been lower-cased stays as it is.** -/
theorem lower_lower (t : Text) : t.lower.lower = t.lower :=
  lowerFrom_of_small [] fun _ h => isSmall_of_mem_lowerFrom h

/-! ## The case of ASCII letters -/

/-- A statement about the capitals of ASCII is decided by its 26 instances. -/
lemma of_isUpper {p : Char → Prop} (all : ∀ n < 26, p (Char.ofNat (0x41 + n))) {c : Char}
    (h : c.isUpper = true) : p c := by
  have bounds : 65 ≤ c.toNat ∧ c.toNat ≤ 90 := by
    have between := of_decide_eq_true (p := c.val ≥ 'A'.val ∧ c.val ≤ 'Z'.val) h
    simp only [ge_iff_le, UInt32.le_iff_toNat_le] at between
    exact between
  have checked := all (c.toNat - 0x41) (by omega)
  rwa [Nat.add_sub_of_le bounds.1, Char.ofNat_toNat] at checked

/-- What is no capital of ASCII has no other small form in it. -/
lemma toLower_of_not_isUpper {c : Char} (small : ¬c.isUpper = true) : c.toLower = c := by
  exact dif_neg fun between => small (decide_eq_true between)

/-- What does not tell the case of ASCII letters does not tell a character from its small form. -/
lemma of_asciiCase {α : Type} (f : Char → α)
    (all : ∀ n < 26, f (Char.ofNat (0x41 + n)).toLower = f (Char.ofNat (0x41 + n))) (c : Char) :
    f c.toLower = f c := by
  by_cases capital : c.isUpper = true
  · exact of_isUpper (p := fun c => f c.toLower = f c) all capital
  · rw [toLower_of_not_isUpper capital]

lemma meetsCased_map_toLower (t : Text) : meetsCased (t.map Char.toLower) = meetsCased t := by
  have cased := of_asciiCase (fun c => inRanges Table.cased c.toNat) (by decide)
  have ignorable := of_asciiCase (fun c => inRanges Table.caseIgnorable c.toNat) (by decide +kernel)
  unfold meetsCased
  induction t with
  | nil => rfl
  | cons c r ih =>
      rw [List.map_cons, List.dropWhile_cons, List.dropWhile_cons, ignorable c]
      by_cases passed : inRanges Table.caseIgnorable c.toNat = true
      · rw [if_pos passed, if_pos passed]
        exact ih
      · rw [if_neg passed, if_neg passed]
        exact cased c

lemma formAt_map_toLower (before : Text) (c : Char) (after : Text) :
    formAt (before.map Char.toLower) c.toLower (after.map Char.toLower) =
      formAt before c after := by
  have sigma := of_asciiCase (fun c => c.toNat == 0x3A3) (by decide) c
  have form := of_asciiCase lowerChar (by decide) c
  rw [formAt, formAt, sigma, form, meetsCased_map_toLower, meetsCased_map_toLower]

/-- **Lower-casing does not tell the case of ASCII letters.** -/
theorem lower_map_toLower (t : Text) : lower (t.map Char.toLower) = t.lower := by
  have same : ∀ before : Text,
      lowerFrom (before.map Char.toLower) (t.map Char.toLower) = lowerFrom before t := by
    induction t with
    | nil => exact fun _ => rfl
    | cons c r ih =>
        intro before
        rw [List.map_cons, lowerFrom_cons, lowerFrom_cons, formAt_map_toLower, ← ih (c :: before)]
        rfl
  exact same []

end SnippetLab.Text

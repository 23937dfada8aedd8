import SnippetLab.Check.Form
import SnippetLab.Proofs.Source.Remarks

/-!
# The form of a snippet with indentation

In Python a line that ends with a colon must be followed by one indented deeper.  The check goes
through the lines with the latest line that counts in its hand; here the lines that count are listed
first, and each is looked at with the one after it.

* `significant` — the lines that count: neither blank nor all comment.
* `Followed` — a line opens no block, or the next one that counts is indented deeper.
* `missingBlock?_eq` — **the check reports the first line that is not followed**, if there is one.
* `Padded` — a code with blank lines and comments put between its lines.
* `formError?_indentation` — **when a snippet has the right form, and which line is reported if
  not**; padding changes the number of that line only.
-/

namespace SnippetLab.Check

open Source

/-! ## Lines that count -/

/-- The rows that are not blank without comments. -/
def significantRows (rows : List Row) : List Row := rows.filter fun row => !row.stripped.isAllBlank

/-- **The lines of a code that count.** -/
def significant (code : Text) : List Row := significantRows (Program.ofCode .python code).rows

/-- Does a line open a block? -/
def opensBlock (row : Row) : Bool := row.stripped.trimEnd.endsWith ":"

/-- **A line opens no block, or the next one is indented deeper.** -/
def Followed (lines : List Row) (k : Nat) : Prop :=
  ∀ row ∈ lines[k]?, opensBlock row = true →
    ∃ next ∈ lines[k + 1]?, indentation row.text < indentation next.text

instance (lines : List Row) (k : Nat) : Decidable (Followed lines k) :=
  inferInstanceAs (Decidable (∀ row ∈ lines[k]?, opensBlock row = true →
    ∃ next ∈ lines[k + 1]?, indentation row.text < indentation next.text))

/-- The first line that is not followed. -/
def firstUnfollowed? : List Row → Option Row
  | [] => none
  | row :: rest => if Followed (row :: rest) 0 then firstUnfollowed? rest else some row

section Lines

variable {row next : Row} {lines rest : List Row} {k : Nat}

@[simp] lemma followed_nil (k : Nat) : Followed [] k := nofun

@[simp] lemma followed_cons_succ : Followed (row :: rest) (k + 1) ↔ Followed rest k := Iff.rfl

lemma followed_of_not_opensBlock (plain : opensBlock row = false) : Followed (row :: rest) 0 := by
  rintro _ ⟨⟩ opens
  rw [plain] at opens
  cases opens

/-- A line that opens a block is not the last one. -/
lemma not_followed_singleton (opens : opensBlock row = true) : ¬Followed [row] 0 := fun h => by
  obtain ⟨next, missing, -⟩ := h row rfl opens
  cases missing

lemma followed_cons_cons (opens : opensBlock row = true) :
    Followed (row :: next :: rest) 0 ↔ indentation row.text < indentation next.text := by
  constructor
  · intro h
    obtain ⟨_, ⟨⟩, deeper⟩ := h row rfl opens
    exact deeper
  · rintro deeper _ ⟨⟩ -
    exact ⟨next, rfl, deeper⟩

/-- A line that is followed is passed over. -/
lemma firstUnfollowed?_cons (followed : Followed (row :: rest) 0) :
    firstUnfollowed? (row :: rest) = firstUnfollowed? rest := by
  rw [firstUnfollowed?, if_pos followed]

/-- **All lines are followed** if there is no first one that is not. -/
lemma firstUnfollowed?_eq_none_iff : firstUnfollowed? lines = none ↔ ∀ k, Followed lines k := by
  induction lines with
  | nil => exact iff_of_true rfl followed_nil
  | cons row rest ih =>
      rw [firstUnfollowed?]
      split
      · rename_i followed
        rw [ih]
        refine ⟨fun h k => ?_, fun h k => followed_cons_succ.1 (h (k + 1))⟩
        cases k with
        | zero => exact followed
        | succ k => exact h k
      · rename_i unfollowed
        exact iff_of_false nofun fun h => unfollowed (h 0)

/-- **The first line that is not followed** is not, and all before it are. -/
lemma firstUnfollowed?_eq_some_iff : firstUnfollowed? lines = some row ↔
    ∃ k, lines[k]? = some row ∧ ¬Followed lines k ∧ ∀ j < k, Followed lines j := by
  induction lines with
  | nil =>
      refine iff_of_false nofun ?_
      rintro ⟨k, _, unfollowed, -⟩
      exact unfollowed (followed_nil k)
  | cons first rest ih =>
      rw [firstUnfollowed?]
      split
      · rename_i followed
        rw [ih]
        constructor
        · rintro ⟨k, found, unfollowed, before⟩
          refine ⟨k + 1, found, unfollowed, fun j earlier => ?_⟩
          cases j with
          | zero => exact followed
          | succ j => exact before j (Nat.lt_of_succ_lt_succ earlier)
        · rintro ⟨k, found, unfollowed, before⟩
          cases k with
          | zero => exact absurd followed unfollowed
          | succ k =>
              exact ⟨k, found, unfollowed, fun j earlier =>
                before (j + 1) (Nat.succ_lt_succ earlier)⟩
      · rename_i unfollowed
        constructor
        · rintro ⟨⟩
          exact ⟨0, rfl, unfollowed, nofun⟩
        · rintro ⟨k, found, -, before⟩
          cases k with
          | zero => exact found
          | succ k => exact absurd (before 0 k.succ_pos) unfollowed

end Lines

/-! ## The check -/

lemma significantRows_cons (row : Row) (rest : List Row) :
    significantRows (row :: rest) =
      if row.stripped.isAllBlank then significantRows rest else row :: significantRows rest := by
  rw [significantRows, List.filter_cons]
  cases row.stripped.isAllBlank <;> rfl

/-- **The check reports the first line that is not followed**; `opener` is the latest line that
counts, if it opens a block. -/
lemma missingBlock?_eq {rows : List Row} {number : Nat}
    (numbered : rows.map Row.number = List.range' number rows.length) (opener : Option Row)
    (opens : ∀ row ∈ opener, opensBlock row = true) :
    missingBlock? (opener.map fun row => (row.number, indentation row.text)) number
        (rows.map fun row => (row.text, row.stripped)) =
      (firstUnfollowed? (opener.toList ++ significantRows rows)).map Row.number := by
  induction rows generalizing number opener with
  | nil =>
      cases opener with
      | none => rfl
      | some row =>
          show _ = (firstUnfollowed? [row]).map Row.number
          rw [firstUnfollowed?, if_neg (not_followed_singleton (opens row rfl))]
          rfl
  | cons row rest ih =>
      rw [List.map_cons, List.length_cons, List.range'_succ, List.cons.injEq] at numbered
      obtain ⟨rfl, numbered⟩ := numbered
      rw [List.map_cons, missingBlock?, significantRows_cons]
      split
      · exact ih numbered opener opens
      · -- from here on the line is the latest
        have latest : missingBlock?
            (if opensBlock row then some (row.number, indentation row.text) else none)
            (row.number + 1) (rest.map fun row => (row.text, row.stripped)) =
              (firstUnfollowed? (row :: significantRows rest)).map Row.number := by
          by_cases opening : opensBlock row = true
          · rw [if_pos opening]
            refine ih numbered (some row) ?_
            rintro _ ⟨⟩
            exact opening
          · rw [firstUnfollowed?_cons (followed_of_not_opensBlock (by simpa using opening)),
              if_neg opening]
            exact ih numbered none (by simp)
        cases opener with
        | none => exact latest
        | some before =>
            have followed : Followed (before :: row :: significantRows rest) 0 ↔
                indentation before.text < indentation row.text :=
              followed_cons_cons (opens before rfl)
            show (if indentation row.text ≤ indentation before.text then some before.number
              else _) = (firstUnfollowed? (before :: row :: significantRows rest)).map Row.number
            rw [firstUnfollowed?]
            split
            · rename_i shallow
              rw [if_neg (followed.not.2 (Nat.not_lt.2 shallow))]
              rfl
            · rename_i deeper
              rw [if_pos (followed.2 (Nat.not_le.1 deeper))]
              exact latest

/-- The lines as the check is given them. -/
lemma map_pairs_ofCode (code : Text) :
    (Program.ofCode .python code).rows.map (fun row => (row.text, row.stripped)) =
      code.lines.zip (stripLines .python code.lines) := by
  rw [Program.map_ofCode .python code _ Prod.fst fun _ _ _ _ => rfl, Program.map_fst_zip_depths]

/-- **What the check finds in a code that is not blank.** -/
lemma formError?_python {code : Text} (solid : ∃ c ∈ code, Text.isBlank c = false) :
    formError? .python code =
      (firstUnfollowed? (significant code)).map fun row => .missingBlock row.number := by
  have notBlank : ¬code.isAllBlank = true := by
    simpa [Text.isAllBlank] using solid
  have found := missingBlock?_eq (Program.map_number_ofCode .python code) none (by simp)
  rw [map_pairs_ofCode] at found
  unfold formError?
  simp only [if_neg notBlank, Language.usesBraces, Bool.false_eq_true, if_false]
  exact (congrArg (Option.map FormError.missingBlock) found).trans (Option.map_map ..)

/-! ## Padding -/

/-- **A code with blank lines and comments put between its lines**, with any indentation. -/
inductive Padded : (lines padded : List Text) → Prop where
  | nil : Padded [] []
  | line {lines padded : List Text} (line : Text) (rest : Padded lines padded) :
      Padded (line :: lines) (line :: padded)
  | idle {lines padded : List Text} {line : Text} (idle : LooksIdle .python line)
      (rest : Padded lines padded) : Padded lines (line :: padded)

/-- Without block comments every line is stripped by itself. -/
lemma stripLines_eq_map {language : Language} (hashes : language.usesBraces = false)
    (lines : List Text) : stripLines language lines = lines.map (strip language) := by
  unfold stripLines
  induction lines with
  | nil => rfl
  | cons line rest ih =>
      have closed : (lexemes (.of language) false line).2 = false :=
        scan_closed (by simp [CommentStyle.of, hashes]) (by simp) line
      rw [scanLines, closed, ih]
      rfl

/-- Of a blank line or a comment stripping leaves blanks only. -/
lemma isAllBlank_strip {line : Text} (idle : LooksIdle .python line) :
    (strip .python line).isAllBlank = true := by
  have alike : SeenAlike .python false line := nofun
  exact isAllBlank_outline_iff.2 ((looksIdle_iff_bare_iff.2 alike).1 idle)

/-- The texts of the lines that count are those that are not blank when stripped. -/
lemma map_significant (code : Text) :
    (significant code).map (fun row => (row.text, row.stripped)) =
      (code.lines.filter fun line => !(strip .python line).isAllBlank).map fun line =>
        (line, strip .python line) := by
  have pairs : (Program.ofCode .python code).rows.map (fun row => (row.text, row.stripped)) =
      code.lines.map fun line => (line, strip .python line) := by
    rw [map_pairs_ofCode, stripLines_eq_map rfl, ← List.map_id code.lines, List.map_map,
      List.map_map, List.zip_map']
    rfl
  have kept := congrArg (List.filter fun pair => !pair.2.isAllBlank) pairs
  rwa [List.filter_map, List.filter_map] at kept

lemma Padded.filter {lines padded : List Text} (h : Padded lines padded) :
    (padded.filter fun line => !(strip .python line).isAllBlank) =
      lines.filter fun line => !(strip .python line).isAllBlank := by
  induction h with
  | nil => rfl
  | line line rest ih => rw [List.filter_cons, List.filter_cons, ih]
  | idle idle rest ih => rw [List.filter_cons_of_neg (by simp [isAllBlank_strip idle]), ih]

lemma Padded.mem {lines padded : List Text} (h : Padded lines padded) :
    ∀ line ∈ lines, line ∈ padded := by
  induction h with
  | nil => exact fun _ listed => listed
  | line line rest ih =>
      exact List.forall_mem_cons.2 ⟨.head _, fun other listed => .tail _ (ih other listed)⟩
  | idle idle rest ih => exact fun line listed => .tail _ (ih line listed)

/-- A line is followed or not by its text and those of the other lines. -/
lemma followed_congr {lines others : List Row}
    (same : lines.map (fun row => (row.text, row.stripped)) =
      others.map fun row => (row.text, row.stripped)) (k : Nat) :
    Followed lines k ↔ Followed others k := by
  have pairs (lines : List Row) : Followed lines k ↔
      ∀ pair ∈ (lines.map fun row => (row.text, row.stripped))[k]?,
        pair.2.trimEnd.endsWith ":" = true →
          ∃ next ∈ (lines.map fun row => (row.text, row.stripped))[k + 1]?,
            indentation pair.1 < indentation next.1 := by
    simp [Followed, opensBlock]
  rw [pairs, pairs, same]

/-- **The check reports a line that counts.** -/
def Reports (code : Text) (k : Nat) : Prop :=
  ∃ row, (significant code)[k]? = some row ∧
    formError? .python code = some (.missingBlock row.number)

/-- Lines that count have different numbers. -/
lemma nodup_number_significant (code : Text) : ((significant code).map Row.number).Nodup := by
  have sublist : ((significant code).map Row.number).Sublist
      ((Program.ofCode .python code).rows.map Row.number) := List.filter_sublist.map _
  rw [Program.map_number_ofCode] at sublist
  exact sublist.nodup List.nodup_range'

lemma reports_iff {code : Text} (solid : ∃ c ∈ code, Text.isBlank c = false) {k : Nat} :
    Reports code k ↔
      ¬Followed (significant code) k ∧ ∀ j < k, Followed (significant code) j := by
  unfold Reports
  rw [formError?_python solid]
  constructor
  · rintro ⟨row, found, told⟩
    obtain ⟨row', first, same⟩ := Option.map_eq_some_iff.1 told
    obtain ⟨k', found', unfollowed, before⟩ := firstUnfollowed?_eq_some_iff.1 first
    obtain rfl : k' = k := by
      have inside : k' < ((significant code).map Row.number).length := by
        rw [List.length_map]
        exact (List.getElem?_eq_some_iff.1 found').1
      refine (List.getElem?_inj inside (nodup_number_significant code)).1 ?_
      rw [List.getElem?_map, List.getElem?_map, found, found']
      exact congrArg some (FormError.missingBlock.inj same)
    exact ⟨unfollowed, before⟩
  · rintro ⟨unfollowed, before⟩
    obtain ⟨row, found, -⟩ := not_forall₂.1 unfollowed
    exact ⟨row, found, congrArg (Option.map _) (firstUnfollowed?_eq_some_iff.2
      ⟨k, found, unfollowed, before⟩)⟩

lemma flatten_consHead (c : Char) (lines : List Text) :
    (Text.consHead c lines).flatten = c :: lines.flatten := by
  cases lines <;> rfl

/-- A character that ends no line stands in one. -/
lemma mem_flatten_lines {t : Text} {c : Char} (mem : c ∈ t) (feed : c ≠ '\n') (return_ : c ≠ '\r') :
    c ∈ t.lines.flatten := by
  fun_induction Text.lines t with
  | case1 => exact mem
  | case2 r ih => exact ih ((List.mem_cons.1 mem).resolve_left feed)
  | case3 r ih =>
      exact ih ((List.mem_cons.1 ((List.mem_cons.1 mem).resolve_left return_)).resolve_left feed)
  | case4 d r _ _ ih =>
      rw [flatten_consHead]
      exact List.mem_cons.2 ((List.mem_cons.1 mem).imp_right ih)

/-- A padded code is not blank if the code is not. -/
lemma Padded.solid {code padded : Text} (h : Padded code.lines padded.lines)
    (solid : ∃ c ∈ code, Text.isBlank c = false) : ∃ c ∈ padded, Text.isBlank c = false := by
  obtain ⟨c, mem, dark⟩ := solid
  have feed : c ≠ '\n' := by
    rintro rfl
    exact absurd dark (by decide)
  have return_ : c ≠ '\r' := by
    rintro rfl
    exact absurd dark (by decide)
  obtain ⟨line, listed, within⟩ := List.mem_flatten.1 (mem_flatten_lines mem feed return_)
  exact ⟨c, (Text.isInfix_of_mem_lines (h.mem line listed)).subset within, dark⟩

/-- **When a snippet with indentation has the right form, and which line is reported if not**: the
first one that opens a block and is not followed by a deeper one.  Blank lines and comments make no
difference but to the number of that line. -/
theorem formError?_indentation {code : Text} (solid : ∃ c ∈ code, Text.isBlank c = false) :
    (formError? .python code = none ↔ ∀ k, Followed (significant code) k) ∧
    (∀ text, (formError? .python code).map FormError.message = some text ↔
      ∃ k row, (significant code)[k]? = some row ∧ ¬Followed (significant code) k ∧
        (∀ j < k, Followed (significant code) j) ∧
        text = "IndentationError: expected an indented block after line " ++
          Nat.toDigits 10 row.number) ∧
    ∀ padded : Text, Padded code.lines padded.lines →
      (significant padded).map Row.text = (significant code).map Row.text ∧
      (formError? .python padded = none ↔ formError? .python code = none) ∧
      ∀ k, Reports padded k ↔ Reports code k := by
  have form {code : Text} (solid : ∃ c ∈ code, Text.isBlank c = false) :
      formError? .python code = none ↔ ∀ k, Followed (significant code) k := by
    rw [formError?_python solid, Option.map_eq_none_iff, firstUnfollowed?_eq_none_iff]
  refine ⟨form solid, fun text => ?_, fun padded added => ?_⟩
  · rw [formError?_python solid, Option.map_map, Option.map_eq_some_iff]
    constructor
    · rintro ⟨row, first, rfl⟩
      obtain ⟨k, found, unfollowed, before⟩ := firstUnfollowed?_eq_some_iff.1 first
      exact ⟨k, row, found, unfollowed, before, rfl⟩
    · rintro ⟨k, row, found, unfollowed, before, rfl⟩
      exact ⟨row, firstUnfollowed?_eq_some_iff.2 ⟨k, found, unfollowed, before⟩, rfl⟩
  · have pairs : (significant padded).map (fun row => (row.text, row.stripped)) =
        (significant code).map fun row => (row.text, row.stripped) := by
      rw [map_significant, map_significant, added.filter]
    have followed := followed_congr pairs
    refine ⟨?_, ?_, fun k => ?_⟩
    · have texts := congrArg (List.map Prod.fst) pairs
      rwa [List.map_map, List.map_map] at texts
    · rw [form (added.solid solid), form solid, forall_congr' followed]
    · rw [reports_iff (added.solid solid), reports_iff solid, followed]
      exact and_congr_right fun _ => forall₂_congr fun j _ => followed j

/-- A comment behind the colon and one indented deeper on a line of its own. -/
theorem formError?_indentation_commented :
    let code : Text := "if a: # b\nc = 1"
    let padded : Text := "\nif a: # b\n    # d:\nc = 1"
    (∃ c ∈ code, Text.isBlank c = false) ∧ Padded code.lines padded.lines ∧ Reports padded 0 ∧
      (formError? .python code).map FormError.message =
        some "IndentationError: expected an indented block after line 1" := by
  intro code padded
  have solid : ∃ c ∈ code, Text.isBlank c = false := ⟨'i', by decide, by decide⟩
  have added : Padded code.lines padded.lines :=
    .idle (.inl rfl) (.line _ (.idle (.inr (by decide)) (.line _ .nil)))
  obtain ⟨-, message, same⟩ := formError?_indentation solid
  have unfollowed : ¬Followed (significant code) 0 := by decide
  have told := (message _).2 ⟨0, _, rfl, unfollowed, nofun, rfl⟩
  exact ⟨solid, added, ((same padded added).2.2 0).2 ⟨_, rfl, by decide⟩, told⟩

end SnippetLab.Check

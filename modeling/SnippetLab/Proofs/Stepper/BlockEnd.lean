import Mathlib.Algebra.Ring.Int.Defs
import Mathlib.Data.Nat.Find
import SnippetLab.Proofs.Source.Braces
import SnippetLab.Proofs.Stepper.Resume

/-!
# Leaving a block

Stepping out of a block goes on to the line that closes it.  The stepper looks for that line by
counting lines, not braces: **a line with an opening brace counts up once and one with a closing
brace counts down once**, however many of them it holds and whichever comes first.

* `lineBalance` — braces counted line by line, as the stepper counts them.
* `Tidy` — the lines that count alike in both ways, and by `tidy_iff` these are all.
* `stepOut_counts_lines` — how far stepping out goes, and when that is the end of the block.
-/

namespace SnippetLab

open Source

/-! ## The braces of a line -/

section Braces

variable {opened : Int} {t : Text}

/-- **What a line counts for**: once up for its opening braces and once down for its closing
ones. -/
def lineChange (t : Text) : Int := (if '{' ∈ t then 1 else 0) - (if '}' ∈ t then 1 else 0)

/-- **A line with one brace at most, or one that closes just the braces it opens.** -/
def Tidy (t : Text) : Prop :=
  t.count '{' + t.count '}' ≤ 1 ∨ (balance '{' '}' t = 0 ∧ ¬DropsBelow 0 t)

instance (t : Text) : Decidable (Tidy t) := inferInstanceAs (Decidable (_ ∨ _))

/-- A tidy line counts for what its braces count for. -/
lemma Tidy.balance_eq (h : Tidy t) : balance '{' '}' t = lineChange t := by
  have opening : '{' ∈ t ↔ 0 < t.count '{' := List.count_pos_iff.symm
  have closing : '}' ∈ t ↔ 0 < t.count '}' := List.count_pos_iff.symm
  unfold lineChange
  rw [if_congr opening rfl rfl, if_congr closing rfl rfl]
  unfold Tidy balance at *
  split_ifs <;> omega

/-- In a tidy line the count drops only if it has dropped at the end of the line. -/
lemma Tidy.dropsBelow_iff (h : Tidy t) (open_ : 0 ≤ opened) :
    DropsBelow opened t ↔ opened + lineChange t < 0 := by
  rw [← h.balance_eq]
  refine ⟨?_, fun drops => ⟨t, List.prefix_rfl, drops⟩⟩
  rintro ⟨p, begun, drops⟩
  rcases h with few | ⟨-, never⟩
  · have fewer := begun.sublist.count_le '}'
    unfold balance at *
    omega
  · exact absurd ⟨p, begun, by omega⟩ never

/-- **The tidy lines are those that count alike in both ways**, however many braces are open. -/
theorem tidy_iff : Tidy t ↔
    balance '{' '}' t = lineChange t ∧
      ∀ opened : Nat, DropsBelow opened t ↔ (opened : Int) + lineChange t < 0 := by
  refine ⟨fun h => ⟨h.balance_eq, fun opened => h.dropsBelow_iff (Int.natCast_nonneg opened)⟩, ?_⟩
  rintro ⟨same, drops⟩
  have atStart : DropsBelow 0 t ↔ 0 + lineChange t < 0 := drops 0
  have opening : '{' ∉ t → t.count '{' = 0 := List.count_eq_zero.2
  have closing : '}' ∉ t → t.count '}' = 0 := List.count_eq_zero.2
  unfold lineChange balance at *
  by_cases opens : '{' ∈ t
  · by_cases closes : '}' ∈ t
    · simp only [opens, closes, if_true] at same atStart
      exact .inr ⟨same, fun dropped => absurd (atStart.1 dropped) (by decide)⟩
    · simp only [opens, closes, if_true, if_false, closing closes] at same
      exact .inl (by rw [closing closes]; omega)
  · by_cases closes : '}' ∈ t
    · simp only [opens, closes, if_true, if_false, opening opens] at same
      exact .inl (by rw [opening opens]; omega)
    · exact .inl (by rw [opening opens, closing closes]; omega)

end Braces

/-! ## Counting lines -/

/-- The texts of some lines without literals and comments, one after another. -/
def joined (rows : List Row) : Text := rows.flatMap Row.stripped

/-- **How many more of some lines hold an opening brace than hold a closing one.** -/
def lineBalance (rows : List Row) : Int := (rows.map fun row => lineChange row.stripped).sum

lemma lineBalance_cons (row : Row) (rest : List Row) :
    lineBalance (row :: rest) = lineChange row.stripped + lineBalance rest := by
  simp [lineBalance]

/-- What a line does to the count of the stepper. -/
lemma rowsToBlockEnd_cons (opened : Nat) (row : Row) (rest : List Row) :
    rowsToBlockEnd opened (row :: rest) =
      if (opened : Int) + lineChange row.stripped < 0 then 1
      else rowsToBlockEnd ((opened : Int) + lineChange row.stripped).toNat rest + 1 := by
  unfold lineChange
  rw [rowsToBlockEnd]
  by_cases opens : '{' ∈ row.stripped
  · by_cases closes : '}' ∈ row.stripped
    · simp [opens, closes]
    · have more : ¬((opened : Int) + 1 < 0) := by omega
      simp [opens, closes, more]
  · by_cases closes : '}' ∈ row.stripped
    · cases opened with
      | zero => simp [opens, closes]
      | succ n =>
          have level : ((n + 1 : Nat) : Int) + (0 - 1) = n := by omega
          have stays : ¬((n : Int) < 0) := by omega
          simp only [opens, closes, if_true, if_false, level, stays, Int.toNat_natCast]
    · simp [opens, closes]

/-- **Stepping out goes on to the first line at which more lines have held a closing brace than an
opening one**, or else to the last. -/
theorem isLeast_rowsToBlockEnd (opened : Nat) (rows : List Row) :
    IsLeast {n | n = rows.length ∨ (opened : Int) + lineBalance (rows.take n) < 0}
      (rowsToBlockEnd opened rows) := by
  induction rows generalizing opened with
  | nil => exact ⟨.inl rfl, fun n _ => Nat.zero_le n⟩
  | cons row rest ih =>
      have least : ∀ n ∈ {n | n = (row :: rest).length ∨
          (opened : Int) + lineBalance ((row :: rest).take n) < 0}, ∃ m, n = m + 1 := by
        rintro n (rfl | drops)
        · exact ⟨rest.length, rfl⟩
        · cases n with
          | zero =>
              simp only [List.take_zero, lineBalance, List.map_nil, List.sum_nil] at drops
              omega
          | succ m => exact ⟨m, rfl⟩
      rw [rowsToBlockEnd_cons]
      split
      · rename_i drops
        refine ⟨.inr ?_, fun n mem => ?_⟩
        · simpa [lineBalance] using drops
        · obtain ⟨m, rfl⟩ := least n mem
          exact Nat.succ_le_succ (Nat.zero_le m)
      · rename_i stays
        -- from here on the count begins with what is open behind the line
        have begins : ((((opened : Int) + lineChange row.stripped).toNat : Nat) : Int) =
            opened + lineChange row.stripped := Int.toNat_of_nonneg (Int.not_lt.1 stays)
        obtain ⟨found, below⟩ := ih ((opened : Int) + lineChange row.stripped).toNat
        simp only [begins] at found below
        refine ⟨?_, fun n mem => ?_⟩
        · rcases found with last | drops
          · exact .inl (congrArg (· + 1) last)
          · refine .inr ?_
            rwa [List.take_succ_cons, lineBalance_cons, ← Int.add_assoc]
        · obtain ⟨m, rfl⟩ := least n mem
          refine Nat.succ_le_succ (below ?_)
          rcases mem with last | drops
          · exact .inl (Nat.succ.inj last)
          · rw [List.take_succ_cons, lineBalance_cons, ← Int.add_assoc] at drops
            exact .inr drops

/-- **Among tidy lines braces drop below where lines do.** -/
lemma dropsBelow_joined_iff {opened : Int} {rows : List Row}
    (tidy : ∀ row ∈ rows, Tidy row.stripped) (open_ : 0 ≤ opened) :
    DropsBelow opened (joined rows) ↔
      ∃ n ≤ rows.length, opened + lineBalance (rows.take n) < 0 := by
  induction rows generalizing opened with
  | nil =>
      constructor
      · rintro ⟨p, begun, drops⟩
        rw [List.prefix_nil.1 begun] at drops
        exact ⟨0, Nat.le_refl 0, drops⟩
      · rintro ⟨n, -, drops⟩
        rw [List.take_nil] at drops
        exact absurd drops (by simpa [lineBalance] using open_)
  | cons row rest ih =>
      rw [List.forall_mem_cons] at tidy
      have whole : joined (row :: rest) = row.stripped ++ joined rest := rfl
      rw [whole, dropsBelow_append, tidy.1.balance_eq, tidy.1.dropsBelow_iff open_]
      by_cases drops : opened + lineChange row.stripped < 0
      · refine iff_of_true (.inl drops) ⟨1, Nat.succ_le_succ (Nat.zero_le _), ?_⟩
        simpa [lineBalance] using drops
      · rw [or_iff_right drops, ih tidy.2 (Int.not_lt.1 drops)]
        constructor
        · rintro ⟨n, within, later⟩
          refine ⟨n + 1, Nat.succ_le_succ within, ?_⟩
          rwa [List.take_succ_cons, lineBalance_cons, ← Int.add_assoc]
        · rintro ⟨n, within, later⟩
          cases n with
          | zero => exact absurd later (by simpa [lineBalance] using open_)
          | succ n =>
              rw [List.take_succ_cons, lineBalance_cons, ← Int.add_assoc] at later
              exact ⟨n, Nat.le_of_succ_le_succ within, later⟩

/-- **The end of the block is found if all lines up to it are tidy.** -/
theorem rowsToBlockEnd_of_tidy {rows : List Row} {last : Nat}
    (least : IsLeast {n | n = rows.length ∨ DropsBelow 0 (joined (rows.take n))} last)
    (tidy : ∀ row ∈ rows.take last, Tidy row.stripped) : rowsToBlockEnd 0 rows = last := by
  obtain ⟨found, below⟩ := least
  have within : last ≤ rows.length := below (.inl rfl)
  -- up to the end of the block the two counts drop at the same lines
  have agree : ∀ n ≤ last, DropsBelow 0 (joined (rows.take n)) ↔
      ∃ m ≤ n, 0 + lineBalance (rows.take m) < 0 := by
    intro n before
    have part : ∀ row ∈ rows.take n, Tidy row.stripped := fun row mem =>
      tidy row ((List.take_subset_take_left rows before) mem)
    rw [dropsBelow_joined_iff part (Int.le_refl 0),
      List.length_take_of_le (Nat.le_trans before within)]
    refine exists_congr fun m => and_congr_right fun inside => ?_
    rw [List.take_take, Nat.min_eq_left inside]
  refine (isLeast_rowsToBlockEnd 0 rows).unique ⟨?_, ?_⟩
  · rcases found with atEnd | drops
    · exact .inl atEnd
    · obtain ⟨m, inside, dropped⟩ := (agree last (Nat.le_refl last)).1 drops
      have first : last ≤ m :=
        below (.inr ((agree m inside).2 ⟨m, Nat.le_refl m, dropped⟩))
      rw [Nat.le_antisymm inside first] at dropped
      exact .inr dropped
  · rintro n (rfl | drops)
    · exact within
    · by_contra before
      have earlier : n ≤ last := Nat.le_of_lt (Nat.not_le.1 before)
      exact before (below (.inr ((agree n earlier).2 ⟨n, Nat.le_refl n, drops⟩)))

namespace Stepper

/-! ## Stepping out -/

section StepOut

variable {s : Stepper}

/-- The lines from the one that a run goes on with through another. -/
def through (s : Stepper) (line : Nat) : List Row :=
  s.linesFrom s.startLine (line + 1 - s.startLine)

lemma take_begun_remaining (s : Stepper) (count : Nat) :
    s.begun.remaining.take count = s.linesFrom s.startLine count := by
  rw [remaining, begun_program, linesFrom, ← begun_position, Nat.add_sub_cancel]

/-- The last line of a run, as a number of lines to run. -/
lemma isLeast_count {p : List Row → Prop} (steady : s.Steady) (none : ¬p []) {last : Nat}
    (least : IsLeast {line | line = s.program.length ∨ p (s.through line)} last) :
    s.startLine ≤ last + 1 ∧
      IsLeast {n | n = s.begun.remaining.length ∨ p (s.begun.remaining.take n)}
        (last + 1 - s.startLine) := by
  obtain ⟨found, below⟩ := least
  have start := s.begun_position
  have inRange := startLine_le steady
  refine ⟨?_, ?_, ?_⟩
  · rcases found with rfl | here
    · exact inRange
    · by_contra before
      rw [through, Nat.sub_eq_zero_of_le (Nat.le_of_lt (Nat.not_le.1 before)), linesFrom,
        List.take_zero] at here
      exact none here
  · rcases found with rfl | here
    · exact .inl s.length_begun_remaining.symm
    · exact .inr (by rwa [take_begun_remaining])
  · rintro n later
    have reached : s.startLine + n - 1 + 1 - s.startLine = n := by omega
    have beyond : last ≤ s.startLine + n - 1 := by
      refine below ?_
      rcases later with rfl | here
      · rw [length_begun_remaining]
        exact .inl (by omega)
      · refine .inr ?_
        rwa [through, reached, ← take_begun_remaining]
    omega

/-- What a run up to a line has done, however it comes to rest. -/
lemma RunsUpTo.of_rests (numbered : s.Numbered) {line : Nat} (ahead : s.startLine ≤ line)
    (within : line ≤ s.program.length + 1) {rest : Stepper × List Event}
    (rests : Rests (s.begun.advance (line - s.startLine)).1 rest) :
    s.RunsUpTo line (rest.1, (s.begun.advance (line - s.startLine)).2 ++ rest.2) := by
  obtain ⟨⟨phase, lastHit, -, same⟩, quiet⟩ := rests
  rw [same]
  refine ⟨?_, ?_, ?_⟩
  · rw [List.filterMap_append, ranLines_advance_begun numbered (by omega), quiet, List.append_nil]
  · rw [← begun_session]
    exact s.session_advance_begun _
  · show (s.begun.advance (line - s.startLine)).1.position + 1 = line
    rw [advance_begun_position (by omega)]
    omega

/-- **Stepping out runs through the line that the stepper has counted to.** -/
lemma runsUpTo_stepOut (steady : s.Steady) (braces : s.program.language.usesBraces = true)
    {last : Nat} (ahead : s.startLine ≤ last + 1)
    (count : rowsToBlockEnd 0 s.begun.remaining = last + 1 - s.startLine) :
    s.RunsUpTo (last + 1) s.stepOut := by
  have counted : s.begun.rowsOut = last + 1 - s.startLine := by
    rw [rowsOut, begun_program, if_pos braces, count]
  have within : last + 1 - s.startLine ≤ s.program.length + 1 - s.startLine := by
    rw [← count, ← length_begun_remaining]
    exact (isLeast_rowsToBlockEnd 0 s.begun.remaining).2 (.inl rfl)
  have runs := RunsUpTo.of_rests steady.numbered ahead (by have := startLine_le steady; omega)
    (rests_settle true (s.begun.advance (last + 1 - s.startLine)).1)
  rw [← counted] at runs
  exact runs

end StepOut

/-- **The line that closes the block around a place**: the first line at whose end or before it more
braces have been closed than opened since, or else the last line. -/
def ClosesBlock (s : Stepper) (last : Nat) : Prop :=
  IsLeast {line | line = s.program.length ∨ DropsBelow 0 (joined (s.through line))} last

/-- Among numbers there is a least one of every kind that there is at all. -/
lemma exists_isLeast_line (s : Stepper) (p : Nat → Prop) :
    ∃ last, IsLeast {line | line = s.program.length ∨ p line} last := by
  classical
  have some : ∃ line, line = s.program.length ∨ p line := ⟨_, .inl rfl⟩
  exact ⟨Nat.find some, Nat.find_spec some, fun _ mem => Nat.find_min' some mem⟩

/-- **How far stepping out goes.**  After any commands, in a language with braces, it runs the
lines from the one the run goes on with through the first at which more lines have held a closing
brace than an opening one, or else through the last; each once and in order.  That is the line that
closes the enclosing block if every line up to the end of the block is tidy. -/
theorem stepOut_counts_lines (settings : Settings) (commands : List Command) :
    let s := (watch settings commands).stepper
    s.program.language.usesBraces = true →
      (∃ last, IsLeast {line | line = s.program.length ∨ lineBalance (s.through line) < 0} last ∧
        s.RunsUpTo (last + 1) (s.perform .stepOut)) ∧
      ∃ last, s.ClosesBlock last ∧
        ((∀ row ∈ s.through last, Tidy row.stripped) →
          s.RunsUpTo (last + 1) (s.perform .stepOut)) := by
  intro s braces
  have steady : s.Steady := steady_watch settings commands
  constructor
  · obtain ⟨last, least⟩ := s.exists_isLeast_line fun line => lineBalance (s.through line) < 0
    obtain ⟨ahead, counted⟩ := isLeast_count steady (p := fun rows => lineBalance rows < 0)
      (Int.lt_irrefl 0) least
    have found := isLeast_rowsToBlockEnd 0 s.begun.remaining
    simp only [Int.natCast_zero, Int.zero_add] at found
    exact ⟨last, least, runsUpTo_stepOut steady braces ahead (found.unique counted)⟩
  · obtain ⟨last, least⟩ := s.exists_isLeast_line fun line => DropsBelow 0 (joined (s.through line))
    obtain ⟨ahead, counted⟩ := isLeast_count steady (p := fun rows => DropsBelow 0 (joined rows))
      (by decide) least
    refine ⟨last, least, fun tidy => runsUpTo_stepOut steady braces ahead ?_⟩
    refine rowsToBlockEnd_of_tidy counted ?_
    rwa [take_begun_remaining]

/-- Evaluation finds the line that closes a block. -/
lemma closesBlock_of_evaluation {s : Stepper} {last : Nat}
    (drops : DropsBelow 0 (joined (s.through last)))
    (before : ∀ line < last,
      ¬(line = s.program.length ∨ DropsBelow 0 (joined (s.through line)))) : s.ClosesBlock last :=
  ⟨.inr drops, fun line mem => Nat.not_lt.1 fun earlier => before line earlier mem⟩

/-- Out of the block around another one, which is opened and closed on the way. -/
theorem stepOut_counts_lines_around_block :
    let code : Text := "while (a) \x7b\nif (b) \x7b\nx = 1;\n\x7d\nx = 2;\n\x7d\ny = 3;"
    let s := (watch .standard [.load code (some .java), .stepOver]).stepper
    s.program.language.usesBraces = true ∧ s.startLine = 2 ∧
      (∀ row ∈ s.through 6, Tidy row.stripped) ∧ s.RunsUpTo 7 (s.perform .stepOut) := by
  intro code s
  have braces : s.program.language.usesBraces = true := by decide
  have tidy : ∀ row ∈ s.through 6, Tidy row.stripped := by decide
  have closes : s.ClosesBlock 6 :=
    closesBlock_of_evaluation (by decide) (by decide)
  obtain ⟨-, last, least, runs⟩ :=
    stepOut_counts_lines .standard [.load code (some .java), .stepOver] braces
  obtain rfl : last = 6 := least.unique closes
  exact ⟨braces, by decide, tidy, runs tidy⟩

/-- **A line that closes one block and opens the next does not end the first**: stepping out of the
first branch of a condition runs through the second one. -/
theorem stepOut_passes_else :
    let code : Text := "if (a) \x7b\nx = 1;\n\x7d else \x7b\nx = 2;\n\x7d\ny = 3;"
    let s := (watch .standard [.load code (some .java), .stepOver]).stepper
    s.ClosesBlock 3 ∧ ¬s.RunsUpTo 4 (s.perform .stepOut) ∧ s.RunsUpTo 6 (s.perform .stepOut) := by
  intro code s
  refine ⟨closesBlock_of_evaluation (by decide) (by decide), fun runs => ?_, ?_⟩
  · exact absurd runs.position_eq (by decide)
  · exact ⟨by decide, by decide, by decide⟩

end Stepper

end SnippetLab

import Mathlib.Algebra.Order.Ring.Int
import SnippetLab.Check.Loops
import SnippetLab.Proofs.Check.Bounds
import SnippetLab.Proofs.Source.Braces
import SnippetLab.Proofs.Source.Prefixes
import SnippetLab.Proofs.Text.Parts

/-!
# The body of a loop

Whether a loop has a way out is decided by its header and its body.  The body is read out of the
whole rest of the program, so it has to be shown that it ends where the loop ends: a block with its
closing brace, an indented body with the first line that is not indented deeper.

* `Settles`, `Paired` — brackets in which everything that is opened is closed.
* `upToClosing_eq_some_iff` — **where the bracket is found that closes one already open.**
* `bracedBody_eq`, `indentedBody_append` — the two kinds of body, with anything behind them.
* `endlessLoopFrom?_eq_none_iff`, `exists_endlessLoopFrom?_le` — the search for a loop to flag.
* `flag_rests_on_loop` — **what follows a loop neither clears its flag nor sets it free.**
-/

namespace SnippetLab.Check

open Source Text

/-! ## Brackets -/

/-- **A text closes `opened` brackets** that are open before it and all that it opens, and none
besides. -/
def Settles (opening closing : Char) (opened : Int) (t : Text) : Prop :=
  opened + balance opening closing t = 0 ∧
    ∀ p, p <+: t → 0 ≤ opened + balance opening closing p

/-- **The brackets of a text pair up.** -/
def Paired (opening closing : Char) (t : Text) : Prop := Settles opening closing 0 t

/-- Whether brackets are settled is found out by counting in every beginning. -/
instance (opening closing : Char) (opened : Int) (t : Text) :
    Decidable (Settles opening closing opened t) :=
  decidable_of_iff (opened + balance opening closing t = 0 ∧
    ∀ p ∈ t.inits, 0 ≤ opened + balance opening closing p) (by simp [Settles])

instance (opening closing : Char) (t : Text) : Decidable (Paired opening closing t) :=
  inferInstanceAs (Decidable (Settles opening closing 0 t))

section Brackets

variable {opening closing : Char} {opened : Int} {t inner rest : Text}

lemma settles_nil : Settles opening closing opened [] ↔ opened = 0 := by
  constructor
  · rintro ⟨ends, -⟩
    simpa [balance] using ends
  · rintro rfl
    exact ⟨rfl, fun p begun => by rw [List.prefix_nil.1 begun]; rfl⟩

/-- A character is counted, and the count goes on behind it. -/
lemma settles_cons (open_ : 0 ≤ opened) (c : Char) :
    Settles opening closing opened (c :: t) ↔
      Settles opening closing (opened + balance opening closing [c]) t := by
  unfold Settles
  rw [balance_cons, Int.add_assoc]
  refine and_congr_right fun _ => ⟨fun h p begun => ?_, fun h p begun => ?_⟩
  · have longer := h (c :: p) ((List.prefix_cons_inj c).2 begun)
    rwa [balance_cons, ← Int.add_assoc] at longer
  · rcases List.prefix_cons_iff.1 begun with rfl | ⟨q, rfl, later⟩
    · simpa [balance] using open_
    · rw [balance_cons, ← Int.add_assoc]
      exact h q later

/-- **The search goes on at every character but the bracket it looks for**: the character belongs to
what is inside, and counts. -/
lemma upToClosing_cons (differ : opening ≠ closing) {depth : Nat} {c : Char}
    (onward : ¬(depth = 0 ∧ c = closing)) :
    ∃ depth' : Nat, (depth : Int) + balance opening closing [c] = depth' ∧
      upToClosing opening closing depth (c :: t) =
        (upToClosing opening closing depth' t).map fun found => (c :: found.1, found.2) := by
  by_cases opens : c = opening
  · subst opens
    refine ⟨depth + 1, ?_, ?_⟩
    · simp [balance, differ]
    · simp only [upToClosing, if_true]
  · by_cases closes : c = closing
    · subst closes
      cases depth with
      | zero => exact absurd ⟨rfl, rfl⟩ onward
      | succ depth =>
          refine ⟨depth, ?_, ?_⟩
          · simp [balance, opens]
          · simp only [upToClosing, if_neg opens, if_true]
    · refine ⟨depth, ?_, ?_⟩
      · simp [balance, opens, closes]
      · simp only [upToClosing, if_neg opens, if_neg closes]

/-- **A bracket that closes one already open** is the first behind which nothing more is open. -/
lemma upToClosing_eq_some_iff (differ : opening ≠ closing) {depth : Nat} :
    upToClosing opening closing depth t = some (inner, rest) ↔
      t = inner ++ closing :: rest ∧ Settles opening closing depth inner := by
  induction t generalizing depth inner with
  | nil =>
      refine iff_of_false nofun ?_
      rintro ⟨whole, -⟩
      exact List.append_ne_nil_of_right_ne_nil inner (List.cons_ne_nil closing rest) whole.symm
  | cons c r ih =>
      by_cases ends : depth = 0 ∧ c = closing
      · obtain ⟨rfl, rfl⟩ := ends
        have found : upToClosing opening c 0 (c :: r) = some ([], r) := by
          simp only [upToClosing, if_neg differ.symm, if_true]
        rw [found]
        cases inner with
        | nil => simp [settles_nil]
        | cons d inner =>
            -- the bracket would be closed before anything is open
            refine iff_of_false nofun ?_
            rintro ⟨whole, settles⟩
            obtain ⟨rfl, -⟩ := List.cons.inj whole
            have below := settles.2 [c] ⟨inner, rfl⟩
            simp [balance, differ.symm] at below
      · obtain ⟨depth', count, onward⟩ := upToClosing_cons (t := r) differ ends
        rw [onward, Option.map_eq_some_iff]
        cases inner with
        | nil =>
            refine iff_of_false ?_ ?_
            · rintro ⟨_, _, ⟨⟩⟩
            · rintro ⟨whole, settles⟩
              exact ends ⟨Int.natCast_eq_zero.1 (settles_nil.1 settles), (List.cons.inj whole).1⟩
        | cons d inner =>
            rw [settles_cons (Int.natCast_nonneg depth)]
            constructor
            · rintro ⟨⟨i, after⟩, found, ⟨⟩⟩
              obtain ⟨rfl, settles⟩ := ih.1 found
              rw [count]
              exact ⟨rfl, settles⟩
            · rintro ⟨whole, settles⟩
              obtain ⟨rfl, behind⟩ := List.cons.inj whole
              rw [count] at settles
              exact ⟨(inner, rest), ih.2 ⟨behind, settles⟩, rfl⟩

end Brackets

/-! ## Bodies -/

/-- The text of a loop's body. -/
def loopBody (language : Language) (head : LoopHead) (depth : Nat) (rest : List Row) : Text :=
  if language.usesBraces then bracedBody head rest else indentedBody depth rest

section Bodies

variable {head : LoopHead} {near : List Row} {depth : Nat}

/-- **A block is the body**, whatever stands behind it. -/
lemma bracedBody_eq {body tail : Text}
    (written : trimStart (textAfter head near) = '{' :: (body ++ '}' :: tail))
    (paired : Paired '{' '}' body) (far : List Row) : bracedBody head (near ++ far) = body := by
  have longer : trimStart (textAfter head (near ++ far)) =
      '{' :: (body ++ '}' :: (tail ++ far.flatMap fun row => '\n' :: row.stripped)) := by
    rw [textAfter, List.flatMap_append, ← List.append_assoc, ← textAfter, trimStart,
      List.dropWhile_append, ← trimStart, written, if_neg (by simp)]
    simp
  have closes : ∀ more, upToClosing '{' '}' 0 (body ++ '}' :: more) = some (body, more) :=
    fun more => (upToClosing_eq_some_iff (by decide)).2 ⟨rfl, paired⟩
  unfold bracedBody
  rw [longer]
  simp only [closes]

/-- **A line that is not indented deeper ends the body**, whatever stands behind it. -/
lemma indentedBody_append {stop : Row} (mem : stop ∈ near)
    (code : stop.stripped.isAllBlank = false) (level : stop.depth ≤ depth) (far : List Row) :
    indentedBody depth (near ++ far) = indentedBody depth near := by
  have stops : ((near.filter fun row => !row.stripped.isAllBlank).takeWhile
      fun row => depth < row.depth).length ≠
        (near.filter fun row => !row.stripped.isAllBlank).length := by
    intro all
    have deeper := List.takeWhile_eq_self_iff.1 ((List.takeWhile_prefix _).eq_of_length all) stop
      (List.mem_filter.2 ⟨mem, by simp [code]⟩)
    exact absurd level (Nat.not_le.2 (by simpa using deeper))
  unfold indentedBody
  dsimp only
  rw [List.filter_append, List.takeWhile_append, if_neg stops]

end Bodies

/-- **The loop that a row begins ends in the rows near it**: a block with its closing brace, an
indented body with a line that is not indented deeper. -/
inductive LoopEnds (language : Language) (row : Row) (near : List Row) : Prop where
  | block {head : LoopHead} {body tail : Text} (braces : language.usesBraces = true)
      (begins : LoopHead.ofLine? language row.stripped = some head)
      (written : trimStart (textAfter head near) = '{' :: (body ++ '}' :: tail))
      (paired : Paired '{' '}' body)
  | dedent {stop : Row} (indents : language.usesBraces = false) (mem : stop ∈ near)
      (code : stop.stripped.isAllBlank = false) (level : stop.depth ≤ row.depth)

section Search

variable {language : Language} {row : Row} {near rows : List Row} {k : Nat}

lemma beginsEndlessLoop_eq (rest : List Row) : beginsEndlessLoop language row rest =
    (LoopHead.ofLine? language row.stripped).any fun head =>
      isStuck head (loopBody language head row.depth rest) := by
  unfold beginsEndlessLoop
  cases LoopHead.ofLine? language row.stripped <;> rfl

/-- **Behind its end nothing matters to a loop.** -/
lemma LoopEnds.begins_append (h : LoopEnds language row near) (far other : List Row) :
    beginsEndlessLoop language row (near ++ far) =
      beginsEndlessLoop language row (near ++ other) := by
  rw [beginsEndlessLoop_eq, beginsEndlessLoop_eq]
  cases h with
  | block braces begins written paired =>
      simp only [begins, Option.any_some, loopBody, braces, if_true, bracedBody_eq written paired]
  | dedent indents mem code level =>
      simp only [loopBody, indents, indentedBody_append mem code level, Bool.false_eq_true, if_false]

/-- A flag belongs to a row that begins a loop without a way out. -/
lemma exists_of_endlessLoopFrom? {line : Nat}
    (flagged : endlessLoopFrom? language rows = some line) :
    ∃ k row, rows[k]? = some row ∧ row.number = line ∧
      beginsEndlessLoop language row (rows.drop (k + 1)) = true := by
  induction rows with
  | nil => cases flagged
  | cons first rest ih =>
      unfold endlessLoopFrom? at flagged
      split at flagged
      · rename_i begins
        cases flagged
        exact ⟨0, first, rfl, rfl, begins⟩
      · obtain ⟨k, row, at_, number, begins⟩ := ih flagged
        exact ⟨k + 1, row, at_, number, begins⟩

/-- A loop without a way out is flagged, unless one above it is. -/
lemma exists_endlessLoopFrom?_le (at_ : rows[k]? = some row)
    (begins : beginsEndlessLoop language row (rows.drop (k + 1)) = true) :
    ∃ j ≤ k, ∃ other ∈ rows[j]?, endlessLoopFrom? language rows = some other.number := by
  induction rows generalizing k with
  | nil => cases at_
  | cons first rest ih =>
      rw [endlessLoopFrom?]
      split
      · exact ⟨0, k.zero_le, first, rfl, rfl⟩
      · rename_i passed
        cases k with
        | zero =>
            cases at_
            exact absurd begins passed
        | succ k =>
            obtain ⟨j, earlier, other, there, flagged⟩ := ih at_ begins
            exact ⟨j + 1, Nat.succ_le_succ earlier, other, there, flagged⟩

/-- **Nothing is flagged** if no row begins a loop without a way out. -/
lemma endlessLoopFrom?_eq_none_iff : endlessLoopFrom? language rows = none ↔
    ∀ k row, rows[k]? = some row → beginsEndlessLoop language row (rows.drop (k + 1)) = false := by
  constructor
  · intro none k row at_
    cases begins : beginsEndlessLoop language row (rows.drop (k + 1)) with
    | false => rfl
    | true =>
        obtain ⟨-, -, other, -, flagged⟩ := exists_endlessLoopFrom?_le at_ begins
        cases none.symm.trans flagged
  · intro passed
    cases flagged : endlessLoopFrom? language rows with
    | none => rfl
    | some line =>
        obtain ⟨k, row, at_, -, begins⟩ := exists_of_endlessLoopFrom? flagged
        cases (passed k row at_).symm.trans begins

end Search

/-! ## The flag -/

/-- The rows behind one are those near it, among the first `m`, and all from there on. -/
lemma drop_eq_append (rows : List Row) {k m : Nat} (inside : k < m) :
    rows.drop (k + 1) = (rows.take m).drop (k + 1) ++ rows.drop m := by
  conv_lhs => rw [← List.take_append_drop m rows, List.drop_append, List.length_take]
  rcases Nat.le_total m rows.length with within | short
  · rw [Nat.min_eq_left within, Nat.sub_eq_zero_of_le inside, List.drop_zero]
  · rw [List.drop_eq_nil_of_le short, List.drop_nil]

/-- **A loop's flag rests on the loop alone.**  If a program is flagged at a line, and the loop
there ends among the first `m` lines, then every code that begins with these lines is flagged there
or above. -/
theorem flag_rests_on_loop {language : Language} {code other : Text} {k m : Nat} {row : Row}
    (flagged : endlessLoop? (Program.ofCode language code) = some (k + 1))
    (at_ : (Program.ofCode language code).rows[k]? = some row) (inside : k < m)
    (ends : LoopEnds language row (((Program.ofCode language code).rows.take m).drop (k + 1)))
    (same : other.lines.take m = code.lines.take m) :
    ∃ line ≤ k + 1, endlessLoop? (Program.ofCode language other) = some line := by
  have shared : (Program.ofCode language other).rows.take m =
      (Program.ofCode language code).rows.take m := Program.take_ofCode same
  obtain ⟨j, first, there, number, begins⟩ := exists_of_endlessLoopFrom? flagged
  obtain rfl : j = k := Nat.succ.inj ((number_of_getElem? there).symm.trans number)
  cases at_.symm.trans there
  -- the row begins the same loop in the other program
  have there : (Program.ofCode language other).rows[j]? = some row := by
    rw [← List.getElem?_take_of_lt inside, shared, List.getElem?_take_of_lt inside]
    exact at_
  have onward : beginsEndlessLoop language row
      ((Program.ofCode language other).rows.drop (j + 1)) = true := by
    rw [drop_eq_append _ inside, shared, ends.begins_append,
      ← drop_eq_append _ inside]
    exact begins
  obtain ⟨i, above, found, at_, flagged⟩ := exists_endlessLoopFrom?_le there onward
  refine ⟨found.number, ?_, flagged⟩
  rw [number_of_getElem? at_]
  exact Nat.succ_le_succ above

/-- A `break` behind the closing brace does not help, nor does one more closing brace. -/
theorem flag_rests_on_loop_break_behind :
    let code : Text := "int x = 0;\nwhile (x < 3)\n\x7b if (y) \x7b y--; \x7d\n\x7d x++;\nf();"
    let other : Text := "int x = 0;\nwhile (x < 3)\n\x7b if (y) \x7b y--; \x7d\n\x7d x++;\nbreak; \x7d"
    endlessLoop? (Program.ofCode .java code) = some 2 ∧
      other.lines.take 4 = code.lines.take 4 ∧
      ∃ line ≤ 2, endlessLoop? (Program.ofCode .java other) = some line := by
  intro code other
  have flagged : endlessLoop? (Program.ofCode .java code) = some 2 := by decide +kernel
  have same : other.lines.take 4 = code.lines.take 4 := by decide +kernel
  obtain ⟨row, at_⟩ : ∃ row, (Program.ofCode .java code).rows[1]? = some row := ⟨_, rfl⟩
  refine ⟨flagged, same, flag_rests_on_loop flagged at_ (m := 4) (by decide) ?_ same⟩
  cases at_
  exact @LoopEnds.block _ _ _ ⟨some "x < 3", []⟩ " if (y) \x7b y--; \x7d\n" " x++;" rfl
    (by decide +kernel) (by decide +kernel) (by decide +kernel)

end SnippetLab.Check

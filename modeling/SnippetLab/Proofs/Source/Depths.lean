import SnippetLab.Proofs.Check.Pairing
import SnippetLab.Proofs.Fix.Projection
import SnippetLab.Proofs.Source.Finish
import SnippetLab.Proofs.Source.Rows

/-!
# The depth of a line

The depth of a line counts the braces that are open where it begins.  What is kept is one number, by
how much the opening braces before the line outnumber the closing ones.  **A closing brace with
nothing open is counted too**, against a brace that is opened behind it, and the number is cut to
sixteen bits, so that it begins again from nought where the indentation of a line stops growing.

* `IsClosedIn`, `unclosed` — the braces of a text that no later one closes.
* `strays` — its closing braces with nothing open before them.
* `unclosed_sub_strays` — what the one number comes to.
* `depth_is_unclosed_less_strays` — **the depth of every line**, and when it is the number of open
  braces.
* `depth_is_indentation` — in a language without braces the depth stops growing instead.
-/

namespace SnippetLab

open Source

/-! ## Open braces and stray ones -/

/-- **An opening brace is closed in what stands behind it**, by the brace behind the first text in
which all braces pair up. -/
def IsClosedIn (r : Text) : Prop :=
  ∃ inner behind, r = inner ++ '}' :: behind ∧ Dyck (bracesOf inner)

section Counts

variable {n : Nat} {c : Char} {r t earlier : Text}

/-- Where the count drops, the first brace below nought closes one that was open before. -/
lemma exists_closing (drops : DropsBelow n r) :
    ∃ inner behind, r = inner ++ '}' :: behind ∧ n + balance '{' '}' inner = 0 ∧
      ¬DropsBelow n inner := by
  induction r generalizing n with
  | nil => exact absurd drops (not_dropsBelow_nil (Int.natCast_nonneg n))
  | cons c r ih =>
      rw [dropsBelow_cons (Int.natCast_nonneg n)] at drops
      by_cases stays : 0 ≤ (n : Int) + balance '{' '}' [c]
      · obtain ⟨m, level⟩ := Int.eq_ofNat_of_zero_le stays
        rw [level] at drops
        obtain ⟨inner, behind, rfl, ends, never⟩ := ih drops
        refine ⟨c :: inner, behind, rfl, ?_, ?_⟩
        · rw [balance_cons, ← Int.add_assoc, level, ends]
        · rwa [dropsBelow_cons (Int.natCast_nonneg n), level]
      · -- only a closing brace leads below nought, and from nought only
        have single : balance '{' '}' [c] = 0 ∨ c = '{' ∨ c = '}' := by
          by_cases brace : isBrace c = true
          · exact .inr (by simpa [isBrace] using brace)
          · exact .inl (balance_of_not_isBrace (by simpa using brace))
        rcases single with level | rfl | rfl
        · omega
        · rw [balance_opening] at stays
          omega
        · rw [balance_closing] at stays
          obtain rfl : n = 0 := by omega
          exact ⟨[], r, rfl, by simp [balance], not_dropsBelow_nil (Int.natCast_nonneg 0)⟩

/-- **A brace is closed in a text exactly if the count drops there.** -/
theorem isClosedIn_iff : IsClosedIn r ↔ DropsBelow 0 r := by
  constructor
  · rintro ⟨inner, behind, rfl, paired⟩
    rw [dyck_bracesOf_iff] at paired
    refine ⟨inner ++ ['}'], ⟨behind, by simp⟩, ?_⟩
    rw [balance_append, paired.1, balance_closing]
    decide
  · intro drops
    obtain ⟨inner, behind, whole, ends, never⟩ := exists_closing (n := 0) drops
    exact ⟨inner, behind, whole, dyck_bracesOf_iff.2 ⟨by simpa using ends, never⟩⟩

instance (r : Text) : Decidable (IsClosedIn r) := decidable_of_iff _ isClosedIn_iff.symm

/-- **The opening braces of a text that no later brace closes.** -/
def unclosed : Text → Nat
  | [] => 0
  | c :: r => if c = '{' ∧ ¬IsClosedIn r then unclosed r + 1 else unclosed r

/-- The closing braces with nothing open before them, behind a text `earlier`. -/
def straysBehind (earlier : Text) : Text → Nat
  | [] => 0
  | c :: r =>
    if c = '}' ∧ unclosed earlier = 0 then straysBehind (earlier ++ [c]) r + 1
    else straysBehind (earlier ++ [c]) r

/-- **The closing braces of a text with nothing open before them.** -/
def strays (t : Text) : Nat := straysBehind [] t

/-- How far the count of the braces drops below nought; an opening brace in front takes the first
drop back. -/
def shortfall : Text → Nat
  | [] => 0
  | c :: r => if c = '{' then shortfall r - 1 else if c = '}' then shortfall r + 1 else shortfall r

lemma dropsBelow_iff_lt_shortfall : DropsBelow n r ↔ n < shortfall r := by
  induction r generalizing n with
  | nil => simpa [shortfall] using not_dropsBelow_nil (Int.natCast_nonneg n)
  | cons c r ih =>
      rw [dropsBelow_cons (Int.natCast_nonneg n), shortfall]
      split_ifs with opening closing
      · rw [opening, balance_opening, ← Int.natCast_succ, ih]
        omega
      · rw [closing, balance_closing]
        cases n with
        | zero => exact iff_of_true (dropsBelow_of_neg (by decide) r) (Nat.succ_pos _)
        | succ n =>
            rw [Int.natCast_succ, Int.add_neg_cancel_right, ih]
            omega
      · rw [balance_of_not_isBrace (by simp [isBrace, opening, closing]), Int.add_zero, ih]

/-- **Open braces are what is opened beyond what is closed, and what the count has dropped.** -/
lemma unclosed_eq (t : Text) : (unclosed t : Int) = balance '{' '}' t + shortfall t := by
  induction t with
  | nil => rfl
  | cons c r ih =>
      have closed : IsClosedIn r ↔ 0 < shortfall r :=
        isClosedIn_iff.trans (dropsBelow_iff_lt_shortfall (n := 0))
      rw [balance_cons, unclosed, shortfall]
      by_cases opening : c = '{'
      · subst opening
        rw [balance_opening, if_pos rfl]
        simp only [closed, true_and]
        split_ifs <;> omega
      · rw [if_neg (fun h => opening h.1), if_neg opening]
        by_cases closing : c = '}'
        · subst closing
          rw [balance_closing, if_pos rfl]
          omega
        · rw [balance_of_not_isBrace (by simp [isBrace, opening, closing]), if_neg closing]
          omega

/-- The count drops once more at a closing brace behind which nothing is open. -/
lemma shortfall_concat (t : Text) (c : Char) :
    shortfall (t ++ [c]) =
      if c = '}' ∧ unclosed t = 0 then shortfall t + 1 else shortfall t := by
  have count := unclosed_eq t
  refine eq_of_forall_lt_iff fun n => ?_
  rw [← dropsBelow_iff_lt_shortfall, dropsBelow_append, dropsBelow_iff_lt_shortfall]
  have last : DropsBelow (n + balance '{' '}' t) [c] ↔
      (n : Int) + balance '{' '}' t < 0 ∨
        (n : Int) + balance '{' '}' t + balance '{' '}' [c] < 0 := by
    simp [DropsBelow, List.prefix_cons_iff, balance]
  rw [last]
  by_cases closing : c = '}'
  · subst closing
    simp only [balance_closing, true_and]
    split_ifs <;> omega
  · have up : 0 ≤ balance '{' '}' [c] := by
      simp only [balance, List.count_singleton, beq_iff_eq, if_neg closing]
      omega
    rw [if_neg fun h => closing h.1]
    omega

lemma shortfall_append (earlier t : Text) :
    shortfall (earlier ++ t) = shortfall earlier + straysBehind earlier t := by
  induction t generalizing earlier with
  | nil => rw [List.append_nil, straysBehind, Nat.add_zero]
  | cons c t ih =>
      rw [List.append_cons, ih, shortfall_concat, straysBehind]
      split_ifs <;> omega

/-- **The stray braces are what the count drops by.** -/
lemma strays_eq (t : Text) : strays t = shortfall t := by
  have whole := shortfall_append [] t
  rw [List.nil_append, shortfall, Nat.zero_add] at whole
  exact whole.symm

/-- **What opening braces outnumber closing ones by** is what is open less what is stray. -/
theorem unclosed_sub_strays (t : Text) : (balance '{' '}' t).toNat = unclosed t - strays t := by
  have count := unclosed_eq t
  rw [strays_eq]
  omega

end Counts

/-! ## The depth of a line -/

section Depth

variable {language : Language} {code : Text} {row : Row}

/-- The depth of a line is told by the count of the braces before it. -/
lemma getElem?_braceDepths (opened : Int) {lines : List Text} {k : Nat}
    (within : k < lines.length) :
    (Program.braceDepths opened lines)[k]? =
      some ((opened + balance '{' '}' (lines.take k).flatten).toNat % Program.depthBound) := by
  induction lines generalizing opened k with
  | nil => exact absurd within (Nat.not_lt_zero k)
  | cons line rest ih =>
      cases k with
      | zero => simp [Program.braceDepths, balance]
      | succ k =>
          rw [Program.braceDepths, List.getElem?_cons_succ, ih _ (Nat.lt_of_succ_lt_succ within),
            List.take_succ_cons, List.flatten_cons, balance_append, Int.add_assoc]

lemma depths_of_braces (braces : language.usesBraces = true) (code : Text) :
    (Program.ofCode language code).rows.map Row.depth =
      Program.braceDepths 0 (stripLines language code.lines) := by
  rw [Program.map_depth_ofCode, Program.depths, if_pos braces,
    List.map_snd_zip (Nat.le_of_eq (Program.length_stripLines ..))]

/-- What is stripped before a line is a beginning of what is stripped in all. -/
lemma flatMap_stripped_take (language : Language) (code : Text) (k : Nat) :
    ((Program.ofCode language code).rows.take k).flatMap Row.stripped =
      ((stripLines language code.lines).take k).flatten := by
  rw [← Program.map_stripped_ofCode, ← List.map_take, List.flatMap_def]

/-- Where the check finds nothing wrong with the form, there is no stray brace before any line. -/
lemma strays_eq_zero (braces : language.usesBraces = true)
    (fine : Check.formError? language code = none) (k : Nat) :
    strays (((stripLines language code.lines).take k).flatten) = 0 := by
  rw [strays_eq]
  by_contra strayed
  obtain ⟨p, begun, drops⟩ := dropsBelow_iff_lt_shortfall.2 (Nat.pos_of_ne_zero strayed)
  have whole : DropsBelow 0 (stripLines language code.lines).flatten := by
    refine ⟨p, begun.trans ?_, drops⟩
    conv_rhs => rw [← List.take_append_drop k (stripLines language code.lines), List.flatten_append]
    exact List.prefix_append ..
  rw [Check.formError?_eq_of_braces braces, Check.pairingError?_eq, if_pos whole] at fine
  split_ifs at fine

/-- **The depth of a line** in a language with braces: the braces open before it less the stray ones
before it, cut to sixteen bits.  So it is the number of open braces, or the largest depth if there
are more, unless something is stray or the number is cut; the check of the form rules out the
former and not the latter. -/
theorem depth_is_unclosed_less_strays (braces : language.usesBraces = true) {k : Nat}
    (found : (Program.ofCode language code).rows[k]? = some row) :
    let before := ((Program.ofCode language code).rows.take k).flatMap Row.stripped
    row.depth = (unclosed before - strays before) % Program.depthBound ∧
    (row.depth = min (Program.depthBound - 1) (unclosed before) ↔
      if unclosed before < Program.depthBound then strays before = 0 ∨ unclosed before = 0
      else (unclosed before - strays before) % Program.depthBound = Program.depthBound - 1) ∧
    (Check.formError? language code = none → strays before = 0) := by
  dsimp only
  rw [flatMap_stripped_take]
  have depth : row.depth = (unclosed ((stripLines language code.lines).take k).flatten -
      strays ((stripLines language code.lines).take k).flatten) % Program.depthBound := by
    have counted := congrArg (·[k]?) (depths_of_braces braces code)
    have within : k < (stripLines language code.lines).length := by
      rw [← Program.map_stripped_ofCode, List.length_map]
      exact (List.getElem?_eq_some_iff.1 found).1
    rw [List.getElem?_map, found, getElem?_braceDepths 0 within, Int.zero_add,
      unclosed_sub_strays] at counted
    exact Option.some.inj counted
  refine ⟨depth, ?_, fun fine => strays_eq_zero braces fine k⟩
  rw [depth]
  generalize unclosed _ = u, strays _ = s
  by_cases few : u < Program.depthBound
  · rw [if_pos few]
    simp only [Program.depthBound] at few ⊢
    omega
  · rw [if_neg few]
    simp only [Program.depthBound] at few ⊢
    omega

/-- A block in a block, and a brace in a literal. -/
theorem depth_is_unclosed_less_strays_nested :
    let rows := (Program.ofCode .java "if (a) \x7b\n  s = \"\x7d\"; \x7b\n\x7d  x = 1;").rows
    Language.java.usesBraces = true ∧
      ∃ row, rows[2]? = some row ∧ unclosed ((rows.take 2).flatMap Row.stripped) = 2 ∧
        row.depth = 2 := by
  have found : (Program.ofCode .java "if (a) \x7b\n  s = \"\x7d\"; \x7b\n\x7d  x = 1;").rows[2]? =
      some ⟨3, "\x7d  x = 1;", "\x7d  x = 1;", 2, .unrecognized⟩ := by decide
  exact ⟨rfl, _, found, by decide, (depth_is_unclosed_less_strays rfl found).1.trans (by decide)⟩

/-! ## Deep blocks -/

/-- Every brace of a row of opening ones is open. -/
lemma unclosed_replicate (n : Nat) : unclosed (List.replicate n '{') = n := by
  induction n with
  | zero => rfl
  | succ n ih =>
      have never : ¬IsClosedIn (List.replicate n '{') := by
        rintro ⟨inner, behind, row, -⟩
        have closing : '}' ∈ List.replicate n '{' := row ▸ by simp
        exact absurd (List.eq_of_mem_replicate closing) (by decide)
      rw [List.replicate_succ, unclosed, if_pos ⟨rfl, never⟩, ih]

/-- A line of opening braces, one more on the next line, and a line behind them. -/
def deepCode (n : Nat) : Text := List.replicate n '{' ++ '\n' :: "\x7b\nx = 1;"

/-- Nothing of it is stripped. -/
lemma stripLines_deepCode (n : Nat) :
    stripLines .java (deepCode n).lines = [List.replicate n '{', "\x7b", "x = 1;"] := by
  have within {c : Char} (other : c ≠ '{') : c ∉ List.replicate n '{' :=
    fun listed => other (List.eq_of_mem_replicate listed)
  have unmarked : ∀ c ∈ List.replicate n '{', isUnmarked c = true := by
    intro c listed
    rw [List.eq_of_mem_replicate listed]
    decide
  have left : outline .java .code (List.replicate n '{' ++ []) = List.replicate n '{' ++ [] :=
    outline_unmarked unmarked []
  have ends : finish (.of .java) .code (List.replicate n '{' ++ []) = some .code :=
    (scan_unmarked unmarked []).2.trans (finish_nil .code)
  have behind : scanLines (.of .java) Lexeme.outline false (Text.lines "\x7b\nx = 1;") =
      (["\x7b", "x = 1;"] : List Text) := by decide
  rw [List.append_nil] at left ends
  rw [deepCode, Fix.lines_append (within (by decide)) (within (by decide)), stripLines, scanLines]
  simp only [lexemes, Bool.false_eq_true, if_false, scan_snd, ends]
  rw [← outline, left]
  exact congrArg _ behind

/-- So the braces before the last line are open, all of them. -/
lemma unclosed_deepCode (n : Nat) :
    unclosed (((Program.ofCode .java (deepCode n)).rows.take 2).flatMap Row.stripped) = n + 1 := by
  have before : ((stripLines .java (deepCode n).lines).take 2).flatten =
      List.replicate (n + 1) '{' := by
    rw [stripLines_deepCode, List.replicate_succ']
    rfl
  rw [flatMap_stripped_take, before, unclosed_replicate]

/-- **The depth begins again from nought** where there are too many braces to be counted. -/
lemma depths_deepCode (n : Nat) :
    (Program.ofCode .java (deepCode n)).rows.map Row.depth =
      [0, n % Program.depthBound, (n + 1) % Program.depthBound] := by
  have row : balance '{' '}' (List.replicate n '{') = n := by simp [balance, List.count_replicate]
  have single : balance '{' '}' "\x7b".toList = 1 := by decide
  have next : ((n : Int) + 1).toNat = n + 1 := Int.toNat_natCast (n + 1)
  rw [depths_of_braces rfl, stripLines_deepCode]
  simp only [Program.braceDepths, row, single, Int.zero_add, Int.toNat_natCast, next]
  rfl

/-- **The depth of a line need not be the number of open braces.**  A stray brace is counted against
one that is opened behind it; and of two lines the deeper one may have the smaller depth. -/
theorem depths_miss_open_braces :
    (let rows := (Program.ofCode .java "\x7d\n\x7b\nx = 1;").rows
     rows[2]?.map Row.depth = some 0 ∧ unclosed ((rows.take 2).flatMap Row.stripped) = 1) ∧
    (let rows := (Program.ofCode .java (deepCode 65535)).rows
     rows.map Row.depth = [0, 65535, 0] ∧
      unclosed ((rows.take 2).flatMap Row.stripped) = 65536) :=
  ⟨⟨by decide, by decide⟩, depths_deepCode 65535, unclosed_deepCode 65535⟩

/-! ## Depths by indentation -/

lemma getElem?_indentDepths (last : Nat) {lines : List (Text × Text)} {k : Nat}
    {line : Text × Text} (found : lines[k]? = some line) (solid : line.2.isAllBlank = false) :
    (Program.indentDepths last lines)[k]? =
      some (min (indentation line.1) (Program.depthBound - 1)) := by
  induction lines generalizing last k with
  | nil => cases found
  | cons first rest ih =>
      cases k with
      | zero =>
          obtain rfl : first = line := Option.some.inj found
          simp [Program.indentDepths, solid]
      | succ k => exact ih _ found

/-- **The depth of a line by its indentation**, in a language without braces: it stops growing at
the largest depth, so that it never falls where the indentation grows. -/
theorem depth_is_indentation (plain : language.usesBraces = false) {k : Nat}
    (found : (Program.ofCode language code).rows[k]? = some row)
    (solid : row.stripped.isAllBlank = false) :
    row.depth = min (indentation row.text) (Program.depthBound - 1) := by
  have at_ {α : Type} (column : Row → α) :
      ((Program.ofCode language code).rows.map column)[k]? = some (column row) := by
    rw [List.getElem?_map, found, Option.map_some]
  have text := at_ Row.text
  have stripped := at_ Row.stripped
  have depth := at_ Row.depth
  rw [Program.map_text_ofCode] at text
  rw [Program.map_stripped_ofCode] at stripped
  have listed : (code.lines.zip (stripLines language code.lines))[k]? =
      some (row.text, row.stripped) := List.getElem?_zip_eq_some.2 ⟨text, stripped⟩
  rw [Program.map_depth_ofCode, Program.depths, plain, if_neg Bool.false_ne_true,
    getElem?_indentDepths 0 listed solid] at depth
  exact (Option.some.inj depth).symm

end Depth

end SnippetLab

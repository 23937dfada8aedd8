import SnippetLab.Proofs.Fix.ControlLines
import SnippetLab.Proofs.Fix.KeyFix

/-!
# What containment compares

One core counts as contained in the other if its text is part of the other's text.  Were lines
compared, the lines of the one would have to stand one after the other among the lines of the other.
Texts are compared, so **the first of these lines may lack its beginning and the last its end**
(`containment_runs_through_lines`): a word, or a single letter, of one line of the reference is
contained in it (`part_of_line_is_contained`).

* `RunsThrough` — lines that stand in a row in others, up to the beginning of the first and the end
  of the last.
* `join_isInfix_iff` — that is what it means for joined lines to be part of joined lines.
-/

namespace SnippetLab.Fix

open Text

/-! ## Lines with something before and behind them -/

/-- Lines with a text in front of the first. -/
def inFront (start : Text) : List Text → List Text
  | [] => []
  | line :: rest => (start ++ line) :: rest

/-- Lines with a text behind the last. -/
def behind (finish : Text) : List Text → List Text
  | [] => []
  | [line] => [line ++ finish]
  | line :: rest => line :: behind finish rest

/-- **The lines `inner` run through the lines `outer`**: they stand there in a row, except that the
first may lack a beginning and the last an end. -/
def RunsThrough (inner outer : List Text) : Prop :=
  ∃ (above below : List Text) (start finish : Text),
    outer = above ++ (inFront start (behind finish inner) ++ below)

lemma behind_ne_nil (finish : Text) {lines : List Text} (h : lines ≠ []) :
    behind finish lines ≠ [] := by
  fun_cases behind finish lines with
  | case1 => exact absurd rfl h
  | case2 line => exact List.cons_ne_nil _ _
  | case3 line rest => exact List.cons_ne_nil _ _

lemma join_cons_of_ne_nil (line : Text) {rest : List Text} (h : rest ≠ []) :
    Text.join "\n" (line :: rest) = line ++ '\n' :: Text.join "\n" rest := by
  rw [Text.join, List.intercalate_cons_of_ne_nil h, List.append_assoc]
  rfl

lemma join_inFront (above : List Text) (start : Text) {lines : List Text} (h : lines ≠ []) :
    Text.join "\n" (above ++ inFront start lines) =
      Text.join "\n" (above ++ [start]) ++ Text.join "\n" lines := by
  obtain ⟨line, rest, rfl⟩ := List.exists_cons_of_ne_nil h
  induction above with
  | nil =>
      cases rest with
      | nil => simp [inFront, Text.join]
      | cons next rest =>
          rw [List.nil_append, inFront, join_cons_of_ne_nil _ (List.cons_ne_nil next rest),
            join_cons_of_ne_nil _ (List.cons_ne_nil next rest)]
          simp [Text.join]
  | cons first above ih =>
      rw [List.cons_append, List.cons_append, join_cons_of_ne_nil _ (by simp [inFront]),
        join_cons_of_ne_nil _ (by simp), ih, List.append_assoc, List.cons_append]

lemma join_behind (finish : Text) (below : List Text) {lines : List Text} (h : lines ≠ []) :
    Text.join "\n" (behind finish lines ++ below) =
      Text.join "\n" lines ++ Text.join "\n" (finish :: below) := by
  fun_induction behind finish lines with
  | case1 => exact absurd rfl h
  | case2 line =>
      cases below with
      | nil => simp [Text.join]
      | cons next below =>
          rw [List.singleton_append, join_cons_of_ne_nil _ (List.cons_ne_nil next below),
            join_cons_of_ne_nil _ (List.cons_ne_nil next below)]
          simp [Text.join]
  | case3 line rest several ih =>
      have more : rest ≠ [] := several
      rw [List.cons_append, join_cons_of_ne_nil _ (by simp [behind_ne_nil _ more]),
        join_cons_of_ne_nil _ more, ih more, List.append_assoc, List.cons_append]

/-! ## Parts of joined lines -/

/-- What stands before a text completes the first of its lines. -/
lemma exists_splitOn_append_left (before : Text) :
    ∃ (above : List Text) (start : Text), ∀ t,
      List.splitOn '\n' (before ++ t) = above ++ inFront start (List.splitOn '\n' t) := by
  induction before with
  | nil =>
      refine ⟨[], [], fun t => ?_⟩
      obtain ⟨line, rest, pieces⟩ := List.exists_cons_of_ne_nil (List.splitOn_ne_nil '\n' t)
      rw [List.nil_append, pieces]
      rfl
  | cons c before ih =>
      obtain ⟨above, start, split⟩ := ih
      by_cases feed : c == '\n'
      · refine ⟨[] :: above, start, fun t => ?_⟩
        rw [List.cons_append, List.splitOn_cons_eq_if_modifyHead, if_pos feed, split,
          List.cons_append]
      · cases above with
        | nil =>
            refine ⟨[], c :: start, fun t => ?_⟩
            obtain ⟨line, rest, pieces⟩ := List.exists_cons_of_ne_nil (List.splitOn_ne_nil '\n' t)
            rw [List.cons_append, List.splitOn_cons_eq_if_modifyHead, if_neg feed, split, pieces]
            rfl
        | cons first above =>
            refine ⟨(c :: first) :: above, start, fun t => ?_⟩
            rw [List.cons_append, List.splitOn_cons_eq_if_modifyHead, if_neg feed, split]
            rfl

/-- What stands behind a text completes the last of its lines. -/
lemma exists_splitOn_append_right (after : Text) :
    ∃ (finish : Text) (below : List Text), ∀ t,
      List.splitOn '\n' (t ++ after) = behind finish (List.splitOn '\n' t) ++ below := by
  obtain ⟨finish, below, pieces⟩ := List.exists_cons_of_ne_nil (List.splitOn_ne_nil '\n' after)
  refine ⟨finish, below, fun t => ?_⟩
  induction t with
  | nil =>
      rw [List.nil_append, pieces]
      rfl
  | cons c t ih =>
      obtain ⟨line, rest, lines⟩ := List.exists_cons_of_ne_nil (List.splitOn_ne_nil '\n' t)
      rw [List.cons_append, List.splitOn_cons_eq_if_modifyHead, List.splitOn_cons_eq_if_modifyHead,
        ih, lines]
      split
      · rfl
      · cases rest with
        | nil => rfl
        | cons next rest => rfl

/-- **Joined lines are part of joined lines exactly if they run through them.** -/
theorem join_isInfix_iff {inner outer : List Text} (some : inner ≠ [])
    (here : ∀ line ∈ inner, '\n' ∉ line) (some' : outer ≠ [])
    (there : ∀ line ∈ outer, '\n' ∉ line) :
    Text.join "\n" inner <:+: Text.join "\n" outer ↔ RunsThrough inner outer := by
  have pieces {lines : List Text} (some : lines ≠ []) (whole : ∀ line ∈ lines, '\n' ∉ line) :
      List.splitOn '\n' (Text.join "\n" lines) = lines :=
    List.splitOn_intercalate '\n' whole some
  constructor
  · rintro ⟨before, after, same⟩
    obtain ⟨above, start, left⟩ := exists_splitOn_append_left before
    obtain ⟨finish, below, right⟩ := exists_splitOn_append_right after
    refine ⟨above, below, start, finish, ?_⟩
    obtain ⟨_, _, lines⟩ := List.exists_cons_of_ne_nil (behind_ne_nil finish some)
    rw [← pieces some' there, ← same, List.append_assoc, left, right, pieces some here, lines]
    rfl
  · rintro ⟨above, below, start, finish, rfl⟩
    obtain ⟨_, _, lines⟩ := List.exists_cons_of_ne_nil (behind_ne_nil finish some)
    have whole : inFront start (behind finish inner) ++ below =
        inFront start (behind finish inner ++ below) := by rw [lines]; rfl
    refine ⟨Text.join "\n" (above ++ [start]), Text.join "\n" (finish :: below), ?_⟩
    rw [whole, join_inFront above start (by simp [lines]), join_behind finish below some,
      List.append_assoc]

/-! ## Containment -/

lemma coreLines_eq_nil_iff (code : Text) : coreLines code = [] ↔ core code = [] := by
  constructor
  · intro none
    rw [core, none]
    rfl
  · intro empty
    rw [← lines_core, empty]
    rfl

/-- **Cores are compared by their lines**, which only have to run through one another. -/
lemma core_isInfix_iff {code other : Text} (some : coreLines code ≠ [])
    (some' : coreLines other ≠ []) :
    core code <:+: core other ↔ RunsThrough (coreLines code) (coreLines other) :=
  join_isInfix_iff some (fun _ found => (of_mem_normalLines (List.mem_of_mem_filter found)).2)
    some' (fun _ found => (of_mem_normalLines (List.mem_of_mem_filter found)).2)

/-- **When containment decides.** -/
lemma contained_of_compare {user reference : Text} :
    ((compare user reference).matched = true ∧
        (compare user reference).strategy = .containment) ↔
      normalize user ≠ normalize reference ∧ core user ≠ core reference ∧
        contained (core user) (core reference)
          (checkKeyFixes (core user) (core reference)) = true := by
  unfold compare
  dsimp only
  split
  · simp [accept, *]
  · split
    · simp [accept, *]
    · split
      · simp [accept, *]
      · rename_i outside
        refine iff_of_false ?_ (fun inside => outside inside.2.2)
        split
        · exact nofun
        · exact nofun
        · split
          · exact nofun
          · exact nofun

/-- **Containment is about lines up to the beginning of one and the end of another.**  It decides
exactly if neither the normal forms nor the cores are equal and the lines of the one core run
through those of the other; those of the learner's core do not count if the detectors reject it. -/
theorem containment_runs_through_lines (user reference : Text) :
    ((compare user reference).matched = true ∧
        (compare user reference).strategy = .containment) ↔
      normalize user ≠ normalize reference ∧ core user ≠ core reference ∧
        (core user).lines ≠ [] ∧ (core reference).lines ≠ [] ∧
        (RunsThrough (core reference).lines (core user).lines ∨
          RunsThrough (core user).lines (core reference).lines ∧
            ∀ category, checkKeyFixes (core user) (core reference) ≠ .rejected category) := by
  rw [contained_of_compare, lines_core, lines_core]
  refine and_congr_right fun _ => and_congr_right fun _ => ?_
  unfold contained
  rw [Bool.and_eq_true, Bool.and_eq_true, Bool.or_eq_true, Bool.and_eq_true, has_iff,
    has_iff, and_assoc, Bool.not_eq_true', Bool.not_eq_true', List.isEmpty_eq_false_iff,
    List.isEmpty_eq_false_iff, Ne, Ne, ← coreLines_eq_nil_iff, ← coreLines_eq_nil_iff]
  refine and_congr_right fun some => and_congr_right fun some' => ?_
  rw [core_isInfix_iff some' some, core_isInfix_iff some some']
  refine or_congr_right (and_congr_right fun _ => ?_)
  split
  · rename_i category rejected
    exact iff_of_false nofun fun kept => kept category rejected
  · rename_i kept
    exact iff_of_true rfl kept

/-- **A part of a line is contained**: a word of the reference's only line passes for the fix, and
so does a line in which the reference's stands by chance. -/
theorem part_of_line_is_contained :
    ((compare "return" "return a * b;").matched = true ∧
      (compare "return" "return a * b;").strategy = .containment ∧
      ¬(core "return").lines <:+: (core "return a * b;").lines ∧
      ¬(core "return a * b;").lines <:+: (core "return").lines) ∧
    ((compare "max = 10" "x = 1").matched = true ∧
      (compare "max = 10" "x = 1").strategy = .containment ∧
      ¬(core "max = 10").lines <:+: (core "x = 1").lines ∧
      ¬(core "x = 1").lines <:+: (core "max = 10").lines) := by
  decide +kernel

end SnippetLab.Fix

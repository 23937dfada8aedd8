import Mathlib.Logic.Relation
import SnippetLab.Fix.Verdict
import SnippetLab.Proofs.Fix.Reflow

/-!
# Formatting changes no verdict

`Edit` lists what may be done to a text of code without changing what it says: blanks may be
exchanged, lines may be indented, end in blanks and be set apart by empty ones, comments may be
added, and letters may change case.  A text that has been edited is **written the same** when it is
read (`Edit.shown_eq`), but for the case of letters, so it has the same normal form; and a verdict
asks for nothing but normal forms.

* `shown_blanks`, `shown_blanks_of_outer`, `shown_trailing` — blanks inside a line and at its ends.
* `shown_remark`, `shown_comment` — comments.
* `shown_map_toLower` — the case of letters.
* `formatting_keeps_verdicts` — **edits keep normal forms and verdicts.**
-/

namespace SnippetLab.Fix

open Source

/-! ## Edits -/

/-- White space within a line. -/
def IsBlank (ws : Text) : Prop := ∀ c ∈ ws, Text.isBlank c = true ∧ c ≠ '\n'

/-- Does a line begin after a text? -/
def BeginsLine (before : Text) : Prop := before = [] ∨ ∃ earlier, before = earlier ++ ['\n']

/-- Does a line end before a text?  A carriage return may stand in front of the line feed. -/
def LineEnds (after : Text) : Prop :=
  after = [] ∨ ∃ later, after = '\n' :: later ∨ after = '\r' :: '\n' :: later

/-- Outside literals and block comments. -/
def IsOutside : Place → Prop
  | .code | .slash | .remark => True
  | _ => False

/-- **What formatting may do to a text.** -/
inductive Edit : Text → Text → Prop
  /-- Blanks within a line are replaced by others. -/
  | respace {ws ws' : Text} (before after : Text) (blank : IsBlank ws) (blank' : IsBlank ws')
      (nonempty : ws ≠ []) (nonempty' : ws' ≠ []) :
      Edit (before ++ (ws ++ after)) (before ++ (ws' ++ after))
  /-- Blanks are added to the beginning of a line. -/
  | indent {before ws : Text} (after : Text) (begins : BeginsLine before) (blank : IsBlank ws) :
      Edit (before ++ after) (before ++ (ws ++ after))
  /-- Blanks are added to the end of a line. -/
  | trail {ws after : Text} (before : Text) (ends : LineEnds after) (blank : IsBlank ws) :
      Edit (before ++ after) (before ++ (ws ++ after))
  /-- A line of blanks is put before a line. -/
  | lineBefore {before ws : Text} (after : Text) (begins : BeginsLine before) (blank : IsBlank ws) :
      Edit (before ++ after) (before ++ (ws ++ '\n' :: after))
  /-- A line of blanks is put behind a line. -/
  | lineBehind {ws after : Text} (before : Text) (ends : LineEnds after) (blank : IsBlank ws) :
      Edit (before ++ after) (before ++ '\n' :: (ws ++ after))
  /-- A space and a comment are added to a line that ends outside literals and block comments. -/
  | remark {before marker body after : Text} (ends : LineEnds after)
      (outside : IsOutside (Place.code.after before))
      (marks : marker = ['/', '/'] ∨ marker = ['#']) (whole : '\n' ∉ body) :
      Edit (before ++ after) (before ++ ' ' :: (marker ++ (body ++ after)))
  /-- A block comment of one line is put behind a blank outside literals and comments. -/
  | comment {before body : Text} {c : Char} (after : Text) (blank : Text.isBlank c = true)
      (code : Place.code.after (before ++ [c]) = .code) (whole : '\n' ∉ body)
      (inner : ¬['*', '/'] <:+: body) :
      Edit (before ++ c :: after) (before ++ c :: '/' :: '*' :: (body ++ '*' :: '/' :: after))
  /-- ASCII letters change case. -/
  | recase {t t' : Text} (same : t.map Char.toLower = t'.map Char.toLower) : Edit t t'

/-- **Two texts that are formatted differently**: any number of edits leads from one to the other,
done or undone. -/
def SameCode : Text → Text → Prop := Relation.EqvGen Edit

/-! ## Blanks -/

section

variable {p : Place} {ws : Text} (g : Gap) (r : Text)

/-- **Blanks within a line are as good as one space.** -/
lemma shown_blanks (proper : p.Proper) (blank : IsBlank ws) (nonempty : ws ≠ []) :
    shown g p (ws ++ r) = shown g p (' ' :: r) := by
  induction ws generalizing g p with
  | nil => exact absurd rfl nonempty
  | cons c ws ih =>
      obtain ⟨⟨here, inside⟩, later⟩ := List.forall_mem_cons.1 blank
      have first := fun g r => shown_blank_congr (p := p) g r proper here inside
        (d := ' ') (by decide) (by decide)
      by_cases last : ws = []
      · subst last
        exact first g r
      · have rest := fun g => ih g (proper.next c) later last
        calc shown g p (c :: (ws ++ r)) = shown g p (c :: ' ' :: r) := shown_append [c] rest g
          _ = shown g p (' ' :: ' ' :: r) := first g _
          _ = shown g p (' ' :: r) := shown_blank_blank g r proper (by decide) (by decide)

/-- **Blanks at the beginning of a line are not written.** -/
lemma shown_blanks_of_outer {g : Gap} (outer : g.Outer) (blank : IsBlank ws) :
    shown g p.fed (ws ++ r) = shown g p.fed r := by
  induction ws with
  | nil => rfl
  | cons c ws ih =>
      obtain ⟨⟨here, inside⟩, later⟩ := List.forall_mem_cons.1 blank
      rw [List.cons_append, shown_blank_of_outer _ outer here inside, ih later]

/-- Blanks before the end of a line are not written. -/
lemma shown_blanks_of_endsLine {rest : Text} (proper : p.Proper) (blank : IsBlank ws)
    (ends : EndsLine rest) : shown g p (ws ++ rest) = shown g p rest := by
  by_cases nonempty : ws = []
  · subst nonempty
    rfl
  · rw [shown_blanks g rest proper blank nonempty]
    rcases ends.eq_nil_or_cons with rfl | ⟨later, rfl⟩
    · exact shown_blank_nil g proper (by decide) (by decide)
    · exact shown_blank_feed g later proper (by decide) (by decide)

lemma isBlank_space : IsBlank [' '] := by simp [IsBlank, Text.isBlank]

lemma IsBlank.append {ws ws' : Text} (blank : IsBlank ws) (blank' : IsBlank ws') :
    IsBlank (ws ++ ws') := by
  intro c held
  rcases List.mem_append.1 held with first | second
  · exact blank c first
  · exact blank' c second

/-- A carriage return may stand before the end of a line. -/
lemma LineEnds.exists_endsLine {after : Text} (ends : LineEnds after) :
    ∃ back rest, IsBlank back ∧ EndsLine rest ∧ after = back ++ rest := by
  rcases ends with rfl | ⟨later, rfl | rfl⟩
  · exact ⟨[], [], nofun, nofun, rfl⟩
  · exact ⟨[], '\n' :: later, nofun, by simp [EndsLine], rfl⟩
  · exact ⟨['\r'], '\n' :: later, by simp [IsBlank, Text.isBlank], by simp [EndsLine], rfl⟩

/-- **Blanks at the end of a line are not written.** -/
lemma shown_trailing {after : Text} (proper : p.Proper) (blank : IsBlank ws)
    (ends : LineEnds after) : shown g p (ws ++ after) = shown g p after := by
  obtain ⟨back, rest, return_, done, rfl⟩ := ends.exists_endsLine
  rw [← List.append_assoc, shown_blanks_of_endsLine g proper (blank.append return_) done,
    shown_blanks_of_endsLine g proper return_ done]

/-- **A line of blanks behind another is not written.** -/
lemma shown_line_behind {after : Text} (proper : p.Proper) (blank : IsBlank ws)
    (ends : LineEnds after) : shown g p ('\n' :: (ws ++ after)) = shown g p after := by
  obtain ⟨back, rest, return_, done, rfl⟩ := ends.exists_endsLine
  rw [shown_blanks_of_endsLine g proper return_ done, ← List.append_assoc, shown_feed,
    shown_blanks_of_outer rest (Gap.outer_widen_feed _) (blank.append return_), ← shown_feed]
  rcases done.eq_nil_or_cons with rfl | ⟨later, rfl⟩
  · exact shown_feed_nil g
  · rw [shown_feed, shown_feed_of_outer later (Gap.outer_widen_feed _), ← shown_feed]

/-- **Texts that are written alike at the beginning of a line are so wherever one begins.** -/
lemma shown_of_beginsLine {before t t' : Text} (begins : BeginsLine before)
    (same : ∀ (g : Gap) (p : Place), g.Outer → shown g p.fed t = shown g p.fed t') :
    shown .start .code (before ++ t) = shown .start .code (before ++ t') := by
  rcases begins with rfl | ⟨earlier, rfl⟩
  · exact same .start .code rfl
  · rw [List.append_assoc, List.append_assoc]
    refine shown_append earlier (fun g => ?_) .start
    rw [List.singleton_append, List.singleton_append, shown_feed, shown_feed,
      same _ _ (Gap.outer_widen_feed _)]

end

/-! ## Comments -/

section

variable {p : Place} (g : Gap)

/-- A marked remark leaves nothing on its line. -/
lemma cleared_marked (outside : IsOutside p) {marker body rest : Text}
    (marks : marker = ['/', '/'] ∨ marker = ['#']) (whole : '\n' ∉ body) (ends : EndsLine rest) :
    cleared p.settled (marker ++ (body ++ rest)) = cleared p.settled rest := by
  have remark := cleared_remark whole ends
  cases p with
  | code | slash =>
      rcases marks with rfl | rfl
      · exact remark
      · exact remark
  | remark =>
      have none := cleared_remark (r := []) List.not_mem_nil ends
      have line : '\n' ∉ marker ++ body := by
        rcases marks with rfl | rfl
        · simp [whole]
        · simp [whole]
      rw [← List.append_assoc]
      exact (cleared_remark line ends).trans none.symm
  | comment | star | literal q | escaped q => cases outside

/-- **A remark at the end of a line is not written.** -/
lemma shown_remark (proper : p.Proper) (outside : IsOutside p) {marker body after : Text}
    (marks : marker = ['/', '/'] ∨ marker = ['#']) (whole : '\n' ∉ body) (ends : LineEnds after) :
    shown g p (' ' :: (marker ++ (body ++ after))) = shown g p after := by
  obtain ⟨back, rest, return_, done, rfl⟩ := ends.exists_endsLine
  have line : '\n' ∉ body ++ back := by
    rw [List.mem_append, not_or]
    exact ⟨whole, fun held => (return_ _ held).2 rfl⟩
  have space := fun r => shown_blank g proper (c := ' ') (by decide) (by decide) r
  calc shown g p (' ' :: (marker ++ (body ++ (back ++ rest))))
      = shown g p (' ' :: (marker ++ ((body ++ back) ++ rest))) := by rw [List.append_assoc]
    _ = shown g p (' ' :: rest) := by
        rw [space, space, shown, shown, cleared_marked outside marks line done]
    _ = shown g p rest :=
        shown_blanks_of_endsLine g proper isBlank_space done
    _ = shown g p (back ++ rest) := (shown_blanks_of_endsLine g proper return_ done).symm

/-- A block comment leaves a space. -/
lemma cleared_block {body : Text} (whole : '\n' ∉ body) (inner : ¬['*', '/'] <:+: body) (r : Text) :
    cleared .comment (body ++ '*' :: '/' :: r) = ' ' :: cleared .code r := by
  induction body with
  | nil => rfl
  | cons c body ih =>
      rw [List.mem_cons, not_or] at whole
      have rest := ih whole.2 fun found => inner (found.trans (List.suffix_cons c body).isInfix)
      rw [List.cons_append, cleared_cons, Place.leaves, if_neg (Ne.symm whole.1), List.nil_append,
        Place.next]
      split
      · rename_i star
        subst star
        rw [cleared_star, rest]
        -- a slash would close the comment here
        intro slash
        cases body with
        | nil => cases slash
        | cons d body =>
            cases slash
            exact inner ⟨[], body, rfl⟩
      · exact rest

/-- **A block comment behind a blank is not written.** -/
lemma shown_comment (proper : p.Proper) {c : Char} (blank : Text.isBlank c = true)
    (code : p.next c = .code) {body : Text} (whole : '\n' ∉ body) (inner : ¬['*', '/'] <:+: body)
    (after : Text) :
    shown g p (c :: '/' :: '*' :: (body ++ '*' :: '/' :: after)) = shown g p (c :: after) := by
  have left : p.leaves c = p.pending ++ [c] := by
    by_cases inside : c = '\n'
    · subst inside
      cases p with
      | _ => rfl
    · obtain ⟨next, left⟩ := Place.read_ordinary proper (ordinary_of_isBlank blank inside)
      rw [next] at code
      rw [left, ← Place.isSilent_settled, code]
      rfl
  have read : ∀ r, shown g p (c :: r) =
      reflow g p.pending ++ reflow ((g.after p.pending).widen c) (cleared .code r) := by
    intro r
    rw [shown, cleared_cons, left, code, List.append_assoc, reflow_append, List.singleton_append,
      reflow_of_isBlank blank]
  have block : cleared .code ('/' :: '*' :: (body ++ '*' :: '/' :: after)) =
      ' ' :: cleared .code after := cleared_block whole inner after
  rw [read, read, block, reflow_of_isBlank (by decide), Gap.widen_widen _ c (by decide)]

end

/-! ## The case of letters -/

/-- A capital is ordinary, and so is its small form. -/
lemma ordinary_of_isUpper {c : Char} (h : c.isUpper = true) : Ordinary c ∧ Ordinary c.toLower :=
  Text.of_isUpper (p := fun c => Ordinary c ∧ Ordinary c.toLower)
    (by unfold Ordinary; decide) h

/-- **The case of a letter makes no difference to a reader.** -/
lemma read_toLower {p : Place} (proper : p.Proper) (c : Char) :
    p.next c.toLower = p.next c ∧ p.leaves c.toLower = (p.leaves c).map Char.toLower := by
  by_cases capital : c.isUpper = true
  · obtain ⟨ordinary, ordinary'⟩ := ordinary_of_isUpper capital
    obtain ⟨next, left⟩ := Place.read_ordinary proper ordinary
    obtain ⟨next', left'⟩ := Place.read_ordinary proper ordinary'
    rw [next, next', left, left']
    refine ⟨rfl, ?_⟩
    cases p with
    | _ => rfl
  · have same := Text.toLower_of_not_isUpper capital
    rw [same]
    refine ⟨rfl, Eq.symm ?_⟩
    refine (List.map_congr_left fun d left => ?_).trans (List.map_id _)
    rcases Place.mem_leaves left with rfl | rfl | rfl
    · exact same
    · rfl
    · rfl

lemma cleared_map_toLower {p : Place} (proper : p.Proper) (t : Text) :
    cleared p (t.map Char.toLower) = (cleared p t).map Char.toLower := by
  induction t generalizing p with
  | nil =>
      cases p with
      | _ => rfl
  | cons c r ih =>
      obtain ⟨next, left⟩ := read_toLower proper c
      rw [List.map_cons, cleared_cons, cleared_cons, next, left, ih (proper.next c), List.map_append]

lemma reflow_map_toLower (g : Gap) (t : Text) :
    reflow g (t.map Char.toLower) = (reflow g t).map Char.toLower := by
  induction t generalizing g with
  | nil => rfl
  | cons c r ih =>
      have blanks := Text.of_asciiCase Text.isBlank (by decide) c
      have gaps : g.text.map Char.toLower = g.text := by
        cases g with
        | _ => rfl
      rw [List.map_cons]
      cases blank : Text.isBlank c with
      | true =>
          have same : c.toLower = c := by
            refine Text.toLower_of_not_isUpper fun capital => ?_
            have visible : Text.isBlank c = false :=
              Text.of_isUpper (p := fun c => Text.isBlank c = false) (by decide) capital
            rw [visible] at blank
            cases blank
          rw [same, reflow_of_isBlank blank, reflow_of_isBlank blank, ih]
      | false =>
          rw [reflow_of_not_isBlank (blanks.trans blank), reflow_of_not_isBlank blank, ih,
            List.map_append, gaps, List.map_cons]

/-- What is written of a text in small letters. -/
lemma shown_map_toLower (t : Text) :
    shown .start .code (t.map Char.toLower) = (shown .start .code t).map Char.toLower := by
  have proper : Place.code.Proper := trivial
  rw [shown, cleared_map_toLower proper, reflow_map_toLower, shown]

lemma join_map_toLower (lines : List Text) :
    Text.join "\n" (lines.map (List.map Char.toLower)) =
      (Text.join "\n" lines).map Char.toLower := by
  rw [← pasted_start, ← pasted_start]
  have all : ∀ g : Gap, pasted g (lines.map (List.map Char.toLower)) =
      (pasted g lines).map Char.toLower := by
    induction lines with
    | nil => exact fun _ => rfl
    | cons line rest ih =>
        intro g
        have gaps : g.text.map Char.toLower = g.text := by
          cases g with
          | _ => rfl
        rw [List.map_cons, pasted, pasted, ih, List.map_append, List.map_append, gaps]
  exact all .start

/-- **The lines of a text in small letters are its lines in small letters.** -/
lemma plainLines_map_toLower (t : Text) :
    plainLines (t.map Char.toLower) = (plainLines t).map (List.map Char.toLower) := by
  refine eq_of_join_eq (fun _ => of_mem_plainLines) ?_ ?_
  · intro line found
    obtain ⟨source, here, rfl⟩ := List.mem_map.1 found
    obtain ⟨nonempty, whole⟩ := of_mem_plainLines here
    refine ⟨by simpa using nonempty, fun held => ?_⟩
    obtain ⟨c, there, small⟩ := List.mem_map.1 held
    have same := Text.of_asciiCase (· == '\n') (by decide) c
    rw [small, beq_self_eq_true] at same
    exact whole (beq_iff_eq.1 same.symm ▸ there)
  · rw [join_plainLines, shown_map_toLower, ← join_plainLines, join_map_toLower]

lemma normalLines_map_toLower (t : Text) : normalLines (t.map Char.toLower) = normalLines t := by
  rw [normalLines_eq, normalLines_eq, plainLines_map_toLower, List.map_map]
  exact List.map_congr_left fun line _ => Text.lower_map_toLower line

/-! ## Verdicts -/

/-- **An edit keeps the lines of the normal form.** -/
theorem Edit.normalLines_eq {t t' : Text} (edit : Edit t t') : normalLines t = normalLines t' := by
  have proper : ∀ before, (Place.code.after before).Proper := Place.Proper.after trivial
  have lowered : plainLines t = plainLines t' → normalLines t = normalLines t' := by
    intro same
    rw [Fix.normalLines_eq, Fix.normalLines_eq, same]
  cases edit with
  | respace before after blank blank' nonempty nonempty' =>
      refine lowered (plainLines_eq_of_shown_eq (shown_append before (fun g => ?_) .start))
      rw [shown_blanks g after (proper before) blank nonempty,
        shown_blanks g after (proper before) blank' nonempty']
  | indent after begins blank =>
      refine lowered (plainLines_eq_of_shown_eq (shown_of_beginsLine begins fun g p outer => ?_))
      exact (shown_blanks_of_outer after outer blank).symm
  | trail before ends blank =>
      refine lowered (plainLines_eq_of_shown_eq (shown_append before (fun g => ?_) .start))
      exact (shown_trailing g (proper before) blank ends).symm
  | lineBefore after begins blank =>
      refine lowered (plainLines_eq_of_shown_eq (shown_of_beginsLine begins fun g p outer => ?_))
      rw [shown_blanks_of_outer _ outer blank, shown_feed_of_outer after outer]
  | lineBehind before ends blank =>
      refine lowered (plainLines_eq_of_shown_eq (shown_append before (fun g => ?_) .start))
      exact (shown_line_behind g (proper before) blank ends).symm
  | @remark before _ _ _ ends outside marks whole =>
      refine lowered (plainLines_eq_of_shown_eq (shown_append before (fun g => ?_) .start))
      exact (shown_remark g (proper before) outside marks whole ends).symm
  | @comment before _ _ after blank code whole inner =>
      refine lowered (plainLines_eq_of_shown_eq (shown_append before (fun g => ?_) .start))
      rw [Place.after, List.foldl_append] at code
      exact (shown_comment g (proper before) blank code whole inner after).symm
  | recase same => rw [← normalLines_map_toLower t, same, normalLines_map_toLower]

/-- So do any number of edits, done or undone. -/
lemma SameCode.normalLines_eq {t t' : Text} (same : SameCode t t') :
    normalLines t = normalLines t' := by
  induction same with
  | rel t t' edit => exact edit.normalLines_eq
  | refl t => rfl
  | symm t t' _ ih => exact ih.symm
  | trans t t' t'' _ _ first second => exact first.trans second

/-- A comparison asks for nothing but the lines of normal forms. -/
lemma compare_congr {user user' reference reference' : Text}
    (h : normalLines user = normalLines user')
    (h' : normalLines reference = normalLines reference') :
    compare user reference = compare user' reference' := by
  have users : normalize user = normalize user' := by rw [normalize, normalize, h]
  have references : normalize reference = normalize reference' := by rw [normalize, normalize, h']
  unfold compare reject firstDifferingLine
  rw [users, references, core_eq_of_normalize_eq users, core_eq_of_normalize_eq references, h, h']

/-- The verdict on a request that tells the broken code. -/
lemma validate_some (user reference broken : Text) :
    validate ⟨user, reference, some broken⟩ =
      if normalize user = normalize broken then
        reject .unchanged (similarity (normalize user) (normalize reference)) user reference
      else if (compare user reference).matched &&
          similarity (normalize user) (normalize reference) <
            similarity (normalize user) (normalize broken) then
        reject .closerToBroken (similarity (normalize user) (normalize reference)) user reference
      else compare user reference := rfl

/-- **Formatting changes no verdict.**  Texts that are formatted differently have one normal form,
and a request has the verdict of any other whose texts are formatted differently. -/
theorem formatting_keeps_verdicts :
    (∀ t t' : Text, SameCode t t' → normalize t = normalize t') ∧
      ∀ request request' : Request, SameCode request.userCode request'.userCode →
        SameCode request.referenceCode request'.referenceCode →
        Option.Rel SameCode request.brokenCode request'.brokenCode →
        validate request = validate request' := by
  constructor
  · intro t t' same
    rw [normalize, normalize, same.normalLines_eq]
  · rintro ⟨user, reference, broken⟩ ⟨user', reference', broken'⟩ users references brokens
    have userLines : normalLines user = normalLines user' := users.normalLines_eq
    have referenceLines : normalLines reference = normalLines reference' :=
      references.normalLines_eq
    cases brokens with
    | none => exact compare_congr userLines referenceLines
    | some same =>
        rw [validate_some, validate_some, compare_congr userLines referenceLines]
        unfold reject firstDifferingLine normalize
        rw [userLines, referenceLines, same.normalLines_eq]

/-- A blank after a backslash in a literal is replaced, a block comment and a remark are put in, and
a letter changes case. -/
theorem formatting_keeps_verdicts_of_assignment :
    let user : Text := "x = \"\\ y\";"
    let user' : Text := "X /* 1 */= \"\\\t\ty\"; // done"
    let broken : Text := "y = 1;"
    SameCode user user' ∧ normalize user = normalize user' ∧
      validate ⟨user, "x = 2;", some broken⟩ = validate ⟨user', "x = 2;", some broken⟩ := by
  intro user user' broken
  have same : SameCode user user' := by
    have respaced : Edit user "x = \"\\\t\ty\";" :=
      .respace "x = \"\\" "y\";" isBlank_space
        (show IsBlank ['\t', '\t'] by simp [IsBlank, Text.isBlank]) (by decide) (by decide)
    have commented : Edit "x = \"\\\t\ty\";" "x /* 1 */= \"\\\t\ty\";" :=
      @Edit.comment "x" " 1 " ' ' "= \"\\\t\ty\";" (by decide) (by decide +kernel)
        (by decide +kernel) (by decide +kernel)
    have remarked : Edit "x /* 1 */= \"\\\t\ty\";" "x /* 1 */= \"\\\t\ty\"; // done" :=
      @Edit.remark "x /* 1 */= \"\\\t\ty\";" "//" " done" [] (Or.inl rfl) trivial (Or.inl rfl)
        (by decide +kernel)
    have recased : Edit "x /* 1 */= \"\\\t\ty\"; // done" user' := .recase (by decide +kernel)
    exact .trans _ _ _ (.rel _ _ respaced) (.trans _ _ _ (.rel _ _ commented)
      (.trans _ _ _ (.rel _ _ remarked) (.rel _ _ recased)))
  exact ⟨same, formatting_keeps_verdicts.1 user user' same,
    formatting_keeps_verdicts.2 ⟨user, "x = 2;", some broken⟩ ⟨user', "x = 2;", some broken⟩ same
      (.refl _) (.some (.refl _))⟩

end SnippetLab.Fix

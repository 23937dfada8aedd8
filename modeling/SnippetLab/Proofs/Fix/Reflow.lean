import SnippetLab.Proofs.Fix.Collapse
import SnippetLab.Proofs.Source.Places
import SnippetLab.Proofs.Text.Parts

/-!
# A normal form, character by character

The lines of a normal form, before they are lower-cased, can be written down while the text is read:
the characters of words are copied, and **each gap between two words becomes a line feed if it holds
one, and a space otherwise**.  Gaps at either end leave nothing, so the text that is written says
what the lines are.

* `Gap`, `reflow` — the gap behind the last word, and writing a text that has no comments.
* `shown` — what is written of a text with comments, read from a place on.
* `shown_append` — a reader who has passed a text knows two things of it: a gap and a place.
* `shown_blank` — **what a blank does to a reader**, and how blanks meet others and line feeds.
* `join_plainLines` — what is written is the lines of the normal form.
-/

namespace SnippetLab.Fix

open Source

/-! ## Gaps -/

/-- What stands between the last word that was written and the next. -/
inductive Gap where
  /-- No word has been written. -/
  | start
  /-- A word goes on. -/
  | within
  /-- Blanks of one line. -/
  | space
  /-- Blanks with a line feed among them. -/
  | feed
  deriving DecidableEq

namespace Gap

/-- A gap with one blank more. -/
def widen : Gap → Char → Gap
  | .start, _ => .start
  | .feed, _ => .feed
  | .within, c | .space, c => if c = '\n' then .feed else .space

/-- What is written for a gap in front of a word. -/
def text : Gap → Text
  | .start | .within => []
  | .space => [' ']
  | .feed => ['\n']

/-- The gap after a character. -/
def next (g : Gap) (c : Char) : Gap := if Text.isBlank c then g.widen c else .within

/-- The gap after a text. -/
def after (g : Gap) (t : Text) : Gap := t.foldl next g

/-- A gap that a line feed leaves as it is. -/
def Outer (g : Gap) : Prop := g.widen '\n' = g

lemma widen_of_outer {g : Gap} (outer : g.Outer) (c : Char) : g.widen c = g := by
  cases g with
  | start | feed => rfl
  | within | space => cases outer

lemma outer_widen_feed (g : Gap) : (g.widen '\n').Outer := by
  cases g with
  | _ => rfl

/-- Blanks that end no line widen a gap alike. -/
lemma widen_of_ne (g : Gap) {c : Char} (inside : c ≠ '\n') : g.widen c = g.widen ' ' := by
  cases g with
  | start | feed => rfl
  | within | space => exact if_neg inside

/-- A gap that holds a blank is not widened by another of its line. -/
lemma widen_widen (g : Gap) (c : Char) {d : Char} (inside : d ≠ '\n') :
    (g.widen c).widen d = g.widen c := by
  cases g with
  | start | feed => rfl
  | within | space =>
      by_cases feed : c = '\n'
      · simp [widen, feed]
      · simp [widen, feed, inside]

/-- A line feed outdoes the blanks before it. -/
lemma widen_widen_feed (g : Gap) (c : Char) : (g.widen c).widen '\n' = g.widen '\n' := by
  cases g with
  | start | feed => rfl
  | within | space =>
      by_cases feed : c = '\n'
      · simp [widen, feed]
      · simp [widen, feed]

end Gap

/-- **Write a text with its gaps in their simplest form**, behind a gap. -/
def reflow : Gap → Text → Text
  | _, [] => []
  | g, c :: r =>
    if Text.isBlank c then reflow (g.widen c) r else g.text ++ c :: reflow .within r

lemma reflow_of_isBlank {c : Char} (blank : Text.isBlank c = true) (g : Gap) (r : Text) :
    reflow g (c :: r) = reflow (g.widen c) r := if_pos blank

lemma reflow_of_not_isBlank {c : Char} (visible : Text.isBlank c = false) (g : Gap) (r : Text) :
    reflow g (c :: r) = g.text ++ c :: reflow .within r := if_neg (by simp [visible])

/-- A text is written in parts. -/
lemma reflow_append (g : Gap) (t rest : Text) :
    reflow g (t ++ rest) = reflow g t ++ reflow (g.after t) rest := by
  induction t generalizing g with
  | nil => rfl
  | cons c r ih =>
      rw [List.cons_append, Gap.after, List.foldl_cons, Gap.next]
      cases blank : Text.isBlank c with
      | true => rw [reflow_of_isBlank blank, reflow_of_isBlank blank, ih, if_pos rfl]; rfl
      | false =>
          rw [reflow_of_not_isBlank blank, reflow_of_not_isBlank blank, ih,
            if_neg Bool.false_ne_true, List.append_assoc, List.cons_append]
          rfl

/-! ## Reading and writing -/

/-- **What is written of a text** that is read from a place on, behind a gap. -/
def shown (g : Gap) (p : Place) (t : Text) : Text := reflow g (cleared p t)

/-- **Texts that are written alike are so behind whatever has been read.** -/
lemma shown_append {p : Place} (before : Text) {t t' : Text}
    (same : ∀ g, shown g (p.after before) t = shown g (p.after before) t') (g : Gap) :
    shown g p (before ++ t) = shown g p (before ++ t') := by
  have rest := same (g.after (leavings p before))
  unfold shown at rest ⊢
  rw [cleared_append, cleared_append, reflow_append, rest, ← reflow_append]

/-- **A blank is written by widening the gap**, outside comments. -/
lemma shown_blank (g : Gap) {p : Place} (proper : p.Proper) {c : Char}
    (blank : Text.isBlank c = true) (inside : c ≠ '\n') (r : Text) :
    shown g p (c :: r) = reflow g p.pending ++
      shown (if p.isSilent then g.after p.pending else (g.after p.pending).widen c) p.settled r := by
  unfold shown
  rw [cleared_ordinary proper (ordinary_of_isBlank blank inside), List.append_assoc, reflow_append]
  split
  · rfl
  · rw [List.singleton_append, reflow_of_isBlank blank]

/-- **So is a line feed**, wherever it stands. -/
lemma shown_feed (g : Gap) (p : Place) (r : Text) :
    shown g p ('\n' :: r) =
      reflow g p.pending ++ shown ((g.after p.pending).widen '\n') p.fed r := by
  unfold shown
  rw [cleared_feed, reflow_append, reflow_of_isBlank (by decide)]

section

variable {p : Place} {c d : Char} (g : Gap) (r : Text)

/-- One blank is as good as another. -/
lemma shown_blank_congr (proper : p.Proper) (blank : Text.isBlank c = true) (inside : c ≠ '\n')
    (other : Text.isBlank d = true) (inside' : d ≠ '\n') :
    shown g p (c :: r) = shown g p (d :: r) := by
  rw [shown_blank g proper blank inside, shown_blank g proper other inside', Gap.widen_of_ne _ inside,
    Gap.widen_of_ne _ inside']

/-- Two blanks are as good as one. -/
lemma shown_blank_blank (proper : p.Proper) (blank : Text.isBlank c = true) (inside : c ≠ '\n') :
    shown g p (c :: c :: r) = shown g p (c :: r) := by
  rw [shown_blank g proper blank inside, shown_blank g proper blank inside,
    shown_blank _ proper.settled blank inside, Place.pending_settled, Place.settled_settled,
    Place.isSilent_settled]
  split
  · rfl
  · exact congrArg (_ ++ shown · _ _) (Gap.widen_widen _ c inside)

/-- A blank before a line feed is not written. -/
lemma shown_blank_feed (proper : p.Proper) (blank : Text.isBlank c = true) (inside : c ≠ '\n') :
    shown g p (c :: '\n' :: r) = shown g p ('\n' :: r) := by
  rw [shown_blank g proper blank inside, shown_feed, shown_feed, Place.pending_settled,
    Place.fed_settled]
  split
  · rfl
  · exact congrArg (_ ++ shown · _ _) (Gap.widen_widen_feed _ c)

/-- Nor is one at the end. -/
lemma shown_blank_nil (proper : p.Proper) (blank : Text.isBlank c = true) (inside : c ≠ '\n') :
    shown g p [c] = shown g p [] := by
  rw [shown_blank g proper blank inside, shown, shown, cleared_nil, cleared_nil,
    Place.pending_settled]
  exact List.append_nil _

/-- Nor is one that begins a line. -/
lemma shown_blank_of_outer {g : Gap} (outer : g.Outer) (blank : Text.isBlank c = true)
    (inside : c ≠ '\n') : shown g p.fed (c :: r) = shown g p.fed r := by
  rw [shown_blank g Place.proper_fed blank inside, Place.pending_fed, Place.settled_fed]
  split
  · rfl
  · exact congrArg (shown · _ _) (Gap.widen_of_outer outer c)

/-- A line feed that ends no line with words is not written. -/
lemma shown_feed_of_outer {g : Gap} (outer : g.Outer) :
    shown g p.fed ('\n' :: r) = shown g p.fed r := by
  rw [shown_feed, Place.pending_fed, Place.fed_fed]
  exact congrArg (shown · _ _) outer

/-- Nor is one at the end. -/
lemma shown_feed_nil : shown g p ['\n'] = shown g p [] := by
  rw [shown_feed, shown, shown, cleared_nil, cleared_nil, Place.pending_fed]
  exact List.append_nil _

end

/-! ## Lines -/

/-- The lines of a normal form before they are lower-cased. -/
def plainLines (code : Text) : List Text :=
  ((uncommentLines code.lines).map collapse).filter fun line => !line.isEmpty

lemma normalLines_eq (code : Text) : normalLines code = (plainLines code).map Text.lower := rfl

/-- Lines behind a gap. -/
def pasted : Gap → List Text → Text
  | _, [] => []
  | g, line :: rest => g.text ++ (line ++ pasted .feed rest)

lemma pasted_start (lines : List Text) : pasted .start lines = Text.join "\n" lines := by
  induction lines with
  | nil => rfl
  | cons line rest ih =>
      cases rest with
      | nil => simp [pasted, Gap.text, Text.join]
      | cons next rest =>
          rw [Text.join, List.intercalate_cons_cons, List.append_assoc]
          rw [pasted, Gap.text, Text.join] at ih
          rw [pasted, pasted, Gap.text, ← ih]
          rfl

section

variable {rest : Text}

lemma reflow_feed_of_endsLine (ends : EndsLine rest) : reflow .within rest = reflow .feed rest ∧
    reflow .space rest = reflow .feed rest := by
  rcases ends.eq_nil_or_cons with rfl | ⟨later, rfl⟩
  · exact ⟨rfl, rfl⟩
  · exact ⟨rfl, rfl⟩

/-- What follows on its line a character of a word, or a space after a word. -/
lemma reflow_within (ends : EndsLine rest) {line : Text} (whole : '\n' ∉ line) :
    reflow .within (line ++ rest) = afterWord line ++ reflow .feed rest ∧
      reflow .space (line ++ rest) = spaced (collapse line) ++ reflow .feed rest := by
  induction line with
  | nil => exact reflow_feed_of_endsLine ends
  | cons c r ih =>
      rw [List.mem_cons, not_or] at whole
      obtain ⟨within, space⟩ := ih whole.2
      cases blank : Text.isBlank c with
      | true =>
          have stays : Gap.within.widen c = .space ∧ Gap.space.widen c = .space := by
            simp [Gap.widen, Ne.symm whole.1]
          rw [List.cons_append, reflow_of_isBlank blank, reflow_of_isBlank blank, stays.1, stays.2,
            space, afterWord_of_isBlank blank, collapse_of_isBlank blank]
          exact ⟨rfl, rfl⟩
      | false =>
          rw [List.cons_append, reflow_of_not_isBlank blank, reflow_of_not_isBlank blank, within,
            afterWord_of_not_isBlank blank, collapse_of_not_isBlank blank]
          exact ⟨rfl, rfl⟩

/-- **A line is written collapsed**, and an empty one is not written. -/
lemma reflow_line (ends : EndsLine rest) {g : Gap} (outer : g.Outer) {line : Text}
    (whole : '\n' ∉ line) : reflow g (line ++ rest) =
      if collapse line = [] then reflow g rest
      else g.text ++ (collapse line ++ reflow .feed rest) := by
  induction line with
  | nil => rfl
  | cons c r ih =>
      rw [List.mem_cons, not_or] at whole
      cases blank : Text.isBlank c with
      | true =>
          rw [List.cons_append, reflow_of_isBlank blank, Gap.widen_of_outer outer, ih whole.2,
            collapse_of_isBlank blank]
      | false =>
          rw [List.cons_append, reflow_of_not_isBlank blank, (reflow_within ends whole.2).1,
            collapse_of_not_isBlank blank, if_neg (List.cons_ne_nil _ _)]
          rfl

end

/-- **The first line of a text and the others.**  A carriage return may stand between a line and its
line feed. -/
lemma lines_of_ne_nil {t : Text} (nonempty : t ≠ []) : ∃ line rest, '\n' ∉ line ∧ EndsLine rest ∧
    t.lines = line :: Text.lines rest.tail ∧
    (t = line ++ rest ∨ ∃ later, rest = '\n' :: later ∧ t = line ++ '\r' :: '\n' :: later) := by
  fun_induction Text.lines t with
  | case1 => exact absurd rfl nonempty
  | case2 r => exact ⟨[], '\n' :: r, by simp, by simp [EndsLine], rfl, Or.inl rfl⟩
  | case3 r => exact ⟨[], '\n' :: r, by simp, by simp [EndsLine], rfl, Or.inr ⟨r, rfl, rfl⟩⟩
  | case4 c r feed return_ ih =>
      cases r with
      | nil => exact ⟨[c], [], by simp [Ne.symm feed], by simp [EndsLine], rfl, Or.inl rfl⟩
      | cons d r =>
          obtain ⟨line, rest, whole, ends, same, shape⟩ := ih (List.cons_ne_nil d r)
          have other : '\n' ≠ c := fun is => feed is.symm
          refine ⟨c :: line, rest, by simp [whole, other], ends, by rw [same]; rfl, ?_⟩
          rcases shape with shape | ⟨later, begins, shape⟩
          · exact Or.inl (congrArg (c :: ·) shape)
          · exact Or.inr ⟨later, begins, congrArg (c :: ·) shape⟩

/-- A carriage return before a line feed is not written. -/
lemma shown_return {t line rest : Text} {g : Gap} {p : Place} (proper : p.Proper)
    (shape : t = line ++ rest ∨
      ∃ later, rest = '\n' :: later ∧ t = line ++ '\r' :: '\n' :: later) :
    shown g p t = shown g p (line ++ rest) := by
  rcases shape with rfl | ⟨later, rfl, rfl⟩
  · rfl
  · refine shown_append line (fun g => ?_) g
    exact shown_blank_feed g later (proper.after line) (by decide) (by decide)

section

variable {rest : Text}

/-- What is left where a line ends begins with its end. -/
lemma endsLine_cleared (ends : EndsLine rest) (inComment : Bool) :
    EndsLine (cleared (.atLine inComment) rest) := by
  rcases ends.eq_nil_or_cons with rfl | ⟨later, rfl⟩
  · cases inComment with
    | _ => exact nofun
  · cases inComment with
    | _ => simp [EndsLine, cleared_feed, Place.atLine, Place.pending]

/-- The end of a line is passed. -/
lemma shown_tail (ends : EndsLine rest) {g : Gap} (outer : g.Outer) (inComment : Bool) :
    reflow g (cleared (.atLine inComment) rest) = shown g (.atLine inComment) rest.tail := by
  rcases ends.eq_nil_or_cons with rfl | ⟨later, rfl⟩
  · rfl
  · cases inComment with
    | true => exact shown_feed_of_outer (p := .comment) later outer
    | false => exact shown_feed_of_outer (p := .code) later outer

end

/-- A line is written, and then those that follow it. -/
lemma shown_line {line rest : Text} (whole : '\n' ∉ line) (ends : EndsLine rest) {g : Gap}
    (outer : g.Outer) (inComment : Bool) :
    let scanned := lexemes ⟨true, true⟩ inComment line
    let collapsed := collapse (scanned.1.filterMap Lexeme.text)
    shown g (.atLine inComment) (line ++ rest) =
      if collapsed = [] then shown g (.atLine scanned.2) rest.tail
      else g.text ++ (collapsed ++ shown .feed (.atLine scanned.2) rest.tail) := by
  have scanned : cleared (.atLine inComment) (line ++ rest) =
      leftWith (lexemes ⟨true, true⟩ inComment line) rest := by
    cases inComment with
    | true => exact cleared_line .comment whole ends
    | false => exact cleared_line .code whole ends
  have left : '\n' ∉ (lexemes ⟨true, true⟩ inComment line).1.filterMap Lexeme.text :=
    feed_not_mem_kept _ whole
  intro _ _
  rw [shown, scanned, leftWith, reflow_line (endsLine_cleared ends _) outer left,
    shown_tail ends outer, shown_tail ends (g := .feed) rfl]

/-- **What is written of a text are its lines**, from the beginning of a line on. -/
lemma shown_eq_pasted {g : Gap} (outer : g.Outer) (inComment : Bool) (t : Text) :
    shown g (.atLine inComment) t =
      pasted g (((scanLines ⟨true, true⟩ Lexeme.text inComment t.lines).map collapse).filter
        fun line => !line.isEmpty) := by
  -- a line is passed at once, so the induction is on the length
  induction size : t.length using Nat.strong_induction_on generalizing g inComment t with
  | _ n ih =>
      subst size
      by_cases nonempty : t = []
      · subst nonempty
        cases inComment with
        | _ => rfl
      obtain ⟨line, rest, whole, ends, lines, shape⟩ := lines_of_ne_nil nonempty
      have shorter : rest.tail.length < t.length := by
        have some := List.length_pos_of_ne_nil nonempty
        rcases shape with rfl | ⟨later, rfl, rfl⟩
        · simp only [List.length_append, List.length_tail] at some ⊢
          omega
        · simp only [List.length_append, List.tail_cons, List.length_cons]
          omega
      have later := fun {g : Gap} (outer : g.Outer) inComment =>
        ih _ shorter outer inComment rest.tail rfl
      rw [shown_return (Place.proper_atLine inComment) shape, shown_line whole ends outer, later outer,
        later (g := .feed) rfl, lines, scanLines, List.map_cons]
      split
      · rename_i empty
        rw [List.filter_cons_of_neg (by simp [empty])]
      · rename_i some
        rw [List.filter_cons_of_pos (by simpa using some)]
        rfl

/-- **What is written of a text is its normal form, but for the case of letters.** -/
theorem join_plainLines (t : Text) : Text.join "\n" (plainLines t) = shown .start .code t :=
  (pasted_start _).symm.trans (shown_eq_pasted (g := .start) rfl false t).symm

lemma of_mem_plainLines {t line : Text} (h : line ∈ plainLines t) : line ≠ [] ∧ '\n' ∉ line := by
  obtain ⟨found, nonempty⟩ := List.mem_filter.1 h
  obtain ⟨source, -, rfl⟩ := List.mem_map.1 found
  refine ⟨by simpa using nonempty, fun held => ?_⟩
  exact absurd (eq_space_of_mem_collapse (by decide) held) (by decide)

/-- **Texts of which the same is written have the same lines.** -/
theorem plainLines_eq_of_shown_eq {a b : Text}
    (h : shown .start .code a = shown .start .code b) : plainLines a = plainLines b := by
  rw [← join_plainLines, ← join_plainLines] at h
  exact eq_of_join_eq (fun _ => of_mem_plainLines) (fun _ => of_mem_plainLines) h

end SnippetLab.Fix

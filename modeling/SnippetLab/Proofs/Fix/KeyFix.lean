import Mathlib.Data.List.TakeDrop
import SnippetLab.Fix.Verdict
import SnippetLab.Proofs.Fix.NormalForm
import SnippetLab.Proofs.Text.Parts

/-!
# A match keeps every fragment that makes the fix

Every detector cuts its fragments out of a line as they stand there.  So a core that holds a line
of the reference holds the fragments of that line, blanks aside, and only the lines that the
learner's core lacks have to be looked at by the detectors.

* `isInfix_of_mem_fragments` — a fragment stands in its line, whichever detector found it.
* `KeepsFragments` — one core holds every fragment of another.
* `checkKeyFixes_rejected_iff` — the detectors reject exactly the cores that lack a fragment.
* `matched_keepsFragments` — a match keeps them all, whatever decided it.
-/

namespace SnippetLab.Fix

open Text

/-! ## Fragments stand in their line

The parts a line is taken apart into first, then the detectors, one by one.
-/

lemma parenthesised?_isPrefix {depth : Nat} {t inner : Text}
    (h : parenthesised? depth t = some inner) : inner <+: t := by
  induction t generalizing depth inner with
  | nil => cases h
  | cons c r ih =>
      have onward : ∀ {d}, (parenthesised? d r).map (c :: ·) = some inner → inner <+: c :: r := by
        intro d found
        obtain ⟨part, here, rfl⟩ := Option.map_eq_some_iff.1 found
        exact List.cons_prefix_cons.2 ⟨rfl, ih here⟩
      unfold parenthesised? at h
      split at h
      · exact onward h
      · split at h
        · split at h
          · cases h
            exact List.nil_prefix
          · exact onward h
        · exact onward h

lemma fromKeyword_isSuffix (line : Text) : fromKeyword line <:+ line := by
  unfold fromKeyword
  dsimp only
  generalize dropped : (line.dropWhile fun c => c == '}' || c == ' ') = rest
  have ending : rest <:+ line := by
    rw [← dropped]
    exact List.dropWhile_suffix _
  cases found : Text.dropStart? rest "else " with
  | none => exact ending
  | some after =>
      have later : after <:+ rest := ⟨_, dropStart?_eq_some.1 found⟩
      exact later.trans ending

lemma headerOf?_isInfix {keywords : List Text} {line header : Text}
    (h : headerOf? keywords line = some header) : header <:+: line := by
  unfold headerOf? at h
  dsimp only at h
  split at h
  · obtain ⟨⟨before, inner⟩, cut, found⟩ := Option.bind_eq_some_iff.1 h
    have after : inner <:+ fromKeyword line := by
      rw [← append_of_cut cut, ← List.append_assoc]
      exact List.suffix_append _ inner
    exact (parenthesised?_isPrefix found).isInfix.trans
      (after.trans (fromKeyword_isSuffix line)).isInfix
  · cases h

lemma branchCondition?_isInfix {line condition : Text}
    (h : branchCondition? line = some condition) : condition <:+: line := by
  unfold branchCondition? at h
  split at h
  · rename_i header found
    cases h
    exact headerOf?_isInfix found
  · dsimp only at h
    split at h
    · cases h
    · rename_i rest found
      obtain ⟨keyword, -, begun⟩ := List.exists_of_findSome?_eq_some found
      obtain ⟨body, ended, rfl⟩ := Option.map_eq_some_iff.1 h
      have after : rest <:+ line := ⟨_, dropStart?_eq_some.1 begun⟩
      have before : body <+: rest := ⟨_, dropEnd?_eq_some.1 ended⟩
      exact (trim_isInfix body).trans (before.isInfix.trans after.isInfix)

lemma isInfix_of_mem_equalsCalls {line fragment : Text} (h : fragment ∈ equalsCalls line) :
    fragment <:+: line := by
  obtain ⟨call, found, rfl⟩ := List.mem_map.1 h
  have here := Span.isInfix_before (s := call) (List.takeWhile_prefix isPathChar)
  rwa [whole_of_mem_occurrences found] at here

lemma isInfix_of_mem_loopBounds {line fragment : Text} (h : fragment ∈ loopBounds line) :
    fragment <:+: line := by
  unfold loopBounds at h
  split at h
  · cases h
  · rename_i header found
    split at h
    · cases h
    · rename_i bound second
      split at h
      · rw [List.mem_singleton.1 h]
        have part := isInfix_of_mem_splitOn (List.mem_of_getElem? second)
        exact (trim_isInfix bound).trans (part.trans (headerOf?_isInfix found))
      · cases h

/-- The fragments that are the whole condition of a branch. -/
lemma isInfix_of_mem_branchCondition? {line fragment : Text}
    (h : fragment ∈ (branchCondition? line).toList) : fragment <:+: line :=
  branchCondition?_isInfix (Option.mem_toList.1 h)

/-- The comparisons with nothing are found where they stand. -/
lemma whole_of_mem_nullTestsIn {line : Text} {test : Span} (h : test ∈ nullTestsIn line) :
    test.whole = line := by
  have all : ∀ s ∈ nullTestsIn line, s.whole = line := by
    refine List.foldlRecOn (motive := fun (found : List Span) => ∀ s ∈ found, s.whole = line)
      nullTests _ (by simp) ?_
    intro found held sought _
    refine List.foldlRecOn (motive := fun (found : List Span) => ∀ s ∈ found, s.whole = line)
      _ _ held ?_
    intro found held here occurs
    split
    · exact held
    · intro s hs
      rcases List.mem_append.1 hs with old | new
      · exact held s old
      · rw [List.mem_singleton.1 new]
        exact whole_of_mem_occurrences occurs
  exact all test h

lemma isInfix_of_mem_nullGuards {line fragment : Text} (h : fragment ∈ nullGuards line) :
    fragment <:+: line := by
  obtain ⟨test, found, rfl⟩ := List.mem_map.1 h
  have near : test.before.takeWhile isBlank ++
      (test.before.dropWhile isBlank).takeWhile isPathChar <+: test.before := by
    conv_rhs => rw [← List.takeWhile_append_dropWhile (p := isBlank) (l := test.before)]
    exact (List.prefix_append_right_inj _).2 (List.takeWhile_prefix isPathChar)
  have here := Span.isInfix_before near
  rw [whole_of_mem_nullTestsIn found, List.reverse_append] at here
  rw [List.span_eq_takeWhile_dropWhile]
  exact here

lemma isInfix_of_mem_steps {line fragment : Text} (h : fragment ∈ steps line) :
    fragment <:+: line := by
  obtain ⟨sign, -, found⟩ := List.mem_flatMap.1 h
  obtain ⟨step, occurs, here⟩ := List.mem_filterMap.1 found
  have whole := whole_of_mem_occurrences occurs
  have body := body_of_mem_occurrences occurs
  dsimp only at here
  split at here
  · cases here
    have before := Span.isInfix_before (s := step) (List.takeWhile_prefix isWordChar)
    rwa [whole, body] at before
  · split at here
    · cases here
      have after := Span.isInfix_after (s := step) (List.takeWhile_prefix isWordChar)
      rwa [whole, body] at after
    · cases here

/-- **A fragment stands in the line it was found in**, whichever detector found it. -/
theorem isInfix_of_mem_fragments {d : Detector} (known : d ∈ detectors) {line fragment : Text}
    (h : fragment ∈ d.fragments line) : fragment <:+: line := by
  simp only [detectors, List.mem_cons, List.not_mem_nil, or_false] at known
  rcases known with rfl | rfl | rfl | rfl | rfl | rfl
  · exact isInfix_of_mem_equalsCalls h
  · exact isInfix_of_mem_loopBounds h
  · exact isInfix_of_mem_branchCondition? (List.mem_of_mem_filter h)
  · exact isInfix_of_mem_nullGuards h
  · exact isInfix_of_mem_steps h
  · exact isInfix_of_mem_branchCondition? (List.mem_of_mem_filter h)

/-! ## What the detectors reject -/

/-- **The learner's core holds every fragment** that a detector finds in a line of the reference's,
blanks aside. -/
def KeepsFragments (userCore referenceCore : Text) : Prop :=
  ∀ line ∈ referenceCore.lines, ∀ d ∈ detectors, ∀ fragment ∈ d.fragments line,
    fragment.squeeze <:+: userCore.squeeze

/-- A core that holds another holds its fragments. -/
lemma keepsFragments_of_isInfix {userCore referenceCore : Text} (h : referenceCore <:+: userCore) :
    KeepsFragments userCore referenceCore := by
  intro line hline d known fragment hfragment
  exact squeeze_isInfix ((isInfix_of_mem_fragments known hfragment).trans
    ((isInfix_of_mem_lines hline).trans h))

/-- Some detectors reject if one of them finds a fragment that is missing. -/
lemma checkWith_rejected_iff (user : Text) (changed : List Text) (accepted : Option Text)
    (ds : List Detector) :
    (∃ category, checkWith user changed accepted ds = .rejected category) ↔
      ∃ d ∈ ds, ∃ fragment ∈ d.found changed, user.has fragment = false := by
  induction ds generalizing accepted with
  | nil => cases accepted <;> simp [checkWith]
  | cons d rest ih =>
      rw [List.exists_mem_cons_iff, checkWith]
      split
      · rename_i quiet
        rw [ih, List.isEmpty_iff.1 quiet]
        simp
      · split
        · rename_i missing
          obtain ⟨fragment, found, lacks⟩ := List.any_eq_true.1 missing
          have lacks : user.has fragment = false := by simpa using lacks
          exact ⟨fun _ => Or.inl ⟨fragment, found, lacks⟩, fun _ => ⟨d.category, rfl⟩⟩
        · rename_i complete
          have held : ¬ ∃ fragment ∈ d.found changed, user.has fragment = false := by
            rintro ⟨fragment, found, lacks⟩
            exact complete (List.any_eq_true.2 ⟨fragment, found, by simp [lacks]⟩)
          rw [ih, or_iff_right held]

/-- **The detectors reject exactly the cores that lack a fragment.**  Lines that the two cores share
are not looked at, and need not be: a core holds the fragments of its own lines. -/
theorem checkKeyFixes_rejected_iff (userCore referenceCore : Text) :
    (∃ category, checkKeyFixes userCore referenceCore = .rejected category) ↔
      ¬ KeepsFragments userCore referenceCore := by
  rw [checkKeyFixes, checkWith_rejected_iff]
  constructor
  · rintro ⟨d, known, squeezed, found, lacks⟩ keeps
    obtain ⟨mapped, -⟩ := List.mem_filter.1 found
    obtain ⟨fragment, cut, rfl⟩ := List.mem_map.1 mapped
    obtain ⟨line, changed, here⟩ := List.mem_flatMap.1 cut
    have stands := keeps line (List.mem_of_mem_filter changed) d known fragment here
    rw [has_iff.2 stands] at lacks
    cases lacks
  · intro lacks
    by_contra none
    apply lacks
    intro line hline d known fragment here
    by_cases shared : line ∈ userCore.lines
    · exact squeeze_isInfix ((isInfix_of_mem_fragments known here).trans
        (isInfix_of_mem_lines shared))
    · by_cases blank : fragment.squeeze = []
      · rw [blank]
        exact List.nil_infix
      · have changed : line ∈ changedLines userCore referenceCore :=
          List.mem_filter.2 ⟨hline, by simp [shared]⟩
        have found : fragment.squeeze ∈ d.found (changedLines userCore referenceCore) :=
          List.mem_filter.2 ⟨List.mem_map_of_mem (List.mem_flatMap.2 ⟨line, changed, here⟩),
            by simp [blank]⟩
        rw [← has_iff]
        cases holds : userCore.squeeze.has fragment.squeeze with
        | true => rfl
        | false => exact absurd ⟨d, known, _, found, holds⟩ none

/-! ## Matches -/

/-- A containment is one of cores, unless the detectors reject it. -/
lemma of_contained {userCore referenceCore : Text} {outcome : KeyFixOutcome}
    (h : contained userCore referenceCore outcome = true) :
    referenceCore <:+: userCore ∨ ∀ category, outcome ≠ .rejected category := by
  simp only [contained, Bool.and_eq_true, Bool.or_eq_true] at h
  rcases h.2 with holds | ⟨-, kept⟩
  · exact Or.inl (has_iff.1 holds)
  · right
    intro category rejected
    rw [rejected] at kept
    cases kept

/-- A core that the detectors do not reject keeps every fragment. -/
lemma keepsFragments_of_not_rejected {userCore referenceCore : Text}
    (kept : ∀ category, checkKeyFixes userCore referenceCore ≠ .rejected category) :
    KeepsFragments userCore referenceCore := by
  by_contra lacks
  obtain ⟨category, rejected⟩ := (checkKeyFixes_rejected_iff userCore referenceCore).2 lacks
  exact kept category rejected

/-- What a match keeps, one way of matching after another. -/
lemma keepsFragments_of_matched {user reference : Text}
    (matched : (compare user reference).matched = true) :
    KeepsFragments (core user) (core reference) := by
  unfold compare at matched
  dsimp only at matched
  split at matched
  · rename_i normalized
    rw [core_eq_of_normalize_eq normalized]
    exact keepsFragments_of_isInfix (List.infix_refl _)
  · split at matched
    · rename_i same
      rw [same]
      exact keepsFragments_of_isInfix (List.infix_refl _)
    · split at matched
      · rename_i holds
        rcases of_contained holds with superset | kept
        · exact keepsFragments_of_isInfix superset
        · exact keepsFragments_of_not_rejected kept
      · split at matched
        · rename_i category accepted
          exact keepsFragments_of_not_rejected (by simp [accepted])
        · cases matched
        · rename_i quiet
          exact keepsFragments_of_not_rejected (by simp [quiet])

/-- **A match keeps every fragment that makes the fix**, whatever decided it: equal normal forms or
cores, containment either way, the detectors, or similarity.  So nothing that the detectors reject
is a match. -/
theorem matched_keepsFragments (user reference : Text)
    (matched : (compare user reference).matched = true) :
    KeepsFragments (core user) (core reference) ∧
      ∀ category, checkKeyFixes (core user) (core reference) ≠ .rejected category := by
  have keeps := keepsFragments_of_matched matched
  refine ⟨keeps, ?_⟩
  intro category rejected
  exact (checkKeyFixes_rejected_iff _ _).1 ⟨category, rejected⟩ keeps

/-- A call of `equals` on one line matches the same call spread over two, and keeps it. -/
theorem matched_keepsFragments_equals :
    let user : Text := "if(a.equals(b)) return 1;"
    let reference : Text := "if (a.equals(b))\n  return 1;"
    (compare user reference).matched = true ∧ KeepsFragments (core user) (core reference) := by
  intro user reference
  have matched : (compare user reference).matched = true := by decide +kernel
  exact ⟨matched, (matched_keepsFragments user reference matched).1⟩

end SnippetLab.Fix

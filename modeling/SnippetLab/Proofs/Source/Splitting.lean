import SnippetLab.Proofs.Text.Blanks
import SnippetLab.Proofs.Text.Parts
import SnippetLab.Source.Splitting

/-!
# What is cut at its separators was joined there

The scanner for top-level pieces carries two things along, the literal it is in and the depth of
the brackets.  A piece that gives both back as it found them, and in which the separator never
stands at the top level, is passed as one piece, whatever follows it.

* `Whole` — such a piece, from a state of the scanner on.
* `splitTopLevel_join` — **whole pieces that are joined are what the text is split into.**
* `map_isAllBlank_splitTopLevel_trim` — the blanks around a text do not matter to which pieces are
  blank.
* `splitAssignment_append` — the sides of an assignment are read back, and of a text whose beginning
  holds no assignment sign the left side has that beginning (`isPrefix_of_splitAssignment`).
-/

namespace SnippetLab.Source

open Text

/-! ## Top-level pieces -/

/-- **A piece for the scanner that stands at `quoting` and `depth`**: the separator is nowhere at
the top level, and at the end all literals are closed and all brackets balanced. -/
def Whole (sep : Char) : Quoting → Int → Text → Prop
  | quoting, depth, [] => quoting = .outside ∧ depth = 0
  | quoting, depth, c :: r =>
    separates sep quoting depth c = false ∧
      Whole sep (quoting.next c) (if quoting = .outside then depth + nestingStep c else depth) r

/-- Whether a piece is whole is found out by scanning it. -/
instance decidableWhole (sep : Char) :
    (quoting : Quoting) → (depth : Int) → (t : Text) → Decidable (Whole sep quoting depth t)
  | quoting, depth, [] => inferInstanceAs (Decidable (quoting = .outside ∧ depth = 0))
  | quoting, depth, c :: r =>
    have := decidableWhole sep (quoting.next c)
      (if quoting = .outside then depth + nestingStep c else depth) r
    inferInstanceAs (Decidable (_ ∧ _))

section Pieces

variable {sep : Char} {quoting : Quoting} {depth : Int} {piece : Text}

lemma splitFrom_whole (h : Whole sep quoting depth piece) :
    splitFrom sep quoting depth piece = [piece] := by
  induction piece generalizing quoting depth with
  | nil => rfl
  | cons c r ih => simp [splitFrom, h.1, ih h.2, consHead]

/-- A separator behind a whole piece ends it. -/
lemma splitFrom_whole_append (proper : separates sep .outside 0 sep = true)
    (h : Whole sep quoting depth piece) (rest : Text) :
    splitFrom sep quoting depth (piece ++ sep :: rest) =
      piece :: splitFrom sep .outside 0 rest := by
  induction piece generalizing quoting depth with
  | nil =>
      obtain ⟨rfl, rfl⟩ := h
      simp [splitFrom, proper]
  | cons c r ih => simp [splitFrom, h.1, ih h.2, consHead]

end Pieces

/-- **Whole pieces that are joined are what the text is split into.** -/
theorem splitTopLevel_join {sep : Char} (proper : separates sep .outside 0 sep = true)
    {pieces : List Text} (nonempty : pieces ≠ []) (whole : ∀ p ∈ pieces, Whole sep .outside 0 p) :
    splitTopLevel sep (Text.join [sep] pieces) = pieces := by
  induction pieces with
  | nil => exact absurd rfl nonempty
  | cons p rest ih =>
      rw [List.forall_mem_cons] at whole
      cases rest with
      | nil =>
          rw [Text.join, List.intercalate_singleton]
          exact splitFrom_whole whole.1
      | cons q rest =>
          have later := ih (List.cons_ne_nil q rest) whole.2
          rw [Text.join, List.intercalate_cons_cons, List.append_assoc, List.singleton_append,
            splitTopLevel, splitFrom_whole_append proper whole.1]
          exact congrArg (p :: ·) later

section Blanks

variable {sep : Char} {blanks : Text}

lemma splitFrom_ne_nil (sep : Char) (quoting : Quoting) (depth : Int) (t : Text) :
    splitFrom sep quoting depth t ≠ [] := by
  cases t with
  | nil => exact List.cons_ne_nil _ _
  | cons c r =>
      rw [splitFrom]
      dsimp only
      split
      · exact List.cons_ne_nil _ _
      · unfold consHead
        split <;> exact List.cons_ne_nil _ _

lemma separates_blank (solid : isBlank sep = false) {c : Char} (blank : isBlank c = true)
    (quoting : Quoting) (depth : Int) : separates sep quoting depth c = false := by
  have other : c ≠ sep := by
    rintro rfl
    cases solid.symm.trans blank
  simp [separates, other]

lemma next_of_isBlank {c : Char} (blank : isBlank c = true) :
    Quoting.outside.next c = .outside := by
  simpa using of_isBlank (p := fun c => Quoting.outside.next c == .outside) (by decide) blank

lemma nestingStep_of_isBlank {c : Char} (blank : isBlank c = true) : nestingStep c = 0 := by
  simpa using of_isBlank (p := fun c => nestingStep c == 0) (by decide) blank

/-- Blanks are one piece. -/
lemma splitFrom_blank (solid : isBlank sep = false) (blank : blanks.isAllBlank = true)
    (quoting : Quoting) (depth : Int) : splitFrom sep quoting depth blanks = [blanks] := by
  induction blanks generalizing quoting depth with
  | nil => rfl
  | cons c r ih =>
      simp only [isAllBlank, List.all_cons, Bool.and_eq_true] at blank
      simp [splitFrom, separates_blank solid blank.1, ih blank.2, consHead]

lemma map_isAllBlank_consHead (c : Char) {pieces others : List Text}
    (same : pieces.map isAllBlank = others.map isAllBlank) :
    (consHead c pieces).map isAllBlank = (consHead c others).map isAllBlank := by
  cases pieces with
  | nil =>
      obtain rfl := List.map_eq_nil_iff.1 same.symm
      rfl
  | cons p ps =>
      cases others with
      | nil => cases same
      | cons q qs =>
          obtain ⟨first, rest⟩ := List.cons.inj same
          have first : p.all isBlank = q.all isBlank := first
          simp only [consHead, List.map_cons, isAllBlank, List.all_cons, first]
          exact congrArg _ rest

/-- A blank makes no piece more or less blank. -/
lemma map_isAllBlank_consHead_blank {c : Char} (blank : isBlank c = true) {pieces : List Text}
    (nonempty : pieces ≠ []) : (consHead c pieces).map isAllBlank = pieces.map isAllBlank := by
  obtain ⟨p, ps, rfl⟩ := List.exists_cons_of_ne_nil nonempty
  simp [consHead, isAllBlank, blank]

/-- Blanks behind a text make none of its pieces more or less blank. -/
lemma map_isAllBlank_splitFrom_append (solid : isBlank sep = false)
    (blank : blanks.isAllBlank = true) (quoting : Quoting) (depth : Int) (t : Text) :
    (splitFrom sep quoting depth (t ++ blanks)).map isAllBlank =
      (splitFrom sep quoting depth t).map isAllBlank := by
  induction t generalizing quoting depth with
  | nil =>
      rw [List.nil_append, splitFrom_blank solid blank, List.map_singleton, blank]
      rfl
  | cons c r ih =>
      rw [List.cons_append, splitFrom, splitFrom]
      split
      · rw [List.map_cons, List.map_cons, ih]
      · exact map_isAllBlank_consHead c (ih ..)

/-- Nor do blanks in front of it. -/
lemma map_isAllBlank_splitTopLevel_append (solid : isBlank sep = false)
    (blank : blanks.isAllBlank = true) (t : Text) :
    (splitTopLevel sep (blanks ++ t)).map isAllBlank = (splitTopLevel sep t).map isAllBlank := by
  induction blanks with
  | nil => rfl
  | cons c r ih =>
      simp only [isAllBlank, List.all_cons, Bool.and_eq_true] at blank
      have onward : splitTopLevel sep (c :: (r ++ t)) = consHead c (splitTopLevel sep (r ++ t)) := by
        simp [splitTopLevel, splitFrom, separates_blank solid blank.1, next_of_isBlank blank.1,
          nestingStep_of_isBlank blank.1]
      have nonempty : splitTopLevel sep (r ++ t) ≠ [] := splitFrom_ne_nil sep .outside 0 _
      rw [List.cons_append, onward, map_isAllBlank_consHead_blank blank.1 nonempty, ih blank.2]

/-- **The blanks around a text make none of its pieces more or less blank.** -/
theorem map_isAllBlank_splitTopLevel_trim (solid : isBlank sep = false) (t : Text) :
    (splitTopLevel sep t.trim).map isAllBlank = (splitTopLevel sep t).map isAllBlank := by
  obtain ⟨before, behind, blankBefore, blankBehind, whole⟩ := exists_blanks_trim t
  conv_rhs => rw [whole, map_isAllBlank_splitTopLevel_append solid blankBefore]
  exact (map_isAllBlank_splitFrom_append solid blankBehind .outside 0 t.trim).symm

end Blanks

/-! ## Assignments -/

/-- Neither a quote nor part of the sign of an assignment or a comparison: the scanner for
assignments passes such a character and forgets it. -/
def isInert (c : Char) : Bool := !(isQuote c || c == '=' || c == '!' || c == '<' || c == '>')

lemma isInert_of_isBlank {c : Char} (h : isBlank c = true) : isInert c = true :=
  of_isBlank (by decide) h

lemma isInert_of_isWordChar {c : Char} (h : isWordChar c = true) : isInert c = true := by
  have other := not_mem_of_isWordChar h ['"', '\'', '=', '!', '<', '>'] (by decide)
  simpa [isInert, isQuote, and_assoc] using other

section Assignments

variable {w : Text}

/-- An inert character is no quote and no assignment sign. -/
lemma plain_of_isInert {c : Char} (h : isInert c = true) : isQuote c = false ∧ c ≠ '=' := by
  simp only [isInert, Bool.not_eq_true', Bool.or_eq_false_iff, beq_eq_false_iff_ne] at h
  obtain ⟨⟨⟨quote, -⟩, -⟩, -⟩ := h
  exact quote

/-- A beginning without quotes and assignment signs is passed, and belongs to the left side. -/
lemma splitAssignmentFrom_plain (h : ∀ c ∈ w, isQuote c = false ∧ c ≠ '=') (prev : Option Char)
    (rest : Text) : splitAssignmentFrom none prev (w ++ rest) =
      (splitAssignmentFrom none (w.getLast?.or prev) rest).map fun (left, right) =>
        (w ++ left, right) := by
  induction w generalizing prev with
  | nil => simp
  | cons c w ih =>
      rw [List.forall_mem_cons] at h
      obtain ⟨⟨quote, sign⟩, later⟩ := h
      have last : (c :: w).getLast?.or prev = w.getLast?.or (some c) := by
        rw [List.getLast?_cons]
        cases w.getLast? with
        | none => rfl
        | some d => rfl
      rw [List.cons_append, splitAssignmentFrom, last]
      simp [quote, sign, ih later, Function.comp_def]

/-- A text without a sign is no assignment. -/
lemma splitAssignment_eq_none (h : ∀ c ∈ w, isInert c = true) : splitAssignment w = none := by
  have passed := splitAssignmentFrom_plain (fun c hc => plain_of_isInert (h c hc)) none []
  rw [List.append_nil] at passed
  rw [splitAssignment, passed]
  rfl

/-- **The two sides are read back** if the sign belongs to no comparison. -/
theorem splitAssignment_plain (h : ∀ c ∈ w, isQuote c = false ∧ c ≠ '=')
    (last : ∀ c ∈ w.getLast?, isInert c = true) {right : Text} (after : right.head? ≠ some '=') :
    splitAssignment (w ++ '=' :: right) = some (w, right) := by
  have passed : ∀ d, isInert d = false → w.getLast? ≠ some d := by
    intro d other ends
    rw [last d ends] at other
    cases other
  rw [splitAssignment, splitAssignmentFrom_plain h]
  simp [splitAssignmentFrom, isQuote, after, passed '=' rfl, passed '!' rfl, passed '<' rfl,
    passed '>' rfl]

/-- The sides are read back if the left one is inert, unless a second sign makes it a comparison. -/
theorem splitAssignment_append (h : ∀ c ∈ w, isInert c = true) {right : Text}
    (after : right.head? ≠ some '=') : splitAssignment (w ++ '=' :: right) = some (w, right) :=
  splitAssignment_plain (fun c hc => plain_of_isInert (h c hc))
    (fun c ends => h c (List.mem_of_getLast? ends)) after

/-- The beginning before any sign is a beginning of the left side. -/
theorem isPrefix_of_splitAssignment (h : ∀ c ∈ w, isInert c = true) {rest left right : Text}
    (sides : splitAssignment (w ++ rest) = some (left, right)) : w <+: left := by
  rw [splitAssignment, splitAssignmentFrom_plain fun c hc => plain_of_isInert (h c hc)] at sides
  obtain ⟨⟨l, r⟩, -, same⟩ := Option.map_eq_some_iff.1 sides
  cases same
  exact List.prefix_append w l

end Assignments

/-- The sides of an assignment stand around its sign. -/
lemma append_of_splitAssignmentFrom {quote prev : Option Char} {t left right : Text}
    (h : splitAssignmentFrom quote prev t = some (left, right)) : left ++ '=' :: right = t := by
  induction t generalizing quote prev left with
  | nil => cases h
  | cons c r ih =>
      have onward : ∀ {quote'},
          (splitAssignmentFrom quote' (some c) r).map
            (fun (left, right) => (c :: left, right)) = some (left, right) →
          left ++ '=' :: right = c :: r := by
        intro quote' later
        obtain ⟨⟨l, r'⟩, found, same⟩ := Option.map_eq_some_iff.1 later
        cases same
        rw [List.cons_append, ih found]
      unfold splitAssignmentFrom at h
      cases quote with
      | some q => exact onward h
      | none =>
          simp only at h
          split at h
          · exact onward h
          · split at h
            · rename_i sign
              split at h
              · cases h
              · cases h
                rw [List.nil_append, sign]
            · exact onward h

end SnippetLab.Source

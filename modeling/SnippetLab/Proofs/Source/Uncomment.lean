import Mathlib.Data.Nat.Init
import Mathlib.Logic.Basic
import SnippetLab.Proofs.Text.LowerCase
import SnippetLab.Source.Lexing

/-!
# Texts that open no comment

Cutting the comments out of a line leaves a text in which the scanner meets no comment: cutting
brings no two characters together that would open one, since a closed comment leaves a space.  What
the scanner meets depends on where it stands, and it stands in a literal or in code whatever has
been cut, so the property is one of a text and a position (`Uncommented`).

* `uncommented_kept` — **what is left of a line when its comments go opens no comment.**
* `kept_of_uncommented` — a text that opens no comment is left as it is.
* `Uncommented.lowerFrom` — lower-casing opens no comment, since it has nothing to do with quotes,
  backslashes and the characters that open comments.
-/

namespace SnippetLab.Source

/-! ## Where the scanner stands -/

/-- Does a character of code open a comment, given the text after it? -/
def OpensComment (c : Char) (rest : Text) : Prop :=
  c = '#' ∨ c = '/' ∧ (rest.head? = some '/' ∨ rest.head? = some '*')

namespace Position

/-- Where the scanner stands after a character that opens no comment. -/
def after : Position → Char → Position
  | .code, c => if Text.isQuote c then .literal c else .code
  | .comment, _ => .comment
  | .literal q, c => if c = '\\' then .escaped q else if c = q then .code else .literal q
  | .escaped q, _ => .literal q

/-- Outside comments, and literals are opened by quotes. -/
def Proper : Position → Prop
  | .code => True
  | .comment => False
  | .literal q | .escaped q => Text.isQuote q = true

/-- Where the scanner stands after a character that is neither a quote nor a backslash. -/
def settled : Position → Position
  | .escaped q => .literal q
  | p => p

/-- The same position with the comment closed, if one is open. -/
def outside : Position → Position
  | .comment => .code
  | p => p

lemma proper_code : Position.code.Proper := trivial

lemma Proper.after {p : Position} (h : p.Proper) (c : Char) : (p.after c).Proper := by
  cases p with
  | code =>
      rw [Position.after]
      split
      · rename_i quote
        exact quote
      · trivial
  | comment => exact absurd h (by simp [Proper])
  | literal q =>
      rw [Position.after]
      split
      · exact h
      · split
        · trivial
        · exact h
  | escaped q => exact h

lemma Proper.settled {p : Position} (h : p.Proper) : p.settled.Proper := by
  cases p with
  | _ => exact h

@[simp] lemma settled_settled (p : Position) : p.settled.settled = p.settled := by
  cases p with
  | _ => rfl

lemma outside_of_ne {p : Position} (h : p ≠ .comment) : p.outside = p := by
  cases p with
  | comment => exact absurd rfl h
  | _ => rfl

lemma after_ne_comment {p : Position} (h : p ≠ .comment) (c : Char) : p.after c ≠ .comment := by
  cases p with
  | comment => exact absurd rfl h
  | _ => grind [after]

/-- Characters that have nothing to do with literals. -/
def Plain (c : Char) : Prop := Text.isQuote c = false ∧ c ≠ '\\'

lemma after_of_plain {p : Position} (h : p.Proper) {c : Char} (plain : Plain c) :
    p.after c = p.settled := by
  cases p with
  | code => simp [after, settled, plain.1]
  | comment => rfl
  | literal q =>
      have other : c ≠ q := by
        rintro rfl
        exact absurd h (by simp [Proper, plain.1])
      simp [after, settled, plain.2, other]
  | escaped q => rfl

lemma plain_of_isBlank {c : Char} (h : Text.isBlank c = true) : Plain c := by
  have other := Text.of_isBlank (p := fun c => !Text.isQuote c && c != '\\') (by decide) h
  simpa [Plain] using other

lemma plain_of_not_isUncased {c : Char} (h : Text.isUncased c = false) : Plain c := by
  constructor
  · cases quote : Text.isQuote c with
    | false => rfl
    | true =>
        simp only [Text.isQuote, Bool.or_eq_true, beq_iff_eq] at quote
        rcases quote with rfl | rfl
        · exact absurd h (by decide)
        · exact absurd h (by decide)
  · rintro rfl
    exact absurd h (by decide)

end Position

open Position

/-- **A text that, read from a position on, opens no comment.** -/
def Uncommented : Position → Text → Prop
  | _, [] => True
  | p, c :: r => (p = .code → ¬OpensComment c r) ∧ Uncommented (p.after c) r

/-! ## Cutting comments out -/

/-- The text that is left of a line, read from a position on, when its comments go. -/
def kept (p : Position) (t : Text) : Text := (scan ⟨true, true⟩ p t).1.filterMap Lexeme.text

/-- **A character that opens no comment is kept**, and the scanner passes on. -/
lemma scan_of_not_opens {p : Position} (outside : p ≠ .comment) {c : Char} {r : Text}
    (h : p = .code → ¬OpensComment c r) : ∃ l : Lexeme, l.text = some c ∧
      scan ⟨true, true⟩ p (c :: r) = emit l (scan ⟨true, true⟩ (p.after c) r) := by
  cases p with
  | comment => exact absurd rfl outside
  | escaped q => exact ⟨.content c, rfl, rfl⟩
  | literal q =>
      rw [scan, after]
      split
      · exact ⟨.content c, rfl, rfl⟩
      · split
        · exact ⟨.quote c, rfl, rfl⟩
        · exact ⟨.content c, rfl, rfl⟩
  | code =>
      have none := h rfl
      rw [OpensComment, not_or, not_and_or, not_or] at none
      obtain ⟨hash, slash⟩ := none
      rw [scan, after]
      · split
        · exact ⟨.quote c, rfl, rfl⟩
        · rw [if_neg (by simp [hash])]
          exact ⟨.code c, rfl, rfl⟩
      · rintro r' rfl rfl
        simp at slash
      · rintro r' rfl rfl
        simp at slash

lemma kept_cons {p : Position} (outside : p ≠ .comment) {c : Char} {r : Text}
    (h : p = .code → ¬OpensComment c r) : kept p (c :: r) = c :: kept (p.after c) r := by
  obtain ⟨l, text, scanned⟩ := scan_of_not_opens outside h
  rw [kept, scanned, emit, List.filterMap_cons_some text]
  rfl

/-- Of what opens a comment nothing is kept. -/
lemma kept_of_opens {c : Char} {r : Text} (h : OpensComment c r) :
    kept .code (c :: r) = [] ∨ ∃ r', r = '*' :: r' ∧ kept .code (c :: r) = kept .comment r' := by
  rcases h with rfl | ⟨rfl, slash | star⟩
  · left
    simp [kept, scan, Text.isQuote]
  · left
    obtain ⟨r', rfl⟩ := List.head?_eq_some_iff.1 slash
    simp [kept, scan]
  · right
    obtain ⟨r', rfl⟩ := List.head?_eq_some_iff.1 star
    exact ⟨r', rfl, by simp [kept, scan]⟩

/-- A comment goes on, or it is closed and leaves a space. -/
lemma kept_comment (c : Char) (r : Text) : kept .comment (c :: r) = kept .comment r ∨
    ∃ r', r = '/' :: r' ∧ kept .comment (c :: r) = ' ' :: kept .code r' := by
  by_cases closes : c = '*' ∧ r.head? = some '/'
  · right
    obtain ⟨rfl, slash⟩ := closes
    obtain ⟨r', rfl⟩ := List.head?_eq_some_iff.1 slash
    exact ⟨r', rfl, by simp [kept, scan, emit, Lexeme.text]⟩
  · left
    rw [kept, kept, scan]
    rintro r' rfl rfl
    simp at closes

lemma head_kept_comment {t : Text} {d : Char} (h : (kept .comment t).head? = some d) :
    d = ' ' := by
  induction t with
  | nil => cases h
  | cons c r ih =>
      rcases kept_comment c r with on | ⟨r', -, closed⟩
      · exact ih (on ▸ h)
      · rw [closed] at h
        cases h
        rfl

/-- **What is kept of a text of code begins as the text does**, or with the space that a comment
leaves. -/
lemma head_kept_code {t : Text} {d : Char} (h : (kept .code t).head? = some d) :
    d = ' ' ∨ t.head? = some d := by
  cases t with
  | nil => cases h
  | cons c r =>
      by_cases opens : OpensComment c r
      · rcases kept_of_opens opens with nothing | ⟨r', -, inside⟩
        · rw [nothing] at h
          cases h
        · rw [inside] at h
          exact Or.inl (head_kept_comment h)
      · rw [kept_cons (p := .code) nofun fun _ => opens] at h
        exact Or.inr h

/-- What opens no comment before a text opens none before what is kept of it. -/
lemma not_opensComment_kept {c : Char} {r : Text} (h : ¬OpensComment c r) :
    ¬OpensComment c (kept (Position.code.after c) r) := by
  rintro (hash | ⟨rfl, next⟩)
  · exact h (Or.inl hash)
  · refine h (Or.inr ⟨rfl, ?_⟩)
    rcases next with next | next
    · exact Or.inl ((head_kept_code next).resolve_left (by decide))
    · exact Or.inr ((head_kept_code next).resolve_left (by decide))

lemma not_opensComment_space (r : Text) : ¬OpensComment ' ' r := by
  simp [OpensComment]

/-- **What is left of a line when its comments go opens no comment.** -/
theorem uncommented_kept (p : Position) (t : Text) : Uncommented p.outside (kept p t) := by
  -- a comment may go over two characters at once, so the induction is on the length
  induction size : t.length using Nat.strong_induction_on generalizing p t with
  | _ n ih =>
      subst size
      cases t with
      | nil => cases p <;> trivial
      | cons c r =>
          by_cases inside : p = .comment
          · subst inside
            rcases kept_comment c r with on | ⟨r', rfl, closed⟩
            · rw [on]
              exact ih r.length (by simp) .comment r rfl
            · rw [closed]
              exact ⟨fun _ => not_opensComment_space _, ih r'.length (by simp +arith) .code r' rfl⟩
          · by_cases opens : p = .code ∧ OpensComment c r
            · obtain ⟨rfl, opens⟩ := opens
              rcases kept_of_opens opens with nothing | ⟨r', rfl, comment⟩
              · rw [nothing]
                trivial
              · rw [comment]
                exact ih r'.length (by simp +arith) .comment r' rfl
            · rw [not_and] at opens
              have rest := ih r.length (by simp) (p.after c) r rfl
              rw [outside_of_ne (after_ne_comment inside c)] at rest
              rw [outside_of_ne inside, kept_cons inside opens]
              refine ⟨?_, rest⟩
              rintro rfl
              exact not_opensComment_kept (opens rfl)

/-- **A text that opens no comment is left as it is**, and none is open at its end. -/
theorem kept_of_uncommented {p : Position} (outside : p ≠ .comment) {t : Text}
    (h : Uncommented p t) : kept p t = t ∧ (scan ⟨true, true⟩ p t).2 = false := by
  induction t generalizing p with
  | nil =>
      cases p with
      | comment => exact absurd rfl outside
      | _ => exact ⟨rfl, rfl⟩
  | cons c r ih =>
      obtain ⟨none, later⟩ := h
      obtain ⟨rest, closed⟩ := ih (after_ne_comment outside c) later
      obtain ⟨l, -, scanned⟩ := scan_of_not_opens outside none
      rw [kept_cons outside none, rest, scanned]
      exact ⟨rfl, closed⟩

/-- **Lines that open no comment are left as they are.** -/
theorem uncommentLines_of_uncommented {lines : List Text}
    (h : ∀ line ∈ lines, Uncommented .code line) : uncommentLines lines = lines := by
  unfold uncommentLines
  induction lines with
  | nil => rfl
  | cons line rest ih =>
      obtain ⟨same, closed⟩ := kept_of_uncommented (p := .code) nofun (h line List.mem_cons_self)
      have scanned : lexemes ⟨true, true⟩ false line = scan ⟨true, true⟩ .code line := rfl
      have later := ih fun other there => h other (List.mem_cons_of_mem line there)
      rw [scanLines, scanned, closed, later]
      exact congrArg (· :: rest) same

/-- **No line opens a comment when the comments have been cut out.** -/
theorem uncommented_of_mem_scanLines {inComment : Bool} {lines : List Text} {line : Text}
    (h : line ∈ scanLines ⟨true, true⟩ Lexeme.text inComment lines) : Uncommented .code line := by
  induction lines generalizing inComment with
  | nil => cases h
  | cons source rest ih =>
      rcases List.mem_cons.1 h with rfl | later
      · cases inComment with
        | true => exact uncommented_kept .comment source
        | false => exact uncommented_kept .code source
      · exact ih later

/-! ## Lower-casing -/

lemma head_lowerFrom {before t : Text} {d : Char} (uncased : Text.isUncased d = true)
    (h : (Text.lowerFrom before t).head? = some d) : t.head? = some d := by
  cases t with
  | nil => cases h
  | cons c r =>
      obtain ⟨e, form, shape⟩ := List.exists_cons_of_ne_nil (Text.formAt_ne_nil before c r)
      rw [Text.lowerFrom_cons, shape] at h
      cases h
      have here : d ∈ Text.formAt before c r := by simp [shape]
      rw [Text.eq_of_mem_formAt here uncased]
      rfl

/-- A character with case opens no comment and ends no literal. -/
lemma uncommented_cons {p : Position} (proper : p.Proper) {c : Char} {t : Text}
    (cased : Text.isUncased c = false) (h : Uncommented p.settled t) : Uncommented p (c :: t) := by
  constructor
  · rintro - (rfl | ⟨rfl, -⟩)
    · exact absurd cased (by decide)
    · exact absurd cased (by decide)
  · rw [after_of_plain proper (plain_of_not_isUncased cased)]
    exact h

lemma uncommented_append {p : Position} (proper : p.Proper) {w t : Text}
    (cased : ∀ c ∈ w, Text.isUncased c = false) (h : Uncommented p.settled t) :
    Uncommented p.settled (w ++ t) := by
  induction w with
  | nil => exact h
  | cons c w ih =>
      refine uncommented_cons proper.settled (cased c List.mem_cons_self) ?_
      rw [settled_settled]
      exact ih fun d later => cased d (List.mem_cons_of_mem c later)

/-- **Lower-casing opens no comment.** -/
theorem Uncommented.lowerFrom {p : Position} (proper : p.Proper) {t : Text} (before : Text)
    (h : Uncommented p t) : Uncommented p (Text.lowerFrom before t) := by
  induction t generalizing p before with
  | nil => trivial
  | cons c r ih =>
      obtain ⟨none, later⟩ := h
      rw [Text.lowerFrom_cons]
      have rest := ih (proper.after c) (c :: before) later
      cases uncased : Text.isUncased c with
      | true =>
          rw [Text.formAt_of_isUncased before r uncased]
          refine ⟨fun code => ?_, rest⟩
          rintro (hash | ⟨slash, next⟩)
          · exact none code (Or.inl hash)
          · refine none code (Or.inr ⟨slash, next.imp ?_ ?_⟩)
            · exact head_lowerFrom (by decide)
            · exact head_lowerFrom (by decide)
      | false =>
          have forms : ∀ d ∈ Text.formAt before c r, Text.isUncased d = false := by
            intro d held
            cases same : Text.isUncased d with
            | false => rfl
            | true =>
                rw [Text.eq_of_mem_formAt held same, uncased] at same
                cases same
          obtain ⟨d, w, shape⟩ := List.exists_cons_of_ne_nil (Text.formAt_ne_nil before c r)
          rw [after_of_plain proper (plain_of_not_isUncased uncased)] at rest
          rw [shape] at forms ⊢
          obtain ⟨first, others⟩ := List.forall_mem_cons.1 forms
          exact uncommented_cons proper first (uncommented_append proper others rest)

end SnippetLab.Source

import SnippetLab.Check.Form
import SnippetLab.Proofs.Source.Braces
import SnippetLab.Proofs.Source.Remarks

/-!
# The form of a snippet with braces

In a language with braces a snippet has the right form if its braces pair up and there are as many
parentheses of either kind.  The check counts the braces through all lines and gives up where more
are closed than are open; here its outcomes are told apart by what the snippet is, not by how it is
counted.

* `openBraces_eq` — **the counter** gives up exactly if the count drops below nought.
* `pairingError?_eq` — the outcomes in order: a count that drops, one that does not end at nought,
  parentheses that are not as many of one kind as of the other.
* `formError?_pairing` — **when a snippet has the right form, and which message it gets if not.**
-/

namespace SnippetLab.Check

open Source

/-! ## The counter -/

/-- **The counter of the check**: it gives up if the count drops, and else ends with the count. -/
lemma openBraces_eq {opened : Int} (open_ : 0 ≤ opened) (t : Text) :
    openBraces opened t =
      if DropsBelow opened t then none else some (opened + balance '{' '}' t) := by
  induction t generalizing opened with
  | nil =>
      rw [if_neg (not_dropsBelow_nil open_)]
      simp [openBraces, balance]
  | cons c t ih =>
      simp only [dropsBelow_cons open_, balance_cons '{' '}' c t, ← Int.add_assoc]
      rw [openBraces]
      by_cases opening : c = '{'
      · subst opening
        rw [if_pos rfl, balance_opening, ih (by omega)]
      · rw [if_neg opening]
        by_cases closing : c = '}'
        · subst closing
          rw [if_pos rfl, balance_closing, ← Int.sub_eq_add_neg]
          split
          · rename_i below
            rw [if_pos (dropsBelow_of_neg below t)]
          · rename_i stays
            exact ih (Int.not_lt.1 stays)
        · rw [if_neg closing, balance_of_not_isBrace (by simp [isBrace, opening, closing]),
            Int.add_zero]
          exact ih open_

/-- A count that does not drop is not below nought at the end. -/
lemma balance_nonneg {t : Text} (never : ¬DropsBelow 0 t) : 0 ≤ balance '{' '}' t := by
  by_contra below
  exact never ⟨t, List.prefix_rfl, by omega⟩

/-- **The outcomes of counting, in order.**  A brace that is missing is always a closing one. -/
lemma pairingError?_eq (stripped : List Text) :
    pairingError? stripped =
      if DropsBelow 0 stripped.flatten then some .unexpectedBrace
      else if balance '{' '}' stripped.flatten ≠ 0 then some (.missingBrace '}')
      else if balance '(' ')' stripped.flatten ≠ 0 then some .unbalancedParens
      else none := by
  unfold pairingError?
  rw [openBraces_eq le_rfl]
  by_cases drops : DropsBelow 0 stripped.flatten
  · rw [if_pos drops, if_pos drops]
  · have atLeast := balance_nonneg drops
    rw [if_neg drops, if_neg drops, Int.zero_add]
    by_cases ends : balance '{' '}' stripped.flatten = 0
    · simp [ends]
    · have positive : balance '{' '}' stripped.flatten > 0 := by omega
      simp [ends, positive]

/-! ## Blank code -/

/-- What the scanner leaves of a line has stood there, or is a space in the place of a comment. -/
lemma mem_of_mem_scan {style : CommentStyle} {p : Position} {t : Text} {l : Lexeme} {c : Char}
    (scanned : l ∈ (scan style p t).1) (left : l.outline = some c) : c ∈ t ∨ c = ' ' := by
  fun_induction scan style p t with
  | _ => grind [emit, Lexeme.outline]

lemma mem_of_mem_scanLines {style : CommentStyle} {opened : Bool} {lines : List Text} {c : Char}
    (left : c ∈ (scanLines style Lexeme.outline opened lines).flatten) :
    c ∈ lines.flatten ∨ c = ' ' := by
  induction lines generalizing opened with
  | nil => cases left
  | cons line rest ih =>
      rw [scanLines, List.flatten_cons, List.mem_append] at left
      rw [List.flatten_cons, List.mem_append]
      rcases left with here | later
      · obtain ⟨l, scanned, left⟩ := List.mem_filterMap.1 here
        exact (mem_of_mem_scan scanned left).imp_left .inl
      · exact (ih later).imp_left .inr

/-- Stripping blank code leaves only blanks. -/
lemma isBlank_of_mem_stripLines {language : Language} {code : Text}
    (blank : code.isAllBlank = true) {c : Char}
    (left : c ∈ (stripLines language code.lines).flatten) : Text.isBlank c = true := by
  rcases mem_of_mem_scanLines left with stood | rfl
  · obtain ⟨line, listed, within⟩ := List.mem_flatten.1 stood
    exact List.all_eq_true.1 blank c ((Text.isInfix_of_mem_lines listed).subset within)
  · decide

/-- In blank code there is nothing to count. -/
lemma count_eq_zero_of_isAllBlank (language : Language) {code : Text}
    (blank : code.isAllBlank = true) {c : Char} (solid : Text.isBlank c = false) :
    (stripLines language code.lines).flatten.count c = 0 :=
  List.count_eq_zero.2 fun left => by
    rw [isBlank_of_mem_stripLines blank left] at solid
    cases solid

/-! ## The check -/

section Check

variable {language : Language}

/-- The count drops where some beginning of the braces closes more than it opens. -/
lemma dropsBelow_iff_exists_prefix (t : Text) :
    DropsBelow 0 t ↔ ∃ p, p <+: bracesOf t ∧ p.count '{' < p.count '}' := by
  rw [← dropsBelow_bracesOf le_rfl]
  refine exists_congr fun p => and_congr_right fun _ => ?_
  unfold balance
  omega

/-- Where the count drops something is closed. -/
lemma count_pos_of_dropsBelow {t : Text} (drops : DropsBelow 0 t) : 0 < t.count '}' := by
  obtain ⟨p, begun, drops⟩ := drops
  have fewer := begun.sublist.count_le '}'
  unfold balance at drops
  omega

/-- The errors of form in a language with braces. -/
def pairingErrors : List FormError :=
  [.empty, .unexpectedBrace, .missingBrace '}', .unbalancedParens]

/-- They are told apart by their messages. -/
lemma eq_of_message_eq :
    ∀ e ∈ pairingErrors, ∀ e' ∈ pairingErrors, e.message = e'.message → e = e' := by
  decide

/-- In blank code everything is paired. -/
lemma paired_of_isAllBlank (language : Language) {code : Text} (blank : code.isAllBlank = true) :
    let stripped := (stripLines language code.lines).flatten
    ¬DropsBelow 0 stripped ∧ balance '{' '}' stripped = 0 ∧ balance '(' ')' stripped = 0 := by
  have none (c : Char) (solid : Text.isBlank c = false) :=
    count_eq_zero_of_isAllBlank language blank solid
  refine ⟨fun drops => ?_, ?_, ?_⟩
  · have closes := count_pos_of_dropsBelow drops
    rw [none '}' (by decide)] at closes
    exact absurd closes (by decide)
  · rw [balance, none '{' (by decide), none '}' (by decide)]
    rfl
  · rw [balance, none '(' (by decide), none ')' (by decide)]
    rfl

/-- In a language with braces it is the pairing that is checked, unless the code is blank. -/
lemma formError?_eq_of_braces (braces : language.usesBraces = true) (code : Text) :
    formError? language code =
      if code.isAllBlank then some .empty
      else pairingError? (stripLines language code.lines) := by
  simp only [formError?, if_pos braces]

lemma mem_pairingErrors (braces : language.usesBraces = true) {code : Text} {e : FormError}
    (found : formError? language code = some e) : e ∈ pairingErrors := by
  rw [formError?_eq_of_braces braces, pairingError?_eq] at found
  split_ifs at found <;> cases found <;> decide

/-- So a message says which error there is. -/
lemma map_message_eq_iff (braces : language.usesBraces = true) {code : Text} {e : FormError}
    (listed : e ∈ pairingErrors) :
    (formError? language code).map FormError.message = some e.message ↔
      formError? language code = some e := by
  refine ⟨fun told => ?_, fun found => congrArg (Option.map FormError.message) found⟩
  obtain ⟨e', found, same⟩ := Option.map_eq_some_iff.1 told
  rw [found, eq_of_message_eq e' (mem_pairingErrors braces found) e listed same]

/-- **When a snippet with braces has the right form, and which message it gets if not.**  A brace
that is missing is never an opening one. -/
theorem formError?_pairing (braces : language.usesBraces = true) (code : Text) :
    let stripped := (stripLines language code.lines).flatten
    let closesTooMany := ∃ p, p <+: bracesOf stripped ∧ p.count '{' < p.count '}'
    let parens := stripped.count '(' = stripped.count ')'
    let message := (formError? language code).map FormError.message
    (message = none ↔
      (∃ c ∈ code, Text.isBlank c = false) ∧ Dyck (bracesOf stripped) ∧ parens) ∧
    (message = some "Code is empty" ↔ ∀ c ∈ code, Text.isBlank c = true) ∧
    (message = some "Syntax error: Unexpected '\x7d'" ↔ closesTooMany) ∧
    (message = some "Syntax error: Unbalanced braces. Missing \x7d" ↔
      ¬closesTooMany ∧ stripped.count '}' < stripped.count '{') ∧
    (message = some "Syntax error: Unbalanced parentheses" ↔
      Dyck (bracesOf stripped) ∧ ¬parens) ∧
    message ≠ some "Syntax error: Unbalanced braces. Missing \x7b" ∧
    ∀ text ∈ message, text ∈ pairingErrors.map FormError.message := by
  dsimp only
  have told {e : FormError} (listed : e ∈ pairingErrors) :
      (formError? language code).map FormError.message = some e.message ↔
        formError? language code = some e := map_message_eq_iff braces listed
  have nothing (blank : code.isAllBlank = true) := paired_of_isAllBlank language blank
  have positive := balance_nonneg (t := (stripLines language code.lines).flatten)
  have outcome := formError?_eq_of_braces braces code
  have blank : (∀ c ∈ code, Text.isBlank c = true) ↔ code.isAllBlank = true :=
    List.all_eq_true.symm
  have solid : (∃ c ∈ code, Text.isBlank c = false) ↔ ¬code.isAllBlank = true := by
    simp [← blank]
  rw [pairingError?_eq] at outcome
  rw [← dropsBelow_iff_exists_prefix, dyck_bracesOf_iff, blank, solid]
  -- from here on the stripped text is only counted
  generalize (stripLines language code.lines).flatten = stripped at *
  have fewer : stripped.count '}' < stripped.count '{' ↔ 0 < balance '{' '}' stripped := by
    unfold balance
    omega
  have parens : stripped.count '(' = stripped.count ')' ↔ balance '(' ')' stripped = 0 := by
    unfold balance
    omega
  rw [fewer, parens]
  refine ⟨?_, ?_, ?_, ?_, ?_, ?_, ?_⟩
  · rw [Option.map_eq_none_iff, outcome]
    split_ifs <;> simp_all
  · refine (told (e := .empty) (by decide)).trans ?_
    rw [outcome]
    split_ifs <;> simp_all
  · refine (told (e := .unexpectedBrace) (by decide)).trans ?_
    rw [outcome]
    split_ifs <;> simp_all
  · refine (told (e := .missingBrace '}') (by decide)).trans ?_
    rw [outcome]
    split_ifs <;> grind
  · refine (told (e := .unbalancedParens) (by decide)).trans ?_
    rw [outcome]
    split_ifs <;> simp_all
  · intro missing
    obtain ⟨e, found, same⟩ := Option.map_eq_some_iff.1 missing
    have others : ∀ e ∈ pairingErrors, e.message ≠ FormError.message (.missingBrace '{') := by
      decide
    exact others e (mem_pairingErrors braces found) same
  · intro text told
    obtain ⟨e, found, rfl⟩ := Option.map_eq_some_iff.1 told
    exact List.mem_map_of_mem (mem_pairingErrors braces found)

/-- A brace in a literal does not count. -/
theorem formError?_pairing_after_literal :
    Language.java.usesBraces = true ∧
      (formError? .java "\x7b x = \"\x7b\";\n\x7d \x7d").map FormError.message =
        some "Syntax error: Unexpected '\x7d'" :=
  ⟨rfl, (formError?_pairing rfl _).2.2.1.2 ⟨"\x7b\x7d\x7d", by decide, by decide⟩⟩

end Check

end SnippetLab.Check

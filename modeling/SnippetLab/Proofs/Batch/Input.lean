import Mathlib.Data.List.Infix
import SnippetLab.Proofs.Expression.Literals
import SnippetLab.Proofs.Source.Rows
import SnippetLab.Proofs.Text.Replace

/-!
# How a test's input reaches a program

The calls that read input become a literal of the input, one kind of call after another.  A literal
holds no bare quote and no call does, so no call reaches from the code into a literal or out of it;
but **a call that stands in the input is replaced like one in the code** by the rounds to come, and
a line feed in the input stays one.

* `isInfix_literal_iff` — the calls in a literal are those in the input.
* `inject_replaces_calls` — what is put in for each call, when that is the literal of the input, and
  when the program keeps its number of lines.
-/

namespace SnippetLab.Batch

open Expression Text

/-! ## What stands in a literal -/

/-- A text that needs no escape. -/
def IsPlain (t : Text) : Prop := '\\' ∉ t ∧ '"' ∉ t

lemma isPrefix_of_escape {p input : Text} (plain : IsPlain p) (h : p <+: escape input) :
    p <+: input := by
  induction input generalizing p with
  | nil => exact h
  | cons c r ih =>
      cases p with
      | nil => exact List.nil_prefix
      | cons d p =>
          obtain ⟨backslash, quote⟩ := plain
          rw [List.mem_cons, not_or] at backslash quote
          rw [escape_cons] at h
          by_cases special : c = '\\' ∨ c = '"'
          · rw [if_pos special] at h
            exact absurd (List.cons_prefix_cons.1 h).1.symm backslash.1
          · rw [if_neg special] at h
            obtain ⟨rfl, later⟩ := List.cons_prefix_cons.1 h
            exact List.cons_prefix_cons.2 ⟨rfl, ih ⟨backslash.2, quote.2⟩ later⟩

lemma isInfix_of_escape {p input : Text} (plain : IsPlain p) (h : p <:+: escape input) :
    p <:+: input := by
  induction input with
  | nil => exact h
  | cons c r ih =>
      cases p with
      | nil => exact List.nil_infix
      | cons d p =>
          have begins : ∀ {e s}, d :: p <+: e :: s → e ∈ d :: p := fun found =>
            (List.cons_prefix_cons.1 found).1 ▸ List.mem_cons_self
          by_cases special : c = '\\' ∨ c = '"'
          · rw [escape_cons, if_pos special] at h
            -- neither the backslash nor the character it escapes begins the piece
            have beyond := (List.infix_cons_iff.1 h).resolve_left fun here => plain.1 (begins here)
            have later := (List.infix_cons_iff.1 beyond).resolve_left fun here => by
              rcases special with rfl | rfl
              · exact plain.1 (begins here)
              · exact plain.2 (begins here)
            exact (ih later).trans (List.suffix_cons c r).isInfix
          · rw [escape_cons, if_neg special] at h
            rcases List.infix_cons_iff.1 h with here | later
            · refine (isPrefix_of_escape plain ?_).isInfix
              rw [escape_cons, if_neg special]
              exact here
            · exact (ih later).trans (List.suffix_cons c r).isInfix

lemma escape_of_isPlain {p : Text} (plain : IsPlain p) : escape p = p := by
  induction p with
  | nil => rfl
  | cons c r ih =>
      obtain ⟨backslash, quote⟩ := plain
      rw [List.mem_cons, not_or] at backslash quote
      rw [escape_cons, ih ⟨backslash.2, quote.2⟩,
        if_neg (by rintro (rfl | rfl) <;> simp at backslash quote)]
      rfl

/-- **A text that needs no escape stands in a literal exactly if it stands in the input.** -/
lemma isInfix_literal_iff {p input : Text} (nonempty : p ≠ []) (plain : IsPlain p) :
    p <:+: literal input ↔ p <:+: input := by
  constructor
  · intro h
    rw [literal_eq] at h
    have inside : p <:+: escape input ++ ['"'] := by
      refine (List.infix_cons_iff.1 h).resolve_left fun here => ?_
      obtain ⟨c, r, rfl⟩ := List.exists_cons_of_ne_nil nonempty
      exact plain.2 ((List.cons_prefix_cons.1 here).1 ▸ List.mem_cons_self)
    obtain ⟨before, after, whole⟩ := inside
    rcases List.eq_nil_or_concat after with rfl | ⟨after, last, rfl⟩
    · -- the piece would end with the quote
      rw [List.append_nil] at whole
      have ends : (before ++ p).getLast? = some '"' := by rw [whole]; simp
      rw [List.getLast?_append_of_ne_nil _ nonempty] at ends
      exact absurd (List.mem_of_getLast? ends) plain.2
    · rw [List.concat_eq_append, ← List.append_assoc] at whole
      exact isInfix_of_escape plain ⟨before, after, (List.append_inj_left' whole rfl)⟩
  · rintro ⟨before, after, rfl⟩
    refine ⟨'"' :: escape before, escape after ++ ['"'], ?_⟩
    simp only [literal_eq, escape, List.flatMap_append]
    rw [show p.flatMap _ = p from escape_of_isPlain plain]
    simp

lemma mem_literal_iff {c : Char} {input : Text} (plain : IsPlain [c]) :
    c ∈ literal input ↔ c ∈ input := by
  rw [← List.singleton_infix_iff, ← List.singleton_infix_iff]
  exact isInfix_literal_iff (List.cons_ne_nil c []) plain

/-! ## The calls -/

/-- No call for input begins inside another, and none holds a quote. -/
lemma apart_inputCalls (language : Language) : Apart '"' language.inputCalls where
  solid := by cases language <;> decide
  pairwise := by cases language <;> simp [Language.inputCalls]

/-- Calls for input need no escape, and stay on their line. -/
lemma plain_of_mem_inputCalls {language : Language} {call : Text}
    (listed : call ∈ language.inputCalls) :
    call ≠ [] ∧ IsPlain call ∧ '\n' ∉ call ∧ endsOpen call = true := by
  have all : ∀ call ∈ language.inputCalls,
      call ≠ [] ∧ ('\\' ∉ call ∧ '"' ∉ call) ∧ '\n' ∉ call ∧ endsOpen call = true := by
    cases language <;> decide
  exact all call listed

section Filling

variable (language : Language) (input : Text)

/-- What is put in for a call stands between quotes. -/
lemma exists_filling (call : Text) :
    ∃ body, filling language.inputCalls (literal input) call = '"' :: (body ++ ['"']) :=
  exists_fenced_replaceInTurn (fun old found =>
    (apart_inputCalls language).solid old (mem_of_mem_piecesAfter found)) _ (escape input)

/-- What is put in for a call holds a line feed exactly if the input does. -/
lemma feed_mem_filling (call : Text) :
    '\n' ∈ filling language.inputCalls (literal input) call ↔ '\n' ∈ input := by
  have feed : '\n' ∈ literal input ↔ '\n' ∈ input := mem_literal_iff ⟨by decide, by decide⟩
  rw [← feed]
  refine mem_replaceInTurn_iff (fun old found => ?_) (literal input) Iff.rfl
  have plain := plain_of_mem_inputCalls (mem_of_mem_piecesAfter found)
  exact ⟨plain.1, plain.2.2.1⟩

/-- **A call is replaced by the literal of the input** exactly if no call of a later round stands in
the input. -/
lemma filling_eq_literal_iff (call : Text) :
    filling language.inputCalls (literal input) call = literal input ↔
      ∀ later ∈ piecesAfter call language.inputCalls, ¬ later <:+: input := by
  have solid : ∀ old ∈ piecesAfter call language.inputCalls, old ≠ [] ∧ '"' ∉ old :=
    fun old found => (apart_inputCalls language).solid old (mem_of_mem_piecesAfter found)
  rw [filling, replaceInTurn_eq_self solid (literal input) List.mem_cons_self]
  refine forall₂_congr fun later found => ?_
  have plain := plain_of_mem_inputCalls (mem_of_mem_piecesAfter found)
  rw [isInfix_literal_iff plain.1 plain.2.1]

/-- The calls are replaced in one pass. -/
lemma replaced_inject (code : Text) :
    Replaced language.inputCalls (filling language.inputCalls (literal input)) code
      (inject language input code) :=
  replaced_replaceInTurn (apart_inputCalls language) (escape input) code

/-- **The program keeps its number of lines** exactly if the input is one line or is not read. -/
lemma length_inject_iff (code : Text) :
    (Program.ofCode language (inject language input code)).length =
        (Program.ofCode language code).length ↔
      '\n' ∉ input ∨ ∀ call ∈ language.inputCalls, ¬ call <:+: code := by
  have pass := replaced_inject language input code
  have ends := (pass.endsOpen_eq fun call listed => by
    obtain ⟨body, put⟩ := exists_filling language input call
    have isOpen : endsOpen ('"' :: (body ++ ['"'])) = true :=
      endsOpen_append ('"' :: body) (by simp)
    exact ⟨(plain_of_mem_inputCalls listed).2.2.2, put ▸ isOpen⟩).1
  have plain : ∀ call ∈ language.inputCalls, '\n' ∉ call := fun call listed =>
    (plain_of_mem_inputCalls listed).2.2.1
  rw [Program.length_ofCode, Program.length_ofCode, length_lines, length_lines, ends, Nat.add_right_cancel_iff]
  by_cases oneLine : '\n' ∈ input
  · constructor
    · intro same
      refine .inr fun call listed found => ?_
      have more := pass.count_lt plain
        (fun call _ => (feed_mem_filling language input call).2 oneLine) ⟨call, listed, found⟩
        (fun call listed => (plain_of_mem_inputCalls listed).1)
      omega
    · rintro (absent | absent)
      · exact absurd oneLine absent
      · rw [pass.eq_of_absent absent]
  · refine iff_of_true ?_ (.inl oneLine)
    exact pass.count_eq plain fun call _ => mt (feed_mem_filling language input call).1 oneLine

end Filling

/-! ## The result -/

/-- **The calls for input are replaced, and nothing else is.**  The injected code is the code with
the filling of each call in its place; the filling is the literal of the input exactly if the input
holds no call of a later round; that literal evaluates to the input, whatever names stand for; and
the program has as many lines as before exactly if the input has no line feed or is not read. -/
theorem inject_replaces_calls (language : Language) (input code : Text) :
    let put := filling language.inputCalls (literal input)
    Replaced language.inputCalls put code (inject language input code) ∧
      (∀ call ∈ language.inputCalls, put call = literal input ↔
        ∀ later ∈ piecesAfter call language.inputCalls, ¬ later <:+: input) ∧
      (∀ env, evaluate env (literal input) = input) ∧
      ((Program.ofCode language (inject language input code)).length =
          (Program.ofCode language code).length ↔
        '\n' ∉ input ∨ ∀ call ∈ language.inputCalls, ¬ call <:+: code) :=
  ⟨replaced_inject language input code, fun call _ => filling_eq_literal_iff language input call,
    fun env => evaluate_literal_input env input, length_inject_iff language input code⟩

/-- The call of the last round is replaced by the literal even of an input that is this call, and
a call of the first round is not. -/
theorem inject_replaces_calls_of_next :
    let put := filling Language.java.inputCalls (literal "scanner.next()")
    (("scanner.next()" : Text) ∈ Language.java.inputCalls ∧
        put "scanner.next()" = literal "scanner.next()") ∧
      ("scanner.nextLine()" : Text) ∈ Language.java.inputCalls ∧
        put "scanner.nextLine()" ≠ literal "scanner.next()" := by
  intro put
  have last : ("scanner.next()" : Text) ∈ Language.java.inputCalls := by decide
  have first : ("scanner.nextLine()" : Text) ∈ Language.java.inputCalls := by decide
  have replaces := (inject_replaces_calls .java "scanner.next()" []).2.1
  refine ⟨⟨last, (replaces _ last).2 ?_⟩, first, mt (replaces _ first).1 ?_⟩
  · simp [piecesAfter, Language.inputCalls]
  · exact fun absent => absent "scanner.next()" (by decide) List.infix_rfl

/-- **A call in the input is taken for one in the code, and a line feed for the end of a line**:
what stands in place of the call does not evaluate to the input, and the program has a line more. -/
theorem call_in_input_is_replaced :
    let once : Text := "scanner.nextLine()"
    evaluate .empty (inject .java "scanner.next()" once) ≠ "scanner.next()" ∧
      (Program.ofCode .java (inject .java "1\n2" once)).length = 2 ∧
      (Program.ofCode .java once).length = 1 := by
  decide +kernel

end SnippetLab.Batch

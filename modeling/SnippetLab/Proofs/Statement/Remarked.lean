import SnippetLab.Proofs.Source.Finish
import SnippetLab.Proofs.Statement.Recognized

/-!
# A text with a comment behind it

What a text is no instance of, it mostly is not with a comment behind it either: the comment begins
with a character that no name, type or operator holds, so that a declaration or an assignment has to
have its sign before the comment, and what stands there decides.  Calls are the exception, since
they ask for a parenthesis at the end and for balanced ones, and the comment can have the former
and does not count for the latter.

* `Remarked` — a text and the same text with a comment behind it.
* `Remarked.shape?_eq_none` — **a text that is no statement is none with a comment behind it**,
  unless that ends with a parenthesis.
* `Remarked.call?_eq` — a call with a comment behind it is one exactly if that does.
-/

namespace SnippetLab.Statement

open Source Text

/-! ## The mark of a comment -/

section Marks

variable {language : Language}

lemma lineMark_eq (language : Language) : lineMark language = "//" ∨ lineMark language = "#" := by
  unfold lineMark
  split
  · exact .inl rfl
  · exact .inr rfl

/-- The character that begins a comment. -/
lemma lineMark_cons (language : Language) :
    ∃ d r, lineMark language = d :: r ∧ (d = '/' ∨ d = '#') := by
  rcases lineMark_eq language with slashes | hash
  · exact ⟨'/', "/", slashes, .inl rfl⟩
  · exact ⟨'#', [], hash, .inr rfl⟩

lemma isBlank_of_begins {d : Char} (begins : d = '/' ∨ d = '#') : isBlank d = false := by
  rcases begins with rfl | rfl
  · decide
  · decide

lemma trimStart_lineMark (language : Language) (remark : Text) :
    trimStart (lineMark language ++ remark) = lineMark language ++ remark := by
  obtain ⟨d, r, mark, begins⟩ := lineMark_cons language
  rw [mark]
  exact @trimStart_append_cons [] rfl d (isBlank_of_begins begins) _

/-- No character of a mark is a pause. -/
lemma not_mem_lineMark {c : Char} (h : isPause c = true) : c ∉ lineMark language := by
  rcases lineMark_eq language with slashes | hash
  · simp [slashes, ne_of_isPause h (d := '/') (by decide)]
  · simp [hash, ne_of_isPause h (d := '#') (by decide)]

end Marks

/-! ## A text with a comment behind it -/

/-- **A text and the same text with a comment behind it**, after blanks or a terminator. -/
def Remarked (language : Language) (u w : Text) : Prop :=
  ∃ gap remark, gap ≠ [] ∧ (∀ c ∈ gap, isPause c = true) ∧
    w = u ++ (gap ++ (lineMark language ++ remark))

namespace Remarked

variable {language : Language} {u w : Text} {st : Statement}

lemma isPrefix (h : Remarked language u w) : u <+: w := by
  obtain ⟨gap, remark, -, -, rfl⟩ := h
  exact List.prefix_append u _

/-- What begins the longer text and does not reach the comment begins the shorter. -/
lemma isPrefix_of_not_mem (h : Remarked language u w) {p : Text} (plain : p <+: w)
    (apart : p.all (fun c => !isPause c) = true) : p <+: u := by
  obtain ⟨gap, remark, some, pauses, rfl⟩ := h
  obtain ⟨c, gap, rfl⟩ := List.exists_cons_of_ne_nil some
  refine isPrefix_of_append_cons (fun here => ?_) plain
  have other := List.all_eq_true.1 apart c here
  rw [pauses c List.mem_cons_self] at other
  cases other

/-- **The character that begins the comment** occurs more often with it, and a sign that it does not
precede stands in the shorter text. -/
lemma exists_mark (h : Remarked language u w) :
    ∃ d, isMark d = true ∧ Sign.ofChar? d = none ∧ d ∉ ['=', ',', '.', '(', ')'] ∧
      u.count d < w.count d ∧ ∀ p q, w = p ++ '=' :: q → d ∉ p →
        ∃ q', u = p ++ '=' :: q' ∧ (q.head? ≠ some '=' → q'.head? ≠ some '=') := by
  obtain ⟨gap, remark, -, pauses, rfl⟩ := h
  obtain ⟨d, r, mark, begins⟩ := lineMark_cons language
  have kind : isMark d = true ∧ Sign.ofChar? d = none ∧ d ∉ ['=', ',', '.', '(', ')'] := by
    rcases begins with rfl | rfl
    · decide
    · decide
  refine ⟨d, kind.1, kind.2.1, kind.2.2, ?_, fun p q sides clear => ?_⟩
  · rw [mark]
    simp only [List.count_append, List.count_cons_self, List.cons_append]
    omega
  · have unsigned : '=' ∉ gap := fun here => ne_of_isPause (pauses '=' here) (d := '=') rfl rfl
    have other : d ∉ p ++ ['='] := by
      have sign : d ≠ '=' := by
        rintro rfl
        simp at begins
      simp [clear, sign]
    have begun : p ++ ['='] <+: (u ++ gap) ++ d :: (r ++ remark) := by
      refine ⟨q, ?_⟩
      rw [List.append_assoc, List.singleton_append, ← sides, mark]
      simp
    obtain ⟨x, same⟩ := isPrefix_of_append_cons other begun
    rw [List.append_assoc, List.singleton_append] at same
    rcases List.append_eq_append_iff.1 same with ⟨a, rfl, behind⟩ | ⟨b, rfl, inGap⟩
    · cases a with
      | nil =>
          rw [List.nil_append] at behind
          exact absurd (behind ▸ List.mem_cons_self) unsigned
      | cons e a =>
          obtain ⟨rfl, -⟩ := List.cons.inj behind
          refine ⟨a, rfl, fun apart head => apart ?_⟩
          obtain ⟨a, rfl⟩ := List.head?_eq_some_iff.1 head
          rw [List.append_assoc, List.append_cancel_left_eq] at sides
          obtain ⟨-, rfl⟩ := List.cons.inj sides
          rfl
    · exact absurd (inGap ▸ List.mem_append_right b List.mem_cons_self) unsigned

/-- **A text that is no declaration is none with a comment behind it.** -/
lemma declaration?_eq_none (h : Remarked language u w) (solid : u = [] ∨ Solid u)
    (solidLonger : Solid w) (declined : declaration? language u = none) :
    declaration? language w = none := by
  obtain ⟨d, mark, -, -, more, atSign⟩ := h.exists_mark
  cases found : declaration? language w with
  | none => rfl
  | some st =>
      rcases ((declaration?_iff solidLonger).1 found).sign mark with
        ⟨tag, name, p, q, e, -, same, value, clear, others⟩ | ⟨tag, name, -, clear⟩
      · obtain ⟨q', rfl, apart⟩ := atSign p q same clear
        have solid : Solid (p ++ '=' :: q') := solid.resolve_left (by simp)
        have declared := others q' _ (.of_solid solid (apart value.head?_ne))
        rw [(declaration?_iff solid).2 declared] at declined
        cases declined
      · rw [List.count_eq_zero.2 clear] at more
        exact absurd more (Nat.not_lt_zero _)

/-- **A text that is no assignment is none with a comment behind it.** -/
lemma assignment?_eq_none (h : Remarked language u w) (declined : assignment? u = none) :
    assignment? w = none := by
  obtain ⟨d, mark, plain, -, -, atSign⟩ := h.exists_mark
  cases found : assignment? w with
  | none => rfl
  | some st =>
      obtain ⟨name, op, p, q, -, same, apart, clear, others⟩ := assignment?_sign found mark plain
      obtain ⟨q', rfl, apart'⟩ := atSign p q same clear
      rw [others q' (apart' apart)] at declined
      cases declined

/-- **No step has a comment behind it.** -/
lemma step?_eq_none (h : Remarked language u w) : step? w = none := by
  obtain ⟨d, mark, plain, -, more, -⟩ := h.exists_mark
  cases found : step? w with
  | none => rfl
  | some st =>
      rw [List.count_eq_zero.2 (step?_eq_some found mark plain).2] at more
      exact absurd more (Nat.not_lt_zero _)

/-! ### Leaving a method -/

/-- **A text that does not leave a method does not with a comment behind it.** -/
lemma leave?_eq_none (h : Remarked language u w) (declined : leave? u = none) :
    leave? w = none := by
  cases found : leave? w with
  | none => rfl
  | some st =>
      -- Only a pause follows the shorter text, so it has the whole word, and then what opens.
      obtain ⟨x, rfl⟩ := h.isPrefix_of_not_mem (isPrefix_of_leave? found) (by decide)
      have stays : ¬(_ ∨ _) := fun leaves =>
        Option.eq_none_iff_forall_ne_some.1 declined .leave (leave?_eq_some_iff.2 ⟨rfl, leaves⟩)
      rw [not_or] at stays
      cases x with
      | nil => exact absurd (List.append_nil _) stays.1
      | cons c x =>
          rcases (leave?_eq_some_iff.1 found).2 with rfl | ⟨opening, listed, begun⟩
          · have short := h.isPrefix.length_le
            simp only [List.length_append, List.length_cons] at short
            omega
          · refine absurd ⟨opening, listed, ?_⟩ stays.2
            refine List.prefix_of_prefix_length_le begun h.isPrefix ?_
            rw [length_of_mem_leaveOpenings listed]
            simp

/-! ### Calls -/

lemma parenBalance_eq (h : Remarked language u w) (outside : EndsOutside language u) :
    parenBalance language w = parenBalance language u := by
  obtain ⟨gap, remark, apart, pauses, rfl⟩ := h
  exact parenBalance_remark outside apart pauses remark

/-- **A call with a comment behind it is read as before if the comment ends with a parenthesis**,
and otherwise as no call. -/
lemma call?_eq (h : Remarked language u w) (outside : EndsOutside language u)
    (calls : call? language u = some st) :
    call? language w = if w.endsWith ")" then some st else none := by
  have balanced := h.parenBalance_eq outside
  obtain ⟨rest, rfl⟩ := h.isPrefix
  rw [(call?_eq_some calls).1.2] at balanced
  split
  · rename_i closed
    unfold call? at calls ⊢
    rw [closed, balanced, if_pos (show (true && (0 : Int) == 0) = true from rfl)]
    split at calls
    · simp only at calls ⊢
      split at calls
      · cases calls
      · rename_i before after cut
        rw [splitFirst_append_right cut rest]
        exact calls
    · cases calls
  · rename_i opened
    rw [call?, Bool.eq_false_iff.2 opened]
    rfl

/-! ### Printing -/

/-- **Leaving a method is not printing**, whatever stands behind it. -/
lemma print?_eq_none_of_leave? (h : Remarked language u w) (leaves : leave? u = some st) :
    print? language w = none := by
  cases found : print? language w with
  | none => rfl
  | some _ =>
      obtain ⟨opening, newline, inner, listed, rfl, -, -⟩ := print?_eq_some found
      have others : (printCalls language).all (fun call => call.1.head?.any (· != 'r')) = true := by
        cases language with
        | java => decide
        | python => decide
        | javaScript => decide
      have other := List.all_eq_true.1 others _ listed
      have begun := (isPrefix_of_leave? leaves).trans h.isPrefix
      cases opening with
      | nil => cases other
      | cons c opening =>
          obtain ⟨rfl, -⟩ := List.cons_prefix_cons.1 begun
          cases other

/-- The system's own objects have no methods to call. -/
lemma call?_eq_none {before : Text} (clear : before.all (· != '(') = true)
    (own : (startsWith before.trim "System." || startsWith before.trim "console.") = true)
    (rest : Text) : call? language (before ++ '(' :: rest) = none := by
  have passed : ∀ c ∈ before, (c == '(') = false := by
    intro c hc
    simpa using List.all_eq_true.1 clear c hc
  unfold call?
  rw [splitFirst_append_cons passed (beq_self_eq_true '(')]
  simp only [own, if_true, ite_self]

/-- A text that begins as a print call and is read as a call is Python's: the other languages print
through an object of the system's own. -/
lemma python_of_call? {opening rest : Text} {newline : Bool}
    (listed : (opening, newline) ∈ printCalls language)
    (calls : call? language (opening ++ rest) = some st) :
    language = .python ∧ opening = "print(" := by
  have system {before : Text} (clear : before.all (· != '(') = true)
      (own : (startsWith before.trim "System." || startsWith before.trim "console.") = true)
      (same : opening = before ++ "(") : False := by
    rw [same, List.append_assoc] at calls
    rw [show call? language (before ++ ("(" ++ rest)) = none from call?_eq_none clear own rest]
      at calls
    cases calls
  cases language with
  | java =>
      simp only [printCalls, List.mem_cons, Prod.mk.injEq, List.not_mem_nil, or_false] at listed
      rcases listed with ⟨same, -⟩ | ⟨same, -⟩
      · exact (@system "System.out.println" (by decide) (by decide) same).elim
      · exact (@system "System.out.print" (by decide) (by decide) same).elim
  | python =>
      simp only [printCalls, List.mem_cons, Prod.mk.injEq, List.not_mem_nil, or_false] at listed
      exact ⟨rfl, listed.1⟩
  | javaScript =>
      simp only [printCalls, List.mem_cons, Prod.mk.injEq, List.not_mem_nil, or_false] at listed
      exact (@system "console.log" (by decide) (by decide) listed.1).elim

/-- A print call closes nothing as it begins. -/
lemma closing_not_mem_of_printCalls {opening : Text} {newline : Bool}
    (listed : (opening, newline) ∈ printCalls language) : ')' ∉ opening := by
  have all : (printCalls language).all (fun call => !call.1.contains ')') = true := by
    cases language with
    | java => decide
    | python => decide
    | javaScript => decide
  simpa using List.all_eq_true.1 all _ listed

lemma isUnmarked_of_mem_print : ∀ c ∈ ("print(" : Text), isUnmarked c = true :=
  List.all_eq_true.1 (by decide)

/-- Python's print call opens one parenthesis. -/
lemma parenBalance_print (t : Text) :
    parenBalance .python ("print(" ++ t) = 1 + parenBalance .python t := by
  have stripped : strip .python ("print(" ++ t) = "print(" ++ strip .python t :=
    outline_unmarked isUnmarked_of_mem_print _
  have one : ("print(" : Text).count '(' = 1 := by decide
  have none : ("print(" : Text).count ')' = 0 := by decide
  simp only [parenBalance, stripped, balance, List.count_append, one, none]
  omega

/-- **A call with a comment behind it is not printing.** -/
lemma print?_eq_none_of_call? (h : Remarked language u w) (outside : EndsOutside language u)
    (calls : call? language u = some st) : print? language w = none := by
  cases found : print? language w with
  | none => rfl
  | some _ =>
      obtain ⟨opening, newline, inner, listed, same, balanced, -⟩ := print?_eq_some found
      obtain ⟨⟨closed, level⟩, -⟩ := call?_eq_some calls
      -- The call begins as the print call does, since it ends with its own parenthesis.
      obtain ⟨x, rfl⟩ : ")".toList <:+ u := List.isSuffixOf_iff_suffix.1 closed
      obtain ⟨gap, remark, apart, pauses, rfl⟩ := h
      have begun : opening <+: x ++ ')' :: (gap ++ (lineMark language ++ remark)) := by
        refine ⟨inner ++ ")", ?_⟩
        rw [← same, List.append_assoc]
        rfl
      obtain ⟨y, rfl⟩ := isPrefix_of_append_cons (closing_not_mem_of_printCalls listed) begun
      rw [List.append_assoc] at calls level outside
      obtain ⟨rfl, rfl⟩ := python_of_call? listed calls
      have unmatched : parenBalance .python (y ++ ")") = -1 := by
        have counted : parenBalance .python ("print(" ++ (y ++ ")")) =
            1 + parenBalance .python (y ++ ")") := parenBalance_print _
        omega
      -- What stands between the parentheses ends within the comment.
      have rest : y ++ ")" ++ (gap ++ (lineMark .python ++ remark)) = inner ++ ")" := by
        simpa using same
      rcases List.eq_nil_or_concat' remark with rfl | ⟨remark, c, rfl⟩
      · rw [List.append_nil, ← List.append_assoc] at rest
        exact absurd (List.append_inj' rest rfl).2 (by decide)
      · rw [← List.append_assoc (lineMark _), ← List.append_assoc gap, ← List.append_assoc (y ++ _)]
          at rest
        obtain ⟨inside, -⟩ := List.append_inj' rest rfl
        have outside := (endsOutside_unmarked isUnmarked_of_mem_print _).1 outside
        rw [← inside, parenBalance_remark outside apart pauses, unmatched] at balanced
        cases balanced

/-- **A text that is no statement is none with a comment behind it** that does not end with a
parenthesis. -/
theorem shape?_eq_none (h : Remarked language u w) (solid : u = [] ∨ Solid u)
    (solidLonger : Solid w) (declined : shape? language u = none)
    (opened : w.endsWith ")" = false) : shape? language w = none := by
  simp only [shape?, Option.orElse_eq_none] at declined ⊢
  obtain ⟨declaration, assignment, -, -, leave, -⟩ := declined
  refine ⟨h.declaration?_eq_none solid solidLonger declaration, h.assignment?_eq_none assignment,
    h.step?_eq_none, ?_, h.leave?_eq_none leave, ?_⟩
  · cases printed : print? language w with
    | none => rfl
    | some st =>
        rw [endsWith_of_print? printed] at opened
        cases opened
  · cases called : call? language w with
    | none => rfl
    | some st =>
        rw [(call?_eq_some called).1.1] at opened
        cases opened

/-- Leaving a method is read as such, or as a call, with a comment behind it. -/
lemma shape?_of_leave (h : Remarked language u w) (solid : Solid u) (solidLonger : Solid w)
    (shaped : shape? language u = some .leave) :
    leave? u = some .leave ∧ shape? language w = (leave? w <|> call? language w) := by
  rcases shape?_cases shaped with valued | ⟨declaration, assignment, leave | ⟨-, call⟩⟩
  · obtain ⟨vs, values⟩ := exists_values solid valued
    cases values
  · refine ⟨leave, ?_⟩
    rw [shape?, h.declaration?_eq_none (.inr solid) solidLonger declaration,
      h.assignment?_eq_none assignment, h.step?_eq_none, h.print?_eq_none_of_leave? leave]
    rfl
  · obtain ⟨-, m, same⟩ := call?_eq_some call
    cases same

/-- A call is read as the same call with a comment behind it, or as nothing. -/
lemma shape?_of_call {m : Text} (h : Remarked language u w) (solid : Solid u)
    (solidLonger : Solid w) (outside : EndsOutside language u)
    (shaped : shape? language u = some (.call m)) :
    shape? language w = if w.endsWith ")" then some (.call m) else none := by
  rcases shape?_cases shaped with valued | ⟨declaration, assignment, leave | ⟨leave, call⟩⟩
  · obtain ⟨vs, values⟩ := exists_values solid valued
    cases values
  · cases (leave?_eq_some_iff.1 leave).1
  · rw [shape?, h.declaration?_eq_none (.inr solid) solidLonger declaration,
      h.assignment?_eq_none assignment, h.step?_eq_none, h.print?_eq_none_of_call? outside call,
      h.leave?_eq_none leave, h.call?_eq outside call]
    rfl

end Remarked

end SnippetLab.Statement

import SnippetLab.Proofs.Check.LoopBody
import SnippetLab.Proofs.Statement.Names
import SnippetLab.Proofs.Text.Runs

/-!
# Loops that change what they test

A loop with a condition is passed over if its body changes a variable of the condition.  The search
knows a change by the operator beside the variable, and **it does not know all of them**: a loop
that shifts its variable, or divides it down with `//=`, is flagged.

* `WordAt` — a word stands in a text; `Tests`, `Updates` — what a condition tests, what a body
  changes, with a list of operators.
* `isMutated_iff` — **which changes are seen**: those by six operators and by steps; and a variable
  whose member is used counts as changed.
* `IsLoop` — a `while` loop as it is written.
* `loop_passed_iff` — **when a program with one loop is not flagged.**
* `shifting_loop_is_flagged` — the operators that are not seen.
-/

namespace SnippetLab.Check

open Source Text

/-! ## Words -/

/-- **A word stands in a text**, with no character of a word on either side. -/
structure WordAt (t earlier word later : Text) : Prop where
  whole : t = earlier ++ (word ++ later)
  nonempty : word ≠ []
  held : ∀ c ∈ word, isWordChar c = true
  begins : ∀ c ∈ earlier.getLast?, isWordChar c = false
  ends : ∀ c ∈ later.head?, isWordChar c = false

instance (t earlier word later : Text) : Decidable (WordAt t earlier word later) :=
  decidable_of_iff (t = earlier ++ (word ++ later) ∧ word ≠ [] ∧ word.all isWordChar = true ∧
      earlier.getLast?.any isWordChar = false ∧ later.head?.any isWordChar = false) <| by
    rw [List.all_eq_true, Option.any_eq_false, Option.any_eq_false]
    exact ⟨fun ⟨whole, nonempty, held, begins, ends⟩ => ⟨whole, nonempty, held, begins, ends⟩,
      fun ⟨whole, nonempty, held, begins, ends⟩ => ⟨whole, nonempty, held, begins, ends⟩⟩

section Words

variable {t word name condition body : Text}

/-- **The words of a text are those that stand in it.** -/
lemma mem_words_iff {b a : Text} : ⟨b, word, a⟩ ∈ words t ↔ WordAt t b.reverse word a := by
  rw [words, mem_runs_iff, ← List.getLast?_reverse]
  exact ⟨fun ⟨whole, nonempty, held, begins, ends⟩ => ⟨whole, nonempty, held, begins, ends⟩,
    fun ⟨whole, nonempty, held, begins, ends⟩ => ⟨whole, nonempty, held, begins, ends⟩⟩

/-- What is asked of the words of a text is asked of what stands in it. -/
lemma any_words_iff {p : Span → Bool} : (words t).any p = true ↔
    ∃ earlier word later, WordAt t earlier word later ∧ p ⟨earlier.reverse, word, later⟩ = true := by
  rw [List.any_eq_true]
  constructor
  · rintro ⟨⟨b, word, a⟩, found, holds⟩
    exact ⟨b.reverse, word, a, mem_words_iff.1 found, by rwa [List.reverse_reverse]⟩
  · rintro ⟨earlier, word, later, stands, holds⟩
    refine ⟨_, mem_words_iff.2 ?_, holds⟩
    rwa [List.reverse_reverse]

lemma mentions_iff : t.mentions word = true ↔ ∃ earlier later, WordAt t earlier word later := by
  rw [mentions, any_words_iff]
  constructor
  · rintro ⟨earlier, other, later, stands, same⟩
    obtain rfl : other = word := by simpa using same
    exact ⟨earlier, later, stands⟩
  · rintro ⟨earlier, later, stands⟩
    exact ⟨earlier, word, later, stands, by simp⟩

/-! ## What a condition tests -/

/-- **A condition tests a variable**: its name stands there, not right behind a point, and it is
none of the words that are taken for something else. -/
def Tests (condition name : Text) : Prop :=
  isIdentifier name = true ∧ isKeyword name = false ∧ name ∉ constantWords ∧
    ∃ earlier later, WordAt condition earlier name later ∧ earlier.getLast? ≠ some '.'

/-- **A condition calls something**: a name stands there with a parenthesis behind it. -/
def Calls (condition : Text) : Prop :=
  ∃ earlier name later, WordAt condition earlier name later ∧ isIdentifier name = true ∧
    ['('] <+: later.trimStart

/-- **The variables read off a condition are those it tests.** -/
theorem mem_conditionVariables_iff : name ∈ conditionVariables condition ↔ Tests condition name := by
  unfold conditionVariables
  simp only [List.mem_map, List.mem_filter, Bool.and_eq_true, Bool.not_eq_true', bne_iff_ne]
  constructor
  · rintro ⟨⟨b, word, a⟩, ⟨found, ⟨⟨apart, named⟩, free⟩, other⟩, rfl⟩
    refine ⟨named, free, by simpa using other, b.reverse, a, mem_words_iff.1 found, ?_⟩
    rwa [List.getLast?_reverse]
  · rintro ⟨named, free, other, earlier, later, stands, apart⟩
    refine ⟨⟨earlier.reverse, name, later⟩, ⟨mem_words_iff.2 ?_, ⟨⟨?_, named⟩, free⟩, ?_⟩, rfl⟩
    · rwa [List.reverse_reverse]
    · rwa [List.head?_reverse]
    · simpa using other

lemma hasCall_iff : hasCall condition = true ↔ Calls condition := by
  unfold hasCall
  rw [any_words_iff]
  simp only [Bool.and_eq_true, startsWith_iff]
  exact Iff.rfl

/-! ## What a body changes -/

/-- **What stands around a name changes what it names**: one of some operators behind it, or a step
on either side of it. -/
inductive UpdatesAt (operators : List Text) (earlier later : Text) : Prop where
  | assigned {operator : Text} (listed : operator ∈ operators)
      (behind : operator <+: later.trimStart) (single : ¬['=', '='] <+: later.trimStart) :
      UpdatesAt operators earlier later
  | stepped {step : Text} (listed : step ∈ ([['+', '+'], ['-', '-']] : List Text))
      (beside : step <+: later.trimStart ∨ step <:+ earlier.trimEnd) :
      UpdatesAt operators earlier later

/-- **A body changes a variable**, by one of some operators or by a step. -/
def Updates (operators : List Text) (body name : Text) : Prop :=
  ∃ earlier later, WordAt body earlier name later ∧ UpdatesAt operators earlier later

/-- A body uses a member of what a name stands for. -/
def UsesMember (body name : Text) : Prop :=
  ∃ earlier later, WordAt body earlier name later ∧ ['.'] <+: later.trimStart

/-- The operators of assignments that are seen. -/
def seenOperators : List Text := ["=", "+=", "-=", "*=", "/=", "%="]

/-- **The operators that assign** in a language. -/
def assignmentOperators : Language → List Text
  | .java | .javaScript => seenOperators ++ (["<<=", ">>=", "&=", "|=", "^="] : List Text)
  | .python => seenOperators ++ (["//=", "**="] : List Text)

/-- No sign of comparison begins with one of the longer operators. -/
lemma not_comparison {operator after : Text} (listed : operator ∈ compoundOperators)
    (behind : operator <+: after) : ¬['=', '='] <+: after := by
  intro comparison
  have others : ∀ operator ∈ compoundOperators, operator.length = 2 ∧ operator ≠ ['=', '='] := by
    decide
  obtain ⟨long, other⟩ := others operator listed
  refine other ((List.prefix_of_prefix_length_le behind comparison ?_).eq_of_length long)
  exact Nat.le_of_eq long

/-- **What is seen around a name**: the six operators, steps, and the use of a member. -/
lemma changesHere_iff {earlier later : Text} : changesHere ⟨earlier.reverse, name, later⟩ = true ↔
    UpdatesAt seenOperators earlier later ∨ ['.'] <+: later.trimStart := by
  have read : changesHere ⟨earlier.reverse, name, later⟩ = true ↔
      ((((((['+', '+'] <:+ earlier.trimEnd ∨ ['-', '-'] <:+ earlier.trimEnd) ∨
        ['+', '+'] <+: later.trimStart) ∨ ['-', '-'] <+: later.trimStart) ∨
        ['.'] <+: later.trimStart) ∨ ∃ operator ∈ compoundOperators, operator <+: later.trimStart) ∨
        ['='] <+: later.trimStart ∧ ¬['=', '='] <+: later.trimStart) := by
    unfold changesHere
    simp only [Bool.or_eq_true, Bool.and_eq_true, Bool.not_eq_true', List.any_eq_true,
      startsWith_iff, startsWith_eq_false_iff, isSuffix_trimEnd_iff]
    exact Iff.rfl
  rw [read]
  constructor
  · rintro ((((((up | down) | up) | down) | member) | ⟨operator, listed, behind⟩) | ⟨sign, single⟩)
    · exact .inl (.stepped (.head _) (.inr up))
    · exact .inl (.stepped (.tail _ (.head _)) (.inr down))
    · exact .inl (.stepped (.head _) (.inl up))
    · exact .inl (.stepped (.tail _ (.head _)) (.inl down))
    · exact .inr member
    · exact .inl (.assigned (.tail _ listed) behind (not_comparison listed behind))
    · exact .inl (.assigned (.head _) sign single)
  · rintro (changes | member)
    · cases changes with
      | assigned listed behind single =>
          rcases List.mem_cons.1 listed with rfl | longer
          · exact .inr ⟨behind, single⟩
          · exact .inl (.inr ⟨_, longer, behind⟩)
      | stepped listed beside =>
          simp only [List.mem_cons, List.not_mem_nil, or_false] at listed
          rcases listed with rfl | rfl
          · rcases beside with behind | before
            · exact .inl (.inl (.inl (.inl (.inr behind))))
            · exact .inl (.inl (.inl (.inl (.inl (.inl before)))))
          · rcases beside with behind | before
            · exact .inl (.inl (.inl (.inr behind)))
            · exact .inl (.inl (.inl (.inl (.inl (.inr before)))))
    · exact .inl (.inl (.inr member))

/-- **Which changes are seen.** -/
theorem isMutated_iff :
    isMutated body name = true ↔ Updates seenOperators body name ∨ UsesMember body name := by
  unfold isMutated
  rw [any_words_iff]
  simp only [Bool.and_eq_true, beq_iff_eq, changesHere_iff]
  constructor
  · rintro ⟨earlier, word, later, stands, rfl, changes | member⟩
    · exact .inl ⟨earlier, later, stands, changes⟩
    · exact .inr ⟨earlier, later, stands, member⟩
  · rintro (⟨earlier, later, stands, changes⟩ | ⟨earlier, later, stands, member⟩)
    · exact ⟨earlier, name, later, stands, rfl, .inl changes⟩
    · exact ⟨earlier, name, later, stands, rfl, .inr member⟩

end Words

/-! ## Headers -/

/-- How a keyword is written. -/
def LoopKeyword.text : LoopKeyword → Text
  | .whileLoop => "while"
  | .forLoop => "for"

lemma LoopKeyword.ofLine?_eq_some_iff {keyword : LoopKeyword} {line behind : Text} :
    LoopKeyword.ofLine? line = some (keyword, behind) ↔ line = keyword.text ++ behind := by
  constructor
  · intro found
    unfold LoopKeyword.ofLine? at found
    split at found
    · rename_i begins
      cases found
      exact (dropStart?_eq_some.1 begins).symm
    · rename_i begins
      cases found
      exact (dropStart?_eq_some.1 begins).symm
    · cases found
  · rintro rfl
    cases keyword with
    | whileLoop =>
        have begins : dropStart? ("while" ++ behind) "while" = some behind := dropStart?_eq_some.2 rfl
        simp only [LoopKeyword.ofLine?, LoopKeyword.text, begins]
    | forLoop =>
        have other : dropStart? ("for" ++ behind) "while" = none :=
          dropStart?_cons_eq_none (by decide) _ _
        have begins : dropStart? ("for" ++ behind) "for" = some behind := dropStart?_eq_some.2 rfl
        simp only [LoopKeyword.ofLine?, LoopKeyword.text, other, begins]

/-- **Which lines begin a loop** in a language with braces: a keyword, and a condition in
parentheses that pair up on the line. -/
theorem ofBracedLine?_eq_some_iff {line : Text} {head : LoopHead} :
    LoopHead.ofBracedLine? line = some head ↔ ∃ (keyword : LoopKeyword) (gap inner : Text),
      line = keyword.text ++ (gap ++ '(' :: (inner ++ ')' :: head.after)) ∧
        gap.isAllBlank = true ∧ Paired '(' ')' inner ∧
        conditionOf keyword inner = some head.condition ∧
        ¬([';'] <+: head.after.trimStart ∧ head.condition.isSome = true) := by
  constructor
  · intro found
    unfold LoopHead.ofBracedLine? at found
    split at found
    · cases found
    · rename_i keyword behind begins
      obtain rfl := LoopKeyword.ofLine?_eq_some_iff.1 begins
      split at found
      · rename_i r opens
        split at found
        · cases found
        · rename_i inner after closes
          obtain ⟨rfl, paired⟩ := (upToClosing_eq_some_iff (by decide)).1 closes
          split at found
          · cases found
          · rename_i condition reads
            split at found
            · cases found
            · rename_i goesOn
              cases found
              obtain ⟨gap, blank, whole⟩ := exists_blanks_trimStart behind
              refine ⟨keyword, gap, inner, ?_, blank, paired, reads, ?_⟩
              · rw [whole, opens]
              · rwa [Bool.and_eq_true, startsWith_iff] at goesOn
      · cases found
  · rintro ⟨keyword, gap, inner, rfl, blank, paired, reads, goesOn⟩
    have closes : upToClosing '(' ')' 0 (inner ++ ')' :: head.after) = some (inner, head.after) :=
      (upToClosing_eq_some_iff (by decide)).2 ⟨rfl, paired⟩
    rw [← startsWith_iff, ← Bool.and_eq_true] at goesOn
    unfold LoopHead.ofBracedLine?
    simp only [LoopKeyword.ofLine?_eq_some_iff.2 rfl]
    rw [trimStart_append_cons blank (by decide)]
    simp only [closes, reads]
    exact if_neg goesOn

/-! ## Loops -/

/-- The text of an indented body: its lines but the blank ones. -/
def indentedText (inside : List Row) : Text :=
  (inside.filter fun row => !row.stripped.isAllBlank).flatMap fun row => row.stripped ++ "\n"

/-- **A `while` loop as it is written**, with a condition that is not always true: `line` is the line
it begins on, without blanks around it, and `rest` the rows behind that.  A block stands in braces;
an indented body goes up to the first line that is not indented deeper than `depth`. -/
inductive IsLoop (language : Language) (line : Text) (depth : Nat) (rest : List Row) :
    (header condition body : Text) → Prop where
  | block {gap inner space body tail : Text} (braces : language.usesBraces = true)
      (blankGap : gap.isAllBlank = true) (paired : Paired '(' ')' inner)
      (conditional : inner.squeeze.isOneOf ["true", "1"] = false)
      (blankSpace : space.isAllBlank = true) (pairedBody : Paired '{' '}' body)
      (written : line ++ rest.flatMap (fun row => '\n' :: row.stripped) =
        "while" ++ (gap ++ '(' :: (inner ++ [')'])) ++ (space ++ '{' :: (body ++ '}' :: tail))) :
      IsLoop language line depth rest ("while" ++ (gap ++ '(' :: (inner ++ [')']))) inner.trim body
  | indented {inner : Text} {inside behind : List Row} (indents : language = .python)
      (written : line = "while " ++ (inner ++ ":"))
      (conditional : inner.trim.isOneOf ["True", "1"] = false) (split : rest = inside ++ behind)
      (deeper : ∀ row ∈ inside, row.stripped.isAllBlank = false → depth < row.depth)
      (stops : ∀ row ∈ behind.head?, row.stripped.isAllBlank = false ∧ row.depth ≤ depth) :
      IsLoop language line depth rest line inner.trim (indentedText inside)

section Loops

variable {language : Language} {row : Row} {rest : List Row} {depth : Nat}
  {line header condition body : Text}

/-- **An indented body ends** in front of the first line that is not indented deeper. -/
lemma indentedBody_eq {inside behind : List Row}
    (deeper : ∀ row ∈ inside, row.stripped.isAllBlank = false → depth < row.depth)
    (stops : ∀ row ∈ behind.head?, row.stripped.isAllBlank = false ∧ row.depth ≤ depth) :
    indentedBody depth (inside ++ behind) = indentedText inside := by
  have taken : (behind.filter fun row => !row.stripped.isAllBlank).takeWhile
      (fun row => depth < row.depth) = [] := by
    cases behind with
    | nil => rfl
    | cons stop behind =>
        obtain ⟨code, level⟩ := stops stop rfl
        rw [List.filter_cons_of_pos (by simp [code]), List.takeWhile_cons_of_neg (by simpa using level)]
  unfold indentedBody
  dsimp only
  rw [List.filter_append, List.takeWhile_append_of_pos, taken, List.append_nil]
  · rfl
  · intro row mem
    obtain ⟨within, code⟩ := List.mem_filter.1 mem
    exact decide_eq_true (deeper row within (by simpa using code))

lemma ne_python (braces : language.usesBraces = true) : language ≠ .python := by
  rintro rfl
  cases braces

/-- Behind the header of a block stand blanks and its brace, here or on a line further down. -/
lemma trimStart_before_brace {after more space block : Text}
    (written : after ++ more = space ++ '{' :: block) (blank : space.isAllBlank = true) :
    ¬[';'] <+: after.trimStart := by
  intro ends
  have opens : trimStart (after ++ more) = '{' :: block := by
    rw [written, trimStart_append_cons blank (by decide)]
  rw [trimStart, List.dropWhile_append] at opens
  split at opens
  · rename_i none
    rw [trimStart, List.isEmpty_iff.1 none] at ends
    cases List.prefix_nil.1 ends
  · have first := ends.trans (List.prefix_append _ more)
    rw [trimStart, opens] at first
    exact absurd (List.cons_prefix_cons.1 first).1 (by decide)

/-- **A loop whose header ends on its line is found**, with its condition and its body. -/
lemma IsLoop.seen (h : IsLoop language row.stripped.trim row.depth rest header condition body)
    (whole : header <+: row.stripped.trim) :
    ∃ head, LoopHead.ofLine? language row.stripped = some head ∧ head.condition = some condition ∧
      loopBody language head row.depth rest = body := by
  cases h with
  | block braces blankGap paired conditional blankSpace pairedBody written =>
      rename_i gap inner space tail
      obtain ⟨after, line⟩ := whole
      have brace : after ++ rest.flatMap (fun row => '\n' :: row.stripped) =
          space ++ '{' :: (body ++ '}' :: tail) := by
        rw [← line, List.append_assoc] at written
        exact List.append_cancel_left written
      refine ⟨⟨some inner.trim, after⟩, ?_, rfl, ?_⟩
      · rw [LoopHead.ofLine?, if_neg (ne_python braces), ofBracedLine?_eq_some_iff]
        refine ⟨.whileLoop, gap, inner, ?_, blankGap, paired, ?_, ?_⟩
        · simp [← line, LoopKeyword.text]
        · simp only [conditionOf, conditional]
          rfl
        · exact fun ends => trimStart_before_brace brace blankSpace ends.1
      · have opens : trimStart (textAfter ⟨some inner.trim, after⟩ rest) =
            '{' :: (body ++ '}' :: tail) := by
          rw [textAfter, brace, trimStart_append_cons blankSpace (by decide)]
        rw [loopBody, if_pos braces, ← List.append_nil rest]
        exact bracedBody_eq opens pairedBody []
  | indented indents written conditional split deeper stops =>
      rename_i inner inside behind
      subst indents split
      have begins : dropStart? row.stripped.trim "while " = some (inner ++ ":") :=
        dropStart?_eq_some.2 written.symm
      have ends : dropEnd? (inner ++ ":") ":" = some inner := dropEnd?_eq_some.2 rfl
      refine ⟨⟨some inner.trim, []⟩, ?_, rfl, indentedBody_eq deeper stops⟩
      simp only [LoopHead.ofLine?, LoopHead.ofPythonLine?, if_true, begins, Option.bind_some, ends,
        conditional, Bool.false_eq_true, if_false]

/-- The parts of a header are told apart: the blanks, and what stands in the parentheses. -/
lemma header_parts {gap inner after gap' inner' after' : Text}
    (same : gap ++ '(' :: (inner ++ ')' :: after) = gap' ++ '(' :: (inner' ++ ')' :: after'))
    (blank : gap.isAllBlank = true) (blank' : gap'.isAllBlank = true)
    (paired : Paired '(' ')' inner) (paired' : Paired '(' ')' inner') :
    gap = gap' ∧ inner = inner' := by
  have trimmed := congrArg trimStart same
  rw [trimStart_append_cons blank (by decide), trimStart_append_cons blank' (by decide)] at trimmed
  obtain ⟨-, behind⟩ := List.cons.inj trimmed
  have closes : upToClosing '(' ')' 0 (inner' ++ ')' :: after') = some (inner, after) :=
    (upToClosing_eq_some_iff (by decide)).2 ⟨behind.symm, paired⟩
  have closes' : upToClosing '(' ')' 0 (inner' ++ ')' :: after') = some (inner', after') :=
    (upToClosing_eq_some_iff (by decide)).2 ⟨rfl, paired'⟩
  refine ⟨List.append_cancel_right (trimmed ▸ same), ?_⟩
  exact (Prod.mk.inj (Option.some.inj (closes.symm.trans closes'))).1

/-- A loop whose header goes on behind its line is not found. -/
lemma IsLoop.unseen (h : IsLoop language row.stripped.trim row.depth rest header condition body)
    (broken : ¬header <+: row.stripped.trim) : LoopHead.ofLine? language row.stripped = none := by
  cases h with
  | indented => exact absurd (List.prefix_refl _) broken
  | block braces blankGap paired conditional blankSpace pairedBody written =>
      rename_i gap inner space tail
      rw [LoopHead.ofLine?, if_neg (ne_python braces), Option.eq_none_iff_forall_ne_some]
      intro head begins
      obtain ⟨keyword, gap', inner', line, blank', paired', -⟩ := ofBracedLine?_eq_some_iff.1 begins
      rw [line] at written broken
      set more := rest.flatMap fun row => '\n' :: row.stripped
      -- the line and the header begin with the same word, blanks and parentheses
      cases keyword with
      | forLoop => exact absurd (List.cons.inj written).1 (by decide)
      | whileLoop =>
          have behind : gap' ++ '(' :: (inner' ++ ')' :: (head.after ++ more)) =
              gap ++ '(' :: (inner ++ ')' :: (space ++ '{' :: (body ++ '}' :: tail))) := by
            simpa [LoopKeyword.text, more] using written
          obtain ⟨gaps, inners⟩ := header_parts behind blank' blankGap paired' paired
          refine broken ⟨head.after, ?_⟩
          simp [gaps, inners, LoopKeyword.text]

end Loops

/-! ## Which loops are passed over -/

/-- A body leaves the loop: `break` or `return` stands there. -/
def Leaves (body : Text) : Prop :=
  ∃ word ∈ (["break", "return"] : List Text), ∃ earlier later, WordAt body earlier word later

/-- **Why a loop is passed over**: its body leaves it, its condition calls something or tests
nothing, or the body is seen to change what is tested. -/
def IsPassed (condition body : Text) : Prop :=
  Leaves body ∨ Calls condition ∨ (∀ name, ¬Tests condition name) ∨
    ∃ name, Tests condition name ∧ (Updates seenOperators body name ∨ UsesMember body name)

section Flags

variable {language : Language} {code condition body : Text} {k : Nat} {row : Row}

lemma leaves_iff : (body.mentions "break" || body.mentions "return") = true ↔ Leaves body := by
  simp only [Leaves, Bool.or_eq_true, mentions_iff, List.mem_cons, List.not_mem_nil, or_false,
    exists_eq_or_imp, exists_eq_left]

/-- A loop with a condition is stuck unless there is a reason to pass over it. -/
lemma isStuck_eq_false_iff {head : LoopHead} (conditional : head.condition = some condition) :
    isStuck head body = false ↔ IsPassed condition body := by
  have untested : (conditionVariables condition).isEmpty = true ↔
      ∀ name, ¬Tests condition name := by
    simp only [List.isEmpty_iff, List.eq_nil_iff_forall_not_mem, mem_conditionVariables_iff]
  have changed : (conditionVariables condition).any (isMutated body) = true ↔
      ∃ name, Tests condition name ∧ (Updates seenOperators body name ∨ UsesMember body name) := by
    simp only [List.any_eq_true, mem_conditionVariables_iff, isMutated_iff]
  unfold isStuck
  rw [IsPassed, ← leaves_iff, ← hasCall_iff, ← untested, ← changed, conditional]
  split
  · rename_i leaves
    exact iff_of_true rfl (.inl leaves)
  · rename_i stays
    simp only [stays, Bool.and_eq_false_iff, Bool.not_eq_false', Bool.false_eq_true, false_or]
    rw [or_assoc, or_left_comm]

/-- Only one row can be flagged if the others begin no loop. -/
lemma endlessLoopFrom?_single {rows : List Row} (at_ : rows[k]? = some row)
    (single : ∀ other ∈ rows.eraseIdx k, LoopHead.ofLine? language other.stripped = none) :
    endlessLoopFrom? language rows = none ↔
      beginsEndlessLoop language row (rows.drop (k + 1)) = false := by
  rw [endlessLoopFrom?_eq_none_iff]
  refine ⟨fun passed => passed k row at_, fun passed j other there => ?_⟩
  by_cases same : j = k
  · subst same
    cases at_.symm.trans there
    exact passed
  · have none := single other (List.mem_eraseIdx_iff_getElem?.2 ⟨j, same, there⟩)
    rw [beginsEndlessLoop_eq, none, Option.any_none]

/-- **When a program with one `while` loop is not flagged**: the loop's header does not end on the
line it begins on, or there is a reason to pass over the loop. -/
theorem loop_passed_iff {header : Text}
    (at_ : (Program.ofCode language code).rows[k]? = some row)
    (single : ∀ other ∈ (Program.ofCode language code).rows.eraseIdx k,
      LoopHead.ofLine? language other.stripped = none)
    (loop : IsLoop language row.stripped.trim row.depth
      ((Program.ofCode language code).rows.drop (k + 1)) header condition body) :
    endlessLoop? (Program.ofCode language code) = none ↔
      ¬header <+: row.stripped.trim ∨ IsPassed condition body := by
  have alone : endlessLoop? (Program.ofCode language code) = none ↔ beginsEndlessLoop language row
      ((Program.ofCode language code).rows.drop (k + 1)) = false := endlessLoopFrom?_single at_ single
  rw [alone, beginsEndlessLoop_eq]
  by_cases whole : header <+: row.stripped.trim
  · obtain ⟨head, begins, conditional, taken⟩ := loop.seen whole
    rw [begins, Option.any_some, taken, isStuck_eq_false_iff conditional]
    exact ⟨.inr, fun passed => passed.resolve_left (not_not_intro whole)⟩
  · rw [loop.unseen whole, Option.any_none]
    exact iff_of_true rfl (.inl whole)

end Flags

/-- A step in a block below its header is seen. -/
theorem loop_passed_iff_below :
    let code : Text := "int i = 0;\nwhile (i < n)\n\x7b\n  s += i; ++ i;\n\x7d"
    endlessLoop? (Program.ofCode .java code) = none := by
  intro code
  obtain ⟨row, at_⟩ : ∃ row, (Program.ofCode .java code).rows[1]? = some row := ⟨_, rfl⟩
  have single : ∀ other ∈ (Program.ofCode .java code).rows.eraseIdx 1,
      LoopHead.ofLine? .java other.stripped = none := by decide +kernel
  have tested : WordAt "i < n" [] "i" " < n" := by decide +kernel
  have stepped : WordAt "\n  s += i; ++ i;\n" "\n  s += i; ++ " "i" ";\n" := by decide +kernel
  have loop : IsLoop .java row.stripped.trim row.depth ((Program.ofCode .java code).rows.drop 2)
      "while (i < n)" "i < n" "\n  s += i; ++ i;\n" := by
    cases at_
    exact @IsLoop.block _ _ _ _ " " "i < n" "\n" _ "" rfl (by decide) (by decide +kernel)
      (by decide) (by decide) (by decide +kernel) (by decide +kernel)
  have tests : Tests "i < n" "i" := ⟨by decide, by decide +kernel, by decide, [], _, tested, nofun⟩
  have updates : Updates seenOperators "\n  s += i; ++ i;\n" "i" :=
    ⟨_, _, stepped, .stepped (.head _) (.inr (by decide))⟩
  exact (loop_passed_iff at_ single loop).2 (.inr (.inr (.inr (.inr ⟨"i", tests, .inl updates⟩))))

/-- **Not every operator that assigns is seen**: a loop that shifts what it tests is flagged. -/
theorem shifting_loop_is_flagged :
    ¬∀ (language : Language) (code : Text) (k : Nat) (row : Row) (header condition body name : Text),
      (Program.ofCode language code).rows[k]? = some row →
      (∀ other ∈ (Program.ofCode language code).rows.eraseIdx k,
        LoopHead.ofLine? language other.stripped = none) →
      IsLoop language row.stripped.trim row.depth
        ((Program.ofCode language code).rows.drop (k + 1)) header condition body →
      Tests condition name → Updates (assignmentOperators language) body name →
      endlessLoop? (Program.ofCode language code) = none := by
  intro passed
  let code : Text := "while (x < 10) \x7b\n  x <<= 1;\n\x7d"
  obtain ⟨row, at_⟩ : ∃ row, (Program.ofCode .java code).rows[0]? = some row := ⟨_, rfl⟩
  have single : ∀ other ∈ (Program.ofCode .java code).rows.eraseIdx 0,
      LoopHead.ofLine? .java other.stripped = none := by decide +kernel
  have tested : WordAt "x < 10" [] "x" " < 10" := by decide +kernel
  have shifted : WordAt "\n  x <<= 1;\n" "\n  " "x" " <<= 1;\n" := by decide +kernel
  have loop : IsLoop .java row.stripped.trim row.depth ((Program.ofCode .java code).rows.drop 1)
      "while (x < 10)" "x < 10" "\n  x <<= 1;\n" := by
    cases at_
    exact @IsLoop.block _ _ _ _ " " "x < 10" " " _ "" rfl (by decide) (by decide +kernel)
      (by decide) (by decide) (by decide +kernel) (by decide +kernel)
  have tests : Tests "x < 10" "x" := ⟨by decide, by decide +kernel, by decide, [], _, tested, nofun⟩
  have listed : ("<<=" : Text) ∈ assignmentOperators .java := by decide
  have updates : Updates (assignmentOperators .java) "\n  x <<= 1;\n" "x" :=
    ⟨_, _, shifted, .assigned listed (by decide) (by decide)⟩
  have flagged : endlessLoop? (Program.ofCode .java code) = some 1 := by decide +kernel
  exact absurd (passed .java code 0 row _ _ _ "x" at_ single loop tests updates) (by simp [flagged])

end SnippetLab.Check

import SnippetLab.Proofs.Statement.Declarations

/-!
# When the other shapes of a statement fit

The shapes are tried one after the other, so what a line says depends on all the shapes before the
one that fits it.  For each shape this file says what it reads back from a text written that way,
and that it declines the texts meant for a later one.

* `assignment?_written`, `assignment?_eq_none` — assignments are read back, and calls are none,
  whatever signs stand among their arguments.
* `step?_after`, `step?_before`, `step?_eq_none` — steps are read back, and calls are none.
* `print?_written`, `printArgs_arguments` — calls that print are read back with their arguments.
* `call?_written` — other calls are read back.
-/

namespace SnippetLab.Statement

open Source Text

/-! ## Assignments -/

/-- What stands right before the sign of an assignment: nothing, plus or minus. -/
def operator : Option Sign → Text
  | none => []
  | some sign => [sign.char]

lemma ofChar?_char (sign : Sign) : Sign.ofChar? sign.char = some sign := by
  cases sign with
  | plus => rfl
  | minus => rfl

/-- The last character of a name is no operator. -/
lemma target?_name {left r : Text} {c : Char} (ends : left.trimEnd = r ++ [c])
    (word : isWordChar c = true) : target? left = some (r ++ [c], none) := by
  have others := not_mem_of_isWordChar word ['*', '/', '%', '&', '|', '^'] (by decide)
  have signs := not_mem_of_isWordChar word ['+', '-'] (by decide)
  simp only [List.mem_cons, List.not_mem_nil, or_false, not_or] at signs
  simp only [target?, ends, List.getLast?_concat, Sign.ofChar?, if_neg signs.1, if_neg signs.2,
    if_neg others]

/-- An operator is told from the name before it. -/
lemma target?_written {name before : Text} (op : Option Sign) (named : isIdentifier name = true)
    (blank : isAllBlank before = true) :
    target? (name ++ (before ++ operator op)) = some (name, op) := by
  have solid := solid_of_isIdentifier named
  cases op with
  | none =>
      have ends : trimEnd (name ++ (before ++ operator none)) = name := by
        rw [operator, List.append_nil]
        exact solid.trimEnd_append blank
      obtain ⟨r, c, rfl, -⟩ := solid.last
      exact target?_name ends (isWordChar_of_isIdentifier named c (by simp))
  | some sign =>
      have sign' : Solid [sign.char] := .singleton (isBlank_of_isMark (isMark_char sign))
      have ends : trimEnd (name ++ (before ++ operator (some sign))) =
          (name ++ before) ++ [sign.char] := by
        rw [operator, (solid.append sign' before).trimEnd_eq, List.append_assoc]
      simp only [target?, ends, List.getLast?_concat, ofChar?_char, List.dropLast_concat,
        solid.trimEnd_append blank]

lemma isInert_char (sign : Sign) : isInert sign.char = true := by
  cases sign with
  | plus => rfl
  | minus => rfl

/-- **An assignment is read back.** -/
theorem assignment?_written {name before right e : Text} (op : Option Sign)
    (named : isIdentifier name = true) (free : isKeyword name = false)
    (blank : isAllBlank before = true) (value : Value right e) :
    assignment? (name ++ (before ++ (operator op ++ '=' :: right))) =
      some (.assign name op e) := by
  have inert : ∀ c ∈ name ++ (before ++ operator op), isInert c = true := by
    intro c hc
    rw [← List.append_assoc] at hc
    rcases List.mem_append.1 hc with inNamed | inOperator
    · exact isInert_of_named named blank c inNamed
    · cases op with
      | none => cases inOperator
      | some sign =>
          rw [List.mem_singleton.1 inOperator]
          exact isInert_char sign
  have sides : splitAssignment (name ++ (before ++ (operator op ++ '=' :: right))) =
      some (name ++ (before ++ operator op), right) := by
    have split := splitAssignment_append inert value.head?_ne
    rwa [List.append_assoc, List.append_assoc] at split
  simp only [assignment?, sides, target?_written op named blank,
    (solid_of_isIdentifier named).trim_eq, named, free, value.trim_eq]
  rfl

/-- What is not blank and no operator stays in the target. -/
lemma mem_of_target? {left target : Text} {op : Option Sign} (h : target? left = some (target, op))
    {c : Char} (hc : c ∈ left) (solid : isBlank c = false) (plain : Sign.ofChar? c = none) :
    c ∈ target := by
  have kept := mem_trimEnd hc solid
  unfold target? at h
  split at h
  · rename_i empty
    rw [List.getLast?_eq_none_iff.1 empty] at kept
    cases kept
  · rename_i d last
    split at h
    · rename_i sign operator
      cases h
      obtain ⟨r, ends⟩ := List.getLast?_eq_some_iff.1 last
      rw [ends] at kept
      rw [ends, List.dropLast_concat]
      refine mem_trimEnd ?_ solid
      rcases List.mem_append.1 kept with before | atEnd
      · exact before
      · rw [List.mem_singleton.1 atEnd, operator] at plain
        cases plain
    · split at h
      · cases h
      · cases h
        exact kept

/-- **A call is no assignment**, whatever signs stand among its arguments. -/
theorem assignment?_eq_none {w : Text} (inert : ∀ c ∈ w, isInert c = true) (r : Text) :
    assignment? (w ++ '(' :: r) = none := by
  have passed : ∀ c ∈ w ++ ['('], isInert c = true := by
    intro c hc
    rcases List.mem_append.1 hc with inWord | atEnd
    · exact inert c inWord
    · rw [List.mem_singleton.1 atEnd]
      rfl
  rw [List.append_cons]
  unfold assignment?
  split
  · rfl
  · rename_i left right sides
    split
    · rfl
    · rename_i target op found
      -- The parenthesis comes before any sign that counts, so it would be part of the name.
      have opening : '(' ∈ left := (isPrefix_of_splitAssignment passed sides).subset (by simp)
      have inTarget := mem_of_target? found opening (by decide) rfl
      rw [isIdentifier_eq_false (mem_trim inTarget (by decide)) (by decide)]
      rfl

/-- Without a sign there is no assignment. -/
lemma assignment?_eq_none_of_inert {t : Text} (inert : ∀ c ∈ t, isInert c = true) :
    assignment? t = none := by
  rw [assignment?, splitAssignment_eq_none inert]

/-! ## Steps -/

section Steps

variable {name : Text}

lemma step?_of_parts {body : Text} {direction : Sign} (named : isIdentifier name = true)
    (parts : stepParts? body = some (name, direction)) :
    step? body = some (.step name direction) := by
  rw [step?, parts]
  simp only [(solid_of_isIdentifier named).trim_eq, named, if_true]

/-- **A step after the name is read back.** -/
theorem step?_after (named : isIdentifier name = true) (sign : Sign) :
    step? (name ++ [sign.char, sign.char]) = some (.step name sign) := by
  refine step?_of_parts named ?_
  cases sign with
  | plus =>
      have increment : dropEnd? (name ++ ['+', '+']) "++" = some name := dropEnd?_eq_some.2 rfl
      rw [stepParts?, Sign.char, increment]
  | minus =>
      have other : dropEnd? (name ++ ['-', '-']) "++" = none := by
        rw [List.append_cons]
        exact dropEnd?_concat_eq_none (by decide) (name ++ ['-']) ['+']
      have decrement : dropEnd? (name ++ ['-', '-']) "--" = some name := dropEnd?_eq_some.2 rfl
      rw [stepParts?, Sign.char, other, decrement]

/-- **A step before the name is read back**: a name ends with neither of the signs. -/
theorem step?_before (named : isIdentifier name = true) (sign : Sign) :
    step? (sign.char :: sign.char :: name) = some (.step name sign) := by
  refine step?_of_parts named ?_
  have endings : ∀ d c, isWordChar d = false → dropEnd? (c :: c :: name) [d, d] = none := by
    intro d c other
    obtain ⟨r, last, rfl, -⟩ := (solid_of_isIdentifier named).last
    have word := isWordChar_of_isIdentifier named last (by simp)
    exact dropEnd?_concat_eq_none (ne_of_isWordChar word other) (c :: c :: r) [d]
  have noIncrement : ∀ c, dropEnd? (c :: c :: name) "++" = none := fun c =>
    endings '+' c (by decide)
  have noDecrement : ∀ c, dropEnd? (c :: c :: name) "--" = none := fun c =>
    endings '-' c (by decide)
  rw [stepParts?, noIncrement, noDecrement]
  cases sign with
  | plus =>
      have increment : dropStart? ('+' :: '+' :: name) "++" = some name := dropStart?_eq_some.2 rfl
      rw [Sign.char, increment]
  | minus =>
      have other : dropStart? ('-' :: '-' :: name) "++" = none :=
        dropStart?_cons_eq_none (by decide) ('-' :: name) ['+']
      have decrement : dropStart? ('-' :: '-' :: name) "--" = some name := dropStart?_eq_some.2 rfl
      rw [Sign.char, other, decrement]

/-- A call is no step. -/
lemma step?_eq_none {c : Char} (word : isWordChar c = true) (r : Text) :
    step? (c :: (r ++ ")")) = none := by
  have plus := ne_of_isWordChar word (d := '+') (by decide)
  have minus := ne_of_isWordChar word (d := '-') (by decide)
  have endings : ∀ d, ')' ≠ d → dropEnd? (c :: (r ++ ")")) [d, d] = none := fun d other =>
    dropEnd?_concat_eq_none other (c :: r) [d]
  have noIncrement : dropEnd? (c :: (r ++ ")")) "++" = none := endings '+' (by decide)
  have noDecrement : dropEnd? (c :: (r ++ ")")) "--" = none := endings '-' (by decide)
  have noPlus : dropStart? (c :: (r ++ ")")) "++" = none := dropStart?_cons_eq_none plus _ ['+']
  have noMinus : dropStart? (c :: (r ++ ")")) "--" = none := dropStart?_cons_eq_none minus _ ['-']
  rw [step?, stepParts?, noIncrement, noDecrement, noPlus, noMinus]

end Steps

/-! ## Calls that print -/

section Prints

variable {language : Language} {opening : Text} {newline : Bool}

/-- Every print call begins with a word and a mark; the mark is a parenthesis in Python only. -/
lemma word_of_mem_printCalls (h : (opening, newline) ∈ printCalls language) :
    ∃ w d s, opening = w ++ d :: s ∧ isIdentifier w = true ∧ isMark d = true ∧
      (d = '(' → language = .python ∧ w = "print") := by
  cases language with
  | java =>
      simp only [printCalls, List.mem_cons, Prod.mk.injEq, List.not_mem_nil, or_false] at h
      rcases h with ⟨rfl, -⟩ | ⟨rfl, -⟩
      · exact ⟨"System", '.', "out.println(", rfl, by decide, by decide, by simp⟩
      · exact ⟨"System", '.', "out.print(", rfl, by decide, by decide, by simp⟩
  | python =>
      simp only [printCalls, List.mem_singleton, Prod.mk.injEq] at h
      exact ⟨"print", '(', [], h.1, by decide, by decide, fun _ => ⟨rfl, rfl⟩⟩
  | javaScript =>
      simp only [printCalls, List.mem_singleton, Prod.mk.injEq] at h
      exact ⟨"console", '.', "log(", h.1, by decide, by decide, by simp⟩

/-- Every print call ends with its parenthesis, and has no quote and no sign before it. -/
lemma inert_of_mem_printCalls (h : (opening, newline) ∈ printCalls language) :
    ∃ w, opening = w ++ "(" ∧ ∀ c ∈ w, isInert c = true := by
  have inert : ∀ t : Text, t.all isInert = true → ∀ c ∈ t, isInert c = true := fun t all =>
    List.all_eq_true.1 all
  cases language with
  | java =>
      simp only [printCalls, List.mem_cons, Prod.mk.injEq, List.not_mem_nil, or_false] at h
      rcases h with ⟨rfl, -⟩ | ⟨rfl, -⟩
      · exact ⟨"System.out.println", rfl, inert _ (by decide)⟩
      · exact ⟨"System.out.print", rfl, inert _ (by decide)⟩
  | python =>
      simp only [printCalls, List.mem_singleton, Prod.mk.injEq] at h
      exact ⟨"print", h.1, inert _ (by decide)⟩
  | javaScript =>
      simp only [printCalls, List.mem_singleton, Prod.mk.injEq] at h
      exact ⟨"console.log", h.1, inert _ (by decide)⟩

/-- No print call of a language begins another one. -/
lemma findSome?_printCalls (h : (opening, newline) ∈ printCalls language) (rest : Text) :
    ((printCalls language).findSome? fun (begun, newline) =>
      (dropStart? (opening ++ rest) begun).map fun rest => (rest, newline)) =
      some (rest, newline) := by
  cases language with
  | java =>
      simp only [printCalls, List.mem_cons, Prod.mk.injEq, List.not_mem_nil, or_false] at h
      rcases h with ⟨rfl, rfl⟩ | ⟨rfl, rfl⟩
      · rfl
      · rfl
  | python =>
      simp only [printCalls, List.mem_singleton, Prod.mk.injEq] at h
      rw [h.1, h.2]
      rfl
  | javaScript =>
      simp only [printCalls, List.mem_singleton, Prod.mk.injEq] at h
      rw [h.1, h.2]
      rfl

/-- **A print call around a balanced text prints**, and its arguments are those of the text. -/
theorem print?_written (h : (opening, newline) ∈ printCalls language) {inner : Text}
    (balanced : parenBalance language inner = 0) :
    print? language (opening ++ (inner ++ ")")) =
      some (.print (printArgs language inner.trim) newline) := by
  have closed : dropEnd? (inner ++ ")") ")" = some inner := dropEnd?_eq_some.2 rfl
  rw [print?, findSome?_printCalls h]
  simp only [closed, balanced, if_true]

/-- A call of a method begins no print call, unless its name is that of one. -/
lemma print?_eq_none {m : Text} (named : isIdentifier m = true)
    (other : language = .python → m ≠ "print") (r : Text) :
    print? language (m ++ '(' :: r) = none := by
  have unbegun : ((printCalls language).findSome? fun (begun, newline) =>
      (dropStart? (m ++ '(' :: r) begun).map fun rest => (rest, newline)) = none := by
    rw [List.findSome?_eq_none_iff]
    rintro ⟨begun, newline⟩ mem
    obtain ⟨w, d, s, rfl, word, mark, python⟩ := word_of_mem_printCalls mem
    rw [Option.map_eq_none_iff, Option.eq_none_iff_forall_not_mem]
    intro rest found
    have same := dropStart?_eq_some.1 found
    rw [List.append_assoc, List.cons_append] at same
    obtain ⟨rfl, rfl⟩ := eq_of_word_append_eq (isWordChar_of_isIdentifier word)
      (isWordChar_of_isIdentifier named) (isWordChar_of_isMark mark) (by decide) same
    obtain ⟨python, print⟩ := python rfl
    exact other python print
  rw [print?, unbegun]

end Prints

/-! ## Arguments -/

/-- **Arguments as they are written** between the parentheses of a print call: none, one expression
in Java, and in the other languages any number with commas between them, each closing its literals
and brackets and without a comma outside them. -/
inductive Arguments : Language → Text → List Text → Prop
  | none {language : Language} {inner : Text} (blank : isAllBlank inner = true) :
      Arguments language inner []
  | expression {left e right : Text} (blankLeft : isAllBlank left = true) (solid : Solid e)
      (blankRight : isAllBlank right = true) : Arguments .java (left ++ (e ++ right)) [e]
  | listed {language : Language} {args : List Text} {left gap right : Text}
      (listing : language ≠ .java) (nonempty : args ≠ []) (solid : ∀ a ∈ args, Solid a)
      (whole : ∀ a ∈ args, Whole ',' .outside 0 a) (blankLeft : isAllBlank left = true)
      (blankGap : isAllBlank gap = true) (blankRight : isAllBlank right = true) :
      Arguments language (left ++ (Text.join (',' :: gap) args ++ right)) args

/-- Blanks in front of a whole piece leave it whole. -/
lemma whole_blanks {gap piece : Text} (blank : isAllBlank gap = true)
    (h : Whole ',' .outside 0 piece) : Whole ',' .outside 0 (gap ++ piece) := by
  induction gap with
  | nil => exact h
  | cons g gap ih =>
      simp only [isAllBlank, List.all_cons, Bool.and_eq_true] at blank
      refine ⟨separates_blank (by decide) blank.1 .outside 0, ?_⟩
      rw [if_pos rfl, next_of_isBlank blank.1, nestingStep_of_isBlank blank.1]
      exact ih blank.2

lemma solid_join {sep : Text} {args : List Text} (nonempty : args ≠ [])
    (solid : ∀ a ∈ args, Solid a) :
    Solid (Text.join sep args) := by
  induction args with
  | nil => exact absurd rfl nonempty
  | cons a rest ih =>
      rw [List.forall_mem_cons] at solid
      cases rest with
      | nil =>
          rw [Text.join, List.intercalate_singleton]
          exact solid.1
      | cons b rest =>
          have later := ih (List.cons_ne_nil b rest) solid.2
          rw [Text.join, List.intercalate_cons_cons, List.append_assoc]
          exact solid.1.append later sep

/-- **The arguments are split back** at their commas; the blanks behind the commas go with the
arguments after them and are trimmed away. -/
theorem splitTopLevel_arguments {gap : Text} (blank : isAllBlank gap = true) {args : List Text}
    (nonempty : args ≠ []) (solid : ∀ a ∈ args, Solid a)
    (whole : ∀ a ∈ args, Whole ',' .outside 0 a) :
    (splitTopLevel ',' (Text.join (',' :: gap) args)).map Text.trim = args := by
  obtain ⟨a, rest, rfl⟩ := List.exists_cons_of_ne_nil nonempty
  -- Read with the bare comma for a separator, every piece but the first begins with the blanks.
  have moved : Text.join (',' :: gap) (a :: rest) =
      Text.join [','] (a :: rest.map (gap ++ ·)) := by
    rw [join_cons, join_cons, List.flatMap_map]
    simp
  rw [List.forall_mem_cons] at solid whole
  have pieces : ∀ p ∈ a :: rest.map (gap ++ ·), Whole ',' .outside 0 p := by
    intro p hp
    rcases List.mem_cons.1 hp with rfl | later
    · exact whole.1
    · obtain ⟨b, hb, rfl⟩ := List.mem_map.1 later
      exact whole_blanks blank (whole.2 b hb)
  have trimmed : (rest.map (gap ++ ·)).map Text.trim = rest := by
    rw [List.map_map]
    refine (List.map_congr_left fun b hb => ?_).trans (List.map_id rest)
    exact (solid.2 b hb).trim_append_left blank
  rw [moved, splitTopLevel_join (by decide) (List.cons_ne_nil _ _) pieces, List.map_cons,
    solid.1.trim_eq, trimmed]

/-- **The arguments of a print call are read back.** -/
theorem printArgs_arguments {language : Language} {inner : Text} {args : List Text}
    (h : Arguments language inner args) : printArgs language inner.trim = args := by
  have full : ∀ {t : Text}, Solid t → t.isEmpty = false := by
    intro t solid
    obtain ⟨c, r, rfl, -⟩ := solid.first
    rfl
  cases h with
  | none blank =>
      rw [trim_eq_nil blank]
      rfl
  | expression blankLeft solid blankRight =>
      rw [solid.trim_padded blankLeft blankRight, printArgs, full solid]
      rfl
  | @listed _ args left gap right listing nonempty solid whole blankLeft blankGap blankRight =>
      have joined : Solid (Text.join (',' :: gap) args) := solid_join nonempty solid
      rw [joined.trim_padded blankLeft blankRight, printArgs, full joined, if_neg listing]
      exact splitTopLevel_arguments blankGap nonempty solid whole

/-! ## Other calls -/

/-- A call leaves no method, unless its name is the word for that. -/
lemma leave?_eq_none {m : Text} (named : isIdentifier m = true) (free : isKeyword m = false)
    (r : Text) : leave? (m ++ '(' :: r) = none := by
  have word := isWordChar_of_isIdentifier named
  have apart : ∀ d s, isWordChar d = false →
      startsWith (m ++ '(' :: r) ("return" ++ d :: s) = false := by
    intro d s other
    rw [startsWith_eq_false_iff]
    rintro ⟨rest, same⟩
    rw [List.append_assoc, List.cons_append] at same
    have plain : ∀ c ∈ ("return" : Text), isWordChar c = true :=
      List.all_eq_true.1 (by decide)
    obtain ⟨rfl, -⟩ := eq_of_word_append_eq plain word other (by decide) same
    exact absurd free (by decide)
  have whole : (m ++ '(' :: r == ("return" : Text)) = false := by
    rw [beq_eq_false_iff_ne]
    intro same
    have opening : '(' ∈ m ++ '(' :: r := by simp
    rw [same] at opening
    exact absurd opening (by decide)
  have space : startsWith (m ++ '(' :: r) "return " = false := apart ' ' [] (by decide)
  have group : startsWith (m ++ '(' :: r) "return(" = false := apart '(' [] (by decide)
  have text : startsWith (m ++ '(' :: r) "return\"" = false := apart '"' [] (by decide)
  rw [leave?, whole]
  simp only [List.any_cons, List.any_nil, space, group, text]
  rfl

/-- **A call of a method is read back.** -/
theorem call?_written {language : Language} {m a : Text} (named : isIdentifier m = true)
    (free : isKeyword m = false) (balanced : parenBalance language (m ++ '(' :: (a ++ ")")) = 0) :
    call? language (m ++ '(' :: (a ++ ")")) = some (.call m) := by
  have plain : ∀ d, isWordChar d = false → ∀ c ∈ m, (c == d) = false := by
    intro d other c hc
    rw [beq_eq_false_iff_ne]
    exact ne_of_isWordChar (isWordChar_of_isIdentifier named c hc) other
  have closed : endsWith (m ++ '(' :: (a ++ ")")) ")" = true := by
    rw [endsWith, List.isSuffixOf_iff_suffix]
    exact ⟨m ++ '(' :: a, by simp⟩
  have head : splitFirst (· == '(') (m ++ '(' :: (a ++ ")")) = some (m, a ++ ")") :=
    splitFirst_append_cons (plain '(' (by decide)) rfl _
  have unowned : ∀ owner : Text, '.' ∈ owner → startsWith m owner = false := by
    intro owner dot
    rw [startsWith_eq_false_iff]
    intro begun
    exact absurd (plain '.' (by decide) '.' (begun.subset dot)) (by decide)
  have path : splitOn (· == '.') m = [m] := splitOn_eq_singleton (plain '.' (by decide))
  rw [call?, closed, balanced, head]
  simp only [(solid_of_isIdentifier named).trim_eq, unowned "System." (by decide),
    unowned "console." (by decide), path]
  simp [named, free, (solid_of_isIdentifier named).trim_eq]

end SnippetLab.Statement

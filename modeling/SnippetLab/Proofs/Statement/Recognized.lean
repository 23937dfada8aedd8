import Mathlib.Data.Option.Basic
import Mathlib.Tactic.Tauto
import SnippetLab.Proofs.Statement.Written

/-!
# What a statement says of its text

`Written` tells which statement a text is read as.  This file goes the other way: a text that is
read as a statement has a certain form.  Declarations are the texts of `Declared` and no others, and
a declaration or an assignment is decided by what stands in front of its sign, so that whatever is
put behind it becomes part of the value.

* `declaration?_iff` — **what is read as a declaration has been written as one.**
* `Declared.sign`, `assignment?_sign` — the sign, and what stands before it.
* `count_values` — **a character that belongs to no name and no operator occurs in the values of a
  statement as often as in its text.**
-/

namespace SnippetLab.Statement

open Source Text

/-! ## Declarations -/

lemma typeTag_of_isTypeTag {language : Language} {word : Text}
    (h : isTypeTag language word = true) : TypeTag language word := by
  cases language with
  | python => cases h
  | javaScript => exact .declarator h
  | java =>
      -- The brackets are taken off from the back.
      have back : ∀ t : Text, javaTypes.contains (withoutBracketsBack t).reverse = true →
          TypeTag .java t.reverse := by
        intro t
        fun_induction withoutBracketsBack t with
        | case1 r ih =>
            intro listed
            simpa using TypeTag.array (ih listed)
        | case2 t _ => exact .named
      simpa using back word.reverse h

/-- What stands behind the sign at the end of a solid text is a value. -/
lemma Value.of_solid {p right : Text} (solid : Solid (p ++ '=' :: right))
    (apart : right.head? ≠ some '=') : Value right right.trim := by
  obtain ⟨left, blanks, before, behind, whole⟩ := exists_blanks_trim right
  have ends : p ++ '=' :: right = (p ++ '=' :: (left ++ right.trim)) ++ blanks := by
    conv_lhs => rw [whole]
    simp
  rw [ends] at solid
  rw [solid.right_eq_nil behind, List.append_nil] at whole solid
  rcases trim_eq_nil_or_solid right with empty | given
  · rw [empty, List.append_nil, List.append_cons] at solid
    rw [empty, List.append_nil, solid.right_eq_nil before] at whole
    rw [empty, whole]
    exact .missing
  · have value : Value (left ++ right.trim) right.trim := .given before given (whole ▸ apart)
    rwa [← whole] at value

section Sides

variable {quote prev : Option Char} {t left right : Text}

/-- **Only what stands before the sign decides where a text is split**, unless a second sign comes
right after it. -/
lemma splitAssignmentFrom_sign (h : splitAssignmentFrom quote prev t = some (left, right)) :
    right.head? ≠ some '=' ∧ ∀ right', right'.head? ≠ some '=' →
      splitAssignmentFrom quote prev (left ++ '=' :: right') = some (left, right') := by
  induction t generalizing quote prev left with
  | nil => cases h
  | cons c r ih =>
      have onward : ∀ {quote'},
          (splitAssignmentFrom quote' (some c) r).map
            (fun sides => (c :: sides.1, sides.2)) = some (left, right) →
          right.head? ≠ some '=' ∧ ∃ rest, left = c :: rest ∧
            ∀ right', right'.head? ≠ some '=' →
              splitAssignmentFrom quote' (some c) (rest ++ '=' :: right') =
                some (rest, right') := by
        intro quote' later
        obtain ⟨⟨rest, r'⟩, found, same⟩ := Option.map_eq_some_iff.1 later
        cases same
        exact ⟨(ih found).1, rest, rfl, (ih found).2⟩
      unfold splitAssignmentFrom at h
      cases quote with
      | some q =>
          obtain ⟨apart, rest, rfl, again⟩ := onward h
          refine ⟨apart, fun right' apart' => ?_⟩
          simp [splitAssignmentFrom, again right' apart']
      | none =>
          simp only at h
          split at h
          · rename_i opens
            obtain ⟨apart, rest, rfl, again⟩ := onward h
            refine ⟨apart, fun right' apart' => ?_⟩
            simp [splitAssignmentFrom, opens, again right' apart']
          · rename_i closed
            split at h
            · rename_i sign
              split at h
              · cases h
              · rename_i single
                cases h
                rw [not_or] at single
                refine ⟨single.1, fun right' apart' => ?_⟩
                simp [splitAssignmentFrom, isQuote, apart', single.2]
            · rename_i other
              obtain ⟨apart, rest, rfl, again⟩ := onward h
              refine ⟨apart, fun right' apart' => ?_⟩
              simp [splitAssignmentFrom, closed, other, again right' apart']

end Sides

lemma declared_of_typed? {language : Language} {body : Text} {st : Statement} (solid : Solid body)
    (h : typed? language body = some st) : Declared language body st := by
  unfold typed? at h
  split at h
  · cases h
  · rename_i tag rest cut
    split at h
    · rename_i type
      have type := typeTag_of_isTypeTag type
      obtain ⟨b, blank, rfl⟩ := eq_of_splitFirst cut
      obtain ⟨left, right, before, behind, whole⟩ := exists_blanks_trim rest
      have gap : isAllBlank (b :: left) = true := by
        rw [isAllBlank, List.all_cons, blank]
        exact before
      -- Only the end of the text could be blank, and it is not.
      have ends : tag ++ b :: rest = tag ++ ((b :: left) ++ rest.trim) ++ right := by
        conv_lhs => rw [whole]
        simp
      rw [ends] at solid ⊢
      obtain rfl := solid.right_eq_nil behind
      rw [List.append_nil] at solid ⊢
      split at h
      · rename_i n init sides
        split at h
        · rename_i named
          cases h
          have same := append_of_splitAssignmentFrom sides
          have core : Solid rest.trim := (trim_eq_nil_or_solid rest).resolve_left
            fun empty => absurd (same.trans empty) (by simp)
          obtain ⟨blanks, pad, leads, trails, name⟩ := exists_blanks_trim n
          have begins : blanks ++ (n.trim ++ pad ++ '=' :: init) = rest.trim := by
            rw [← same]
            conv_rhs => rw [name]
            simp
          rw [← begins] at core
          obtain rfl := core.left_eq_nil leads
          rw [List.nil_append] at begins core
          rw [← begins, List.append_assoc]
          exact .value type gap (List.cons_ne_nil b left) named trails
            (.of_solid core (splitAssignmentFrom_sign sides).1)
        · cases h
      · split at h
        · rename_i named
          cases h
          exact .bare type gap (List.cons_ne_nil b left) named
        · cases h
    · cases h

lemma append_of_afterModifier? {body rest : Text} (h : afterModifier? body = some rest) :
    (rest = [] ∨ ∃ c r, rest = c :: r ∧ isBlank c = false) ∧
      ∃ modifier gap, modifiers.contains modifier = true ∧ isAllBlank gap = true ∧
        gap ≠ [] ∧ body = modifier ++ (gap ++ rest) := by
  unfold afterModifier? at h
  split at h
  · rename_i modifier behind cut
    split at h
    · rename_i listed
      cases h
      obtain ⟨b, blank, rfl⟩ := eq_of_splitFirst cut
      obtain ⟨left, before, whole⟩ := exists_blanks_trimStart behind
      refine ⟨trimStart_eq_nil_or_cons behind, modifier, b :: left, listed, ?_, nofun, ?_⟩
      · rw [isAllBlank, List.all_cons, blank]
        exact before
      · conv_lhs => rw [whole]
        rfl
    · cases h
  · cases h

lemma declared_of_withoutModifiers {language : Language} {fuel : Nat} {body : Text}
    {st : Statement} (solid : Solid body)
    (h : typed? language (withoutModifiers fuel body) = some st) : Declared language body st := by
  induction fuel generalizing body with
  | zero => exact declared_of_typed? solid h
  | succ fuel ih =>
      unfold withoutModifiers at h
      split at h
      · rename_i rest modified
        obtain ⟨first, modifier, gap, listed, blank, apart, rfl⟩ :=
          append_of_afterModifier? modified
        rcases first with rfl | first
        · rw [withoutModifiers_eq rfl] at h
          cases h
        · rw [← List.append_assoc] at solid
          exact .modified listed blank apart (ih (solid.of_append first) h)
      · exact declared_of_typed? solid h

/-- **What is read as a declaration has been written as one.** -/
theorem declaration?_iff {language : Language} {body : Text} {st : Statement}
    (solid : Solid body) :
    declaration? language body = some st ↔ Declared language body st :=
  ⟨declared_of_withoutModifiers solid, declaration?_declared⟩

/-- **What stands before the sign makes the declaration**, and any other value may stand behind
it.  A declaration without a sign has no value. -/
theorem Declared.sign {language : Language} {body : Text} {st : Statement}
    (h : Declared language body st) {d : Char} (mark : isMark d = true) :
    (∃ tag name p q e, st = .declare tag name e ∧ body = p ++ '=' :: q ∧ Value q e ∧ d ∉ p ∧
        ∀ q' e', Value q' e' → Declared language (p ++ '=' :: q') (.declare tag name e')) ∨
      ∃ tag name, st = .declareDefault tag name ∧ d ∉ body := by
  have notBlank {gap : Text} (blank : isAllBlank gap = true) : d ∉ gap :=
    not_mem_of_isAllBlank blank (isBlank_of_isMark mark)
  have notWord {w : Text} (word : ∀ c ∈ w, isWordChar c = true) : d ∉ w := by
    intro here
    have other := isWordChar_of_isMark mark
    rw [word d here] at other
    cases other
  have notType {tag : Text} (type : TypeTag language tag) : d ∉ tag := by
    intro here
    rcases typeChar_of_isTypeTag type.isTypeTag_eq_true d here with word | rfl | rfl
    · have other := isWordChar_of_isMark mark
      rw [word] at other
      cases other
    · cases mark
    · cases mark
  induction h with
  | @value tag gap name before right init type blank apart named blankBefore value =>
      refine .inl ⟨tag, name, tag ++ (gap ++ (name ++ before)), right, init, rfl, by simp, value,
        ?_, fun q' e' value' => ?_⟩
      · simp [notType type, notBlank blank, notBlank blankBefore,
          notWord (isWordChar_of_isIdentifier named)]
      · have declared := Declared.value type blank apart named blankBefore value'
        simpa using declared
  | @bare tag gap name type blank apart named =>
      refine .inr ⟨tag, name, rfl, ?_⟩
      simp [notType type, notBlank blank, notWord (isWordChar_of_isIdentifier named)]
  | @modified modifier gap body st listed blank apart declared ih =>
      have word : d ∉ modifier :=
        notWord (@isWordChar_of_mem_words modifiers (by decide) _ listed)
      rcases ih with ⟨tag, name, p, q, e, rfl, rfl, value, clear, others⟩ | ⟨tag, name, rfl, clear⟩
      · refine .inl ⟨tag, name, modifier ++ (gap ++ p), q, e, rfl, by simp, value, ?_,
          fun q' e' value' => ?_⟩
        · simp [word, notBlank blank, clear]
        · have modified := Declared.modified listed blank apart (others q' e' value')
          simpa using modified
      · exact .inr ⟨tag, name, rfl, by simp [word, notBlank blank, clear]⟩

/-! ## The other shapes -/

/-- How a text begins that leaves a method with a value. -/
def leaveOpenings : List Text := ["return ", "return(", "return\""]

section Shapes

variable {language : Language} {body : Text} {st : Statement} {d : Char}

/-- **What stands before the sign makes the assignment**, and any other value may stand behind
it. -/
theorem assignment?_sign (h : assignment? body = some st) (mark : isMark d = true)
    (plain : Sign.ofChar? d = none) :
    ∃ (name : Text) (op : Option Sign) (p q : Text), st = .assign name op q.trim ∧
      body = p ++ '=' :: q ∧ q.head? ≠ some '=' ∧ d ∉ p ∧
      ∀ q' : Text, q'.head? ≠ some '=' →
        assignment? (p ++ '=' :: q') = some (.assign name op q'.trim) := by
  unfold assignment? at h
  split at h
  · cases h
  · rename_i left right sides
    split at h
    · cases h
    · rename_i target op found
      split at h
      · rename_i named
        cases h
        obtain ⟨apart, again⟩ := splitAssignmentFrom_sign sides
        refine ⟨target.trim, op, left, right, rfl, (append_of_splitAssignmentFrom sides).symm,
          apart, fun here => ?_, fun right' apart' => ?_⟩
        · have solid := isBlank_of_isMark mark
          rw [isIdentifier_eq_false (mem_trim (mem_of_target? found here solid plain) solid)
            (isWordChar_of_isMark mark)] at named
          cases named
        · have sides' : splitAssignment (left ++ '=' :: right') = some (left, right') :=
            again right' apart'
          simp only [assignment?, sides', found, named, if_true]
      · cases h

lemma stepParts?_eq_some {name : Text} {direction : Sign}
    (h : stepParts? body = some (name, direction)) :
    body = name ++ [direction.char, direction.char] ∨
      body = direction.char :: direction.char :: name := by
  unfold stepParts? at h
  split at h
  · rename_i increment
    cases h
    exact .inl (dropEnd?_eq_some.1 increment).symm
  · rename_i decrement
    cases h
    exact .inl (dropEnd?_eq_some.1 decrement).symm
  · rename_i increment
    cases h
    exact .inr (dropStart?_eq_some.1 increment).symm
  · rename_i decrement
    cases h
    exact .inr (dropStart?_eq_some.1 decrement).symm
  · cases h

/-- A step holds nothing but its name, its signs and blanks. -/
theorem step?_eq_some (h : step? body = some st) (mark : isMark d = true)
    (plain : Sign.ofChar? d = none) :
    (∃ name direction, st = .step name direction) ∧ d ∉ body := by
  unfold step? at h
  split at h
  · rename_i name direction parts
    split at h
    · rename_i named
      cases h
      refine ⟨⟨_, _, rfl⟩, ?_⟩
      have apart : d ∉ name := by
        intro here
        rw [isIdentifier_eq_false (mem_trim here (isBlank_of_isMark mark))
          (isWordChar_of_isMark mark)] at named
        cases named
      have other : d ≠ direction.char := by
        rintro rfl
        rw [ofChar?_char] at plain
        cases plain
      rcases stepParts?_eq_some parts with rfl | rfl
      · simp [apart, other]
      · simp [apart, other]
    · cases h
  · cases h

theorem print?_eq_some (h : print? language body = some st) :
    ∃ opening newline inner, (opening, newline) ∈ printCalls language ∧
      body = opening ++ (inner ++ ")") ∧ parenBalance language inner = 0 ∧
      st = .print (printArgs language inner.trim) newline := by
  unfold print? at h
  simp only at h
  split at h
  · cases h
  · rename_i rest newline begun
    obtain ⟨⟨opening, newline'⟩, listed, cut⟩ := List.exists_of_findSome?_eq_some begun
    obtain ⟨rest', behind, same⟩ := Option.map_eq_some_iff.1 cut
    cases same
    split at h
    · cases h
    · rename_i inner closed
      split at h
      · rename_i balanced
        cases h
        refine ⟨opening, newline', inner, listed, ?_, balanced, rfl⟩
        rw [dropEnd?_eq_some.1 closed, dropStart?_eq_some.1 behind]
      · cases h

lemma endsWith_of_print? (h : print? language body = some st) : body.endsWith ")" = true := by
  obtain ⟨opening, newline, inner, -, rfl, -⟩ := print?_eq_some h
  rw [← List.append_assoc]
  exact endsWith_concat (opening ++ inner) ')' ')'

lemma leave?_eq_some_iff :
    leave? body = some st ↔
      st = .leave ∧ (body = "return" ∨ ∃ opening ∈ leaveOpenings, opening <+: body) := by
  have decided : leave? body = if body == "return" || leaveOpenings.any (body.startsWith ·) then
      some .leave else none := rfl
  rw [decided]
  split
  · rename_i leaves
    simp only [Bool.or_eq_true, beq_iff_eq, List.any_eq_true, startsWith_iff] at leaves
    simp only [leaves, and_true]
    exact ⟨fun same => (Option.some.inj same).symm, fun same => congrArg some same.symm⟩
  · rename_i stays
    simp only [Bool.or_eq_true, beq_iff_eq, List.any_eq_true, startsWith_iff] at stays
    exact iff_of_false nofun fun leaves => stays leaves.2

lemma length_of_mem_leaveOpenings {opening : Text} (h : opening ∈ leaveOpenings) :
    opening.length = 7 := by
  simp only [leaveOpenings, List.mem_cons, List.not_mem_nil, or_false] at h
  rcases h with rfl | rfl | rfl <;> rfl

lemma isPrefix_of_leave? (h : leave? body = some st) : "return".toList <+: body := by
  rcases (leave?_eq_some_iff.1 h).2 with rfl | ⟨opening, listed, begun⟩
  · exact List.prefix_rfl
  · refine List.IsPrefix.trans ?_ begun
    have all : leaveOpenings.all (startsWith · "return") = true := by decide
    exact startsWith_iff.1 (List.all_eq_true.1 all opening listed)

lemma call?_eq_some (h : call? language body = some st) :
    (body.endsWith ")" = true ∧ parenBalance language body = 0) ∧ ∃ m, st = .call m := by
  unfold call? at h
  split at h
  · rename_i closed
    rw [Bool.and_eq_true, beq_iff_eq] at closed
    refine ⟨closed, ?_⟩
    simp only at h
    split at h
    · cases h
    · split at h
      · cases h
      · split at h
        · split at h
          · exact ⟨_, (Option.some.inj h).symm⟩
          · cases h
        · cases h
  · cases h

/-- A text that is read as a statement with values. -/
def Valued (language : Language) (body : Text) (st : Statement) : Prop :=
  declaration? language body = some st ∨ assignment? body = some st ∨ step? body = some st ∨
    print? language body = some st

/-- **The first shape that fits** has values, or it leaves a method or calls one. -/
theorem shape?_cases (h : shape? language body = some st) :
    Valued language body st ∨ declaration? language body = none ∧ assignment? body = none ∧
      (leave? body = some st ∨ leave? body = none ∧ call? language body = some st) := by
  simp only [shape?, Option.orElse_eq_some] at h
  unfold Valued
  tauto

end Shapes

/-! ## The values of a statement -/

/-- The texts of the values that a run of a statement computes; leaving a method and calling one
compute none that are kept. -/
def values? : Statement → Option (List Text)
  | .declare _ _ init => some [init]
  | .declareDefault .. | .step .. => some []
  | .assign _ _ expr => some [expr]
  | .print args _ => some args
  | .blank | .comment | .leave | .call _ | .unrecognized => none

lemma exists_values {language : Language} {body : Text} {st : Statement} (solid : Solid body)
    (h : Valued language body st) : ∃ vs, st.values? = some vs := by
  have mark : isMark '/' = true := by decide
  rcases h with declared | assigned | step | print
  · rcases ((declaration?_iff solid).1 declared).sign mark with
      ⟨_, _, _, _, e, rfl, -⟩ | ⟨_, _, rfl, -⟩
    · exact ⟨[e], rfl⟩
    · exact ⟨[], rfl⟩
  · obtain ⟨_, _, _, q, rfl, -⟩ := assignment?_sign assigned mark rfl
    exact ⟨[q.trim], rfl⟩
  · obtain ⟨⟨_, _, rfl⟩, -⟩ := step?_eq_some step mark rfl
    exact ⟨[], rfl⟩
  · obtain ⟨_, _, inner, -, -, -, rfl⟩ := print?_eq_some print
    exact ⟨printArgs language inner.trim, rfl⟩

/-- No text is read as a line without a statement. -/
lemma isIdle_of_shape? {language : Language} {body : Text} {st : Statement} (solid : Solid body)
    (h : shape? language body = some st) : st.isIdle = false ∧ st ≠ .unrecognized := by
  rcases shape?_cases h with valued | ⟨-, -, leave | ⟨-, call⟩⟩
  · obtain ⟨vs, values⟩ := exists_values solid valued
    cases st with
    | blank | comment | unrecognized => cases values
    | _ => exact ⟨rfl, nofun⟩
  · rw [(leave?_eq_some_iff.1 leave).1]
    exact ⟨rfl, nofun⟩
  · obtain ⟨-, m, rfl⟩ := call?_eq_some call
    exact ⟨rfl, nofun⟩

section Counts

variable {d : Char}

lemma count_trim (solid : isBlank d = false) (t : Text) : t.trim.count d = t.count d := by
  obtain ⟨left, right, before, behind, whole⟩ := exists_blanks_trim t
  conv_rhs => rw [whole]
  simp [List.count_append, List.count_eq_zero.2 (not_mem_of_isAllBlank before solid),
    List.count_eq_zero.2 (not_mem_of_isAllBlank behind solid)]

lemma flatten_consHead (c : Char) (pieces : List Text) :
    (consHead c pieces).flatten = c :: pieces.flatten := by
  cases pieces with
  | nil => rfl
  | cons piece rest => rfl

/-- Only separators are lost between the pieces. -/
lemma count_splitFrom {sep : Char} (other : d ≠ sep) (quoting : Quoting) (depth : Int) (t : Text) :
    (splitFrom sep quoting depth t).flatten.count d = t.count d := by
  induction t generalizing quoting depth with
  | nil => rfl
  | cons c r ih =>
      unfold splitFrom
      split
      · rename_i apart
        simp only [separates, Bool.and_eq_true, beq_iff_eq] at apart
        have passed : c ≠ d := fun same => other (same.symm.trans apart.1.2)
        simp [ih, passed]
      · simp [flatten_consHead, List.count_cons, ih]

lemma count_printArgs (solid : isBlank d = false) (other : d ≠ ',') (language : Language)
    (inner : Text) : (printArgs language inner).flatten.count d = inner.count d := by
  have trimmed (pieces : List Text) :
      (pieces.map trim).flatten.count d = pieces.flatten.count d := by
    induction pieces with
    | nil => rfl
    | cons piece rest ih => simp [List.count_append, count_trim solid, ih]
  unfold printArgs
  split
  · rename_i empty
    rw [List.isEmpty_iff.1 empty]
    rfl
  · split
    · simp
    · rw [trimmed, splitTopLevel, count_splitFrom other]

variable {language : Language} {body : Text} {st : Statement} {vs : List Text}

/-- **A character that belongs to no name and no operator stands in the values of a statement as
often as in its text.** -/
theorem count_values (solid : Solid body) (h : shape? language body = some st)
    (values : st.values? = some vs) (mark : isMark d = true) (plain : Sign.ofChar? d = none)
    (others : d ∉ ['=', ',', '.', '(', ')']) : vs.flatten.count d = body.count d := by
  have notBlank := isBlank_of_isMark mark
  simp only [List.mem_cons, List.not_mem_nil, or_false, not_or] at others
  obtain ⟨sign, comma, dot, opens, closes⟩ := others
  rcases shape?_cases h with (declared | assigned | step | print) | ⟨-, -, leave | ⟨-, call⟩⟩
  · rcases ((declaration?_iff solid).1 declared).sign mark with
      ⟨tag, name, p, q, e, rfl, rfl, value, clear, -⟩ | ⟨tag, name, rfl, clear⟩
    · cases values
      rw [← value.trim_eq]
      simp [count_trim notBlank, List.count_append, List.count_eq_zero.2 clear, Ne.symm sign]
    · cases values
      exact (List.count_eq_zero.2 clear).symm
  · obtain ⟨name, op, p, q, rfl, rfl, -, clear, -⟩ := assignment?_sign assigned mark plain
    cases values
    simp [count_trim notBlank, List.count_append, List.count_eq_zero.2 clear, Ne.symm sign]
  · obtain ⟨⟨name, direction, rfl⟩, clear⟩ := step?_eq_some step mark plain
    cases values
    exact (List.count_eq_zero.2 clear).symm
  · obtain ⟨opening, newline, inner, listed, rfl, -, rfl⟩ := print?_eq_some print
    cases values
    have plainOpenings : (printCalls language).all (fun call =>
        call.1.all fun c => !isMark c || c == '.' || c == '(') = true := by
      cases language with
      | java => decide
      | python => decide
      | javaScript => decide
    have begun : d ∉ opening := by
      intro here
      have all := List.all_eq_true.1 (List.all_eq_true.1 plainOpenings _ listed) d here
      simp [mark, dot, opens] at all
    rw [count_printArgs notBlank comma, count_trim notBlank]
    simp [List.count_append, List.count_eq_zero.2 begun, Ne.symm closes]
  · rw [(leave?_eq_some_iff.1 leave).1] at values
    cases values
  · obtain ⟨-, m, rfl⟩ := call?_eq_some call
    cases values

end Counts

end SnippetLab.Statement

import SnippetLab.Proofs.Source.Splitting
import SnippetLab.Proofs.Statement.Names
import SnippetLab.Statement.Classify

/-!
# Declarations

A declaration is tried before every other shape, and what it asks of a line is little: that the
first word is a type or a modifier.  Names may be types and modifiers too, so whether a line is one
is decided by the character after the first word.

* `declaration?_eq_none` — a word before a *mark*, a character that no type and no modifier is
  written with, begins no declaration, whatever word it is.
* `TypeTag`, `Value`, `Declared` — types, right sides and declarations as they are written.
* `declaration?_declared` — **a declaration is read back**, with any number of modifiers in front.
-/

namespace SnippetLab.Statement

open Source Text

/-! ## Words and marks -/

/-- Neither a blank nor a character that a type or a modifier is written with. -/
def isMark (c : Char) : Bool := !(isBlank c || isWordChar c || c == '[' || c == ']')

section Marks

variable {c : Char}

lemma isBlank_of_isMark (h : isMark c = true) : isBlank c = false := by
  simp only [isMark, Bool.not_eq_true', Bool.or_eq_false_iff] at h
  exact h.1.1.1

lemma isWordChar_of_isMark (h : isMark c = true) : isWordChar c = false := by
  simp only [isMark, Bool.not_eq_true', Bool.or_eq_false_iff] at h
  exact h.1.1.2

lemma isMark_char (sign : Sign) : isMark sign.char = true := by
  cases sign with
  | plus => decide
  | minus => decide

/-- What holds another character than those of words is no name. -/
lemma isIdentifier_eq_false {t : Text} (hc : c ∈ t) (other : isWordChar c = false) :
    isIdentifier t = false := by
  cases name : isIdentifier t with
  | false => rfl
  | true =>
      rw [isWordChar_of_isIdentifier name c hc] at other
      cases other

/-- A word before another character ends where that character stands. -/
lemma eq_of_word_append_eq {w v r s : Text} {d : Char} (hw : ∀ c ∈ w, isWordChar c = true)
    (hv : ∀ c ∈ v, isWordChar c = true) (hc : isWordChar c = false) (hd : isWordChar d = false)
    (same : w ++ c :: r = v ++ d :: s) : w = v ∧ c = d := by
  have read : ∀ {w r : Text} {c : Char}, (∀ c ∈ w, isWordChar c = true) → isWordChar c = false →
      (w ++ c :: r).takeWhile isWordChar = w := by
    intro w r c word other
    rw [List.takeWhile_append_of_pos word, List.takeWhile_cons_of_neg (by simp [other]),
      List.append_nil]
  have words : w = v := by rw [← read hw hc, same, read hv hd]
  subst words
  exact ⟨rfl, (List.cons.inj (List.append_cancel_left same)).1⟩

end Marks

/-- A word on a list of plain words holds only characters of words. -/
lemma isWordChar_of_mem_words {words : List Text}
    (plain : words.all (fun word => word.all isWordChar) = true) {word : Text}
    (h : words.contains word = true) : ∀ c ∈ word, isWordChar c = true :=
  List.all_eq_true.1 (List.all_eq_true.1 plain word (List.contains_iff_mem.1 h))

lemma mem_withoutBracketsBack {t : Text} {c : Char} (hc : c ∈ t) (opening : c ≠ '[')
    (closing : c ≠ ']') : c ∈ withoutBracketsBack t := by
  fun_induction withoutBracketsBack t with
  | case1 r ih =>
      refine ih ?_
      simpa [opening, closing] using hc
  | case2 t _ => exact hc

/-- A type is written with characters of words and brackets. -/
lemma typeChar_of_isTypeTag {language : Language} {word : Text}
    (h : isTypeTag language word = true) :
    ∀ c ∈ word, isWordChar c = true ∨ c = '[' ∨ c = ']' := by
  intro c hc
  cases language with
  | python => cases h
  | javaScript => exact .inl (isWordChar_of_mem_words (by decide) h c hc)
  | java =>
      by_cases opening : c = '['
      · exact .inr (.inl opening)
      · by_cases closing : c = ']'
        · exact .inr (.inr closing)
        · refine .inl (isWordChar_of_mem_words (by decide) h c ?_)
          exact List.mem_reverse.2
            (mem_withoutBracketsBack (List.mem_reverse.2 hc) opening closing)

/-! ## Declarations -/

section Declined

variable {language : Language} {w gap r : Text} {d : Char}

/-- The first word of a text that has a mark before any blank has that mark. -/
lemma mem_of_splitFirst_mark (clear : ∀ c ∈ w, isBlank c = false) (mark : isMark d = true)
    {first rest : Text} (h : (w ++ d :: r).splitFirst isBlank = some (first, rest)) :
    d ∈ first := by
  have passed : ∀ c ∈ w ++ [d], isBlank c = false := by
    intro c hc
    rcases List.mem_append.1 hc with inWord | atMark
    · exact clear c inWord
    · rw [List.mem_singleton.1 atMark]
      exact isBlank_of_isMark mark
  rw [List.append_cons, splitFirst_append passed] at h
  obtain ⟨⟨left, right⟩, -, same⟩ := Option.map_eq_some_iff.1 h
  cases same
  simp

lemma afterModifier?_eq_none (clear : ∀ c ∈ w, isBlank c = false) (mark : isMark d = true) :
    afterModifier? (w ++ d :: r) = none := by
  unfold afterModifier?
  split
  · rename_i first rest found
    rw [if_neg]
    intro modifier
    have word := isWordChar_of_mem_words (by decide) modifier d
      (mem_of_splitFirst_mark clear mark found)
    rw [isWordChar_of_isMark mark] at word
    cases word
  · rfl

lemma typed?_eq_none (clear : ∀ c ∈ w, isBlank c = false) (mark : isMark d = true) :
    typed? language (w ++ d :: r) = none := by
  unfold typed?
  split
  · rfl
  · rename_i first rest found
    rw [if_neg]
    intro tag
    rcases typeChar_of_isTypeTag tag d (mem_of_splitFirst_mark clear mark found) with
      word | rfl | rfl
    · rw [isWordChar_of_isMark mark] at word
      cases word
    · exact absurd mark (by decide)
    · exact absurd mark (by decide)

lemma withoutModifiers_eq {body : Text} (h : afterModifier? body = none) (fuel : Nat) :
    withoutModifiers fuel body = body := by
  cases fuel with
  | zero => rfl
  | succ fuel => simp [withoutModifiers, h]

/-- A modifier is dropped together with the blanks behind it. -/
lemma withoutModifiers_modifier {modifier rest : Text}
    (word : modifiers.contains modifier = true) (blank : isAllBlank gap = true) (apart : gap ≠ [])
    (solid : ∃ c r, rest = c :: r ∧ isBlank c = false) (fuel : Nat) :
    withoutModifiers (fuel + 1) (modifier ++ (gap ++ rest)) = withoutModifiers fuel rest := by
  obtain ⟨g, gap, rfl⟩ := List.exists_cons_of_ne_nil apart
  obtain ⟨c, r, rfl, here⟩ := solid
  simp only [isAllBlank, List.all_cons, Bool.and_eq_true] at blank
  have clear : ∀ c ∈ modifier, isBlank c = false := fun c hc =>
    isBlank_of_isWordChar (isWordChar_of_mem_words (by decide) word c hc)
  have dropped : afterModifier? (modifier ++ (g :: (gap ++ c :: r))) = some (c :: r) := by
    rw [afterModifier?, splitFirst_append_cons clear blank.1]
    simp only [word, trimStart_append_cons blank.2 here, if_true]
  rw [List.cons_append, withoutModifiers, dropped]

/-- What begins with a mark has no name in the place where a declaration has one. -/
lemma typed?_apart_eq_none (clear : ∀ c ∈ w, isBlank c = false) (blank : isAllBlank gap = true)
    (apart : gap ≠ []) (mark : isMark d = true) :
    typed? language (w ++ (gap ++ d :: r)) = none := by
  obtain ⟨g, gap, rfl⟩ := List.exists_cons_of_ne_nil apart
  simp only [isAllBlank, List.all_cons, Bool.and_eq_true] at blank
  have solid := isBlank_of_isMark mark
  have other := isWordChar_of_isMark mark
  have begun : trim (gap ++ d :: r) <+: d :: r := by
    rw [trim, trimStart_append_cons blank.2 solid]
    exact trimEnd_isPrefix _
  rw [typed?, List.cons_append, splitFirst_append_cons clear blank.1]
  simp only
  split
  · split
    · rename_i name init sides
      have nameless : isIdentifier name.trim = false := by
        have left : name <+: d :: r := by
          refine List.IsPrefix.trans ?_ begun
          rw [← append_of_splitAssignmentFrom sides]
          exact List.prefix_append name _
        rcases List.prefix_cons_iff.1 left with rfl | ⟨rest, rfl, -⟩
        · rfl
        · exact isIdentifier_eq_false (mem_trim List.mem_cons_self solid) other
      rw [nameless]
      rfl
    · have nameless : isIdentifier (trim (gap ++ d :: r)) = false :=
        isIdentifier_eq_false (mem_trim (by simp) solid) other
      rw [nameless]
      rfl
  · rfl

/-- **A word before a mark begins no declaration**, even if the word is a type or a modifier and
blanks set it apart from the mark. -/
theorem declaration?_eq_none (word : ∀ c ∈ w, isWordChar c = true) (blank : isAllBlank gap = true)
    (mark : isMark d = true) : declaration? language (w ++ (gap ++ d :: r)) = none := by
  have clear : ∀ c ∈ w, isBlank c = false := fun c hc => isBlank_of_isWordChar (word c hc)
  -- The mark is in the first word, or it begins what a modifier leaves, or it stands where a
  -- declaration has its name.
  by_cases apart : gap = []
  · rw [apart, List.nil_append, declaration?,
      withoutModifiers_eq (afterModifier?_eq_none clear mark)]
    exact typed?_eq_none clear mark
  · by_cases modifier : modifiers.contains w = true
    · have unmodified : afterModifier? (d :: r) = none :=
        afterModifier?_eq_none (w := []) (by simp) mark
      obtain ⟨n, long⟩ := Nat.exists_eq_succ_of_ne_zero
        (n := (w ++ (gap ++ d :: r)).length) (by simp)
      rw [declaration?, long,
        withoutModifiers_modifier modifier blank apart ⟨d, r, rfl, isBlank_of_isMark mark⟩,
        withoutModifiers_eq unmodified]
      exact typed?_eq_none (w := []) (by simp) mark
    · have kept : afterModifier? (w ++ (gap ++ d :: r)) = none := by
        obtain ⟨g, gap, rfl⟩ := List.exists_cons_of_ne_nil apart
        simp only [isAllBlank, List.all_cons, Bool.and_eq_true] at blank
        rw [afterModifier?, List.cons_append, splitFirst_append_cons clear blank.1]
        exact if_neg modifier
      rw [declaration?, withoutModifiers_eq kept]
      exact typed?_apart_eq_none clear blank apart mark

/-- So it is with the mark right behind the word. -/
lemma declaration?_adjacent_eq_none (word : ∀ c ∈ w, isWordChar c = true) (mark : isMark d = true)
    (r : Text) : declaration? language (w ++ d :: r) = none :=
  declaration?_eq_none word (show isAllBlank [] = true from rfl) mark

end Declined

/-- **The types of a language**, with any number of brackets behind them in Java. -/
inductive TypeTag : Language → Text → Prop
  | named {tag : Text} (listed : javaTypes.contains tag = true) : TypeTag .java tag
  | array {tag : Text} (element : TypeTag .java tag) : TypeTag .java (tag ++ "[]")
  | declarator {tag : Text} (listed : scriptDeclarators.contains tag = true) :
      TypeTag .javaScript tag

namespace TypeTag

variable {language : Language} {tag : Text}

lemma isTypeTag_eq_true (h : TypeTag language tag) : isTypeTag language tag = true := by
  induction h with
  | named listed =>
      have all : javaTypes.all (isTypeTag .java) = true := by decide
      exact List.all_eq_true.1 all _ (List.contains_iff_mem.1 listed)
  | @array tag _ ih =>
      rw [isTypeTag, withoutBrackets_array]
      exact ih
  | declarator listed => exact listed

lemma not_modifier (h : TypeTag language tag) : modifiers.contains tag = false := by
  have all : modifiers.all (fun word => !isTypeTag language word) = true := by
    cases language with
    | java => decide
    | python => decide
    | javaScript => decide
  cases modifier : modifiers.contains tag with
  | false => rfl
  | true =>
      have other := List.all_eq_true.1 all tag (List.contains_iff_mem.1 modifier)
      rw [h.isTypeTag_eq_true] at other
      cases other

lemma clear (h : TypeTag language tag) : ∀ c ∈ tag, isBlank c = false := by
  intro c hc
  rcases typeChar_of_isTypeTag h.isTypeTag_eq_true c hc with word | rfl | rfl
  · exact isBlank_of_isWordChar word
  · decide
  · decide

/-- A type begins as a word does. -/
lemma first (h : TypeTag language tag) : ∃ c r, tag = c :: r ∧ isWordChar c = true := by
  have begun : ∀ {words : List Text},
      words.all (fun word => word.head?.any isWordChar) = true → ∀ {tag : Text},
      words.contains tag = true → ∃ c r, tag = c :: r ∧ isWordChar c = true := by
    intro words all tag listed
    have word := List.all_eq_true.1 all tag (List.contains_iff_mem.1 listed)
    cases tag with
    | nil => cases word
    | cons c r => exact ⟨c, r, rfl, word⟩
  induction h with
  | named listed => exact begun (by decide) listed
  | array _ ih =>
      obtain ⟨c, r, rfl, word⟩ := ih
      exact ⟨c, r ++ "[]", rfl, word⟩
  | declarator listed => exact begun (by decide) listed

end TypeTag

/-- **What stands to the right of an assignment sign**: nothing, or a text behind blanks.  Right
behind the sign the text may not begin with a second one, which would make it a comparison. -/
inductive Value : Text → Text → Prop
  | missing : Value [] []
  | given {gap e : Text} (blank : isAllBlank gap = true) (solid : Solid e)
      (apart : (gap ++ e).head? ≠ some '=') : Value (gap ++ e) e

namespace Value

variable {right e : Text}

lemma head?_ne (h : Value right e) : right.head? ≠ some '=' := by
  cases h with
  | missing => simp
  | given _ _ apart => exact apart

lemma trim_eq (h : Value right e) : right.trim = e := by
  cases h with
  | missing => rfl
  | given blank solid _ => exact solid.trim_append_left blank

lemma solid (h : Value right e) : Solid ('=' :: right) := by
  have sign : Solid ['='] := .singleton (by decide)
  cases h with
  | missing => exact sign
  | given _ solid _ => exact sign.append solid _

end Value

/-- **Declarations as they are written**: a type and a name, with or without a value, and any
number of modifiers in front. -/
inductive Declared (language : Language) : Text → Statement → Prop
  | value {tag gap name before right init : Text} (type : TypeTag language tag)
      (blank : isAllBlank gap = true) (apart : gap ≠ []) (named : isIdentifier name = true)
      (blankBefore : isAllBlank before = true) (value : Value right init) :
      Declared language (tag ++ (gap ++ (name ++ (before ++ '=' :: right))))
        (.declare tag name init)
  | bare {tag gap name : Text} (type : TypeTag language tag) (blank : isAllBlank gap = true)
      (apart : gap ≠ []) (named : isIdentifier name = true) :
      Declared language (tag ++ (gap ++ name)) (.declareDefault tag name)
  | modified {modifier gap body : Text} {st : Statement}
      (listed : modifiers.contains modifier = true) (blank : isAllBlank gap = true)
      (apart : gap ≠ []) (declared : Declared language body st) :
      Declared language (modifier ++ (gap ++ body)) st

namespace Declared

variable {language : Language} {body : Text} {st : Statement}

lemma first_of_modifier {modifier : Text} (h : modifiers.contains modifier = true) :
    ∃ c r, modifier = c :: r ∧ isWordChar c = true := by
  have word := isWordChar_of_mem_words (by decide) h
  cases modifier with
  | nil => exact absurd h (by decide)
  | cons c r => exact ⟨c, r, rfl, word c List.mem_cons_self⟩

lemma first (h : Declared language body st) : ∃ c r, body = c :: r ∧ isWordChar c = true := by
  cases h with
  | value type _ _ _ _ _ =>
      obtain ⟨c, r, rfl, word⟩ := type.first
      exact ⟨c, _, rfl, word⟩
  | bare type _ _ _ =>
      obtain ⟨c, r, rfl, word⟩ := type.first
      exact ⟨c, _, rfl, word⟩
  | modified listed _ _ _ =>
      obtain ⟨c, r, rfl, word⟩ := first_of_modifier listed
      exact ⟨c, _, rfl, word⟩

lemma solid (h : Declared language body st) : Solid body := by
  have padded : ∀ {w gap r : Text}, (∃ c r, w = c :: r ∧ isWordChar c = true) → Solid r →
      Solid (w ++ (gap ++ r)) := by
    rintro w gap r ⟨c, w, rfl, word⟩ solid
    have first : Solid [c] := .singleton (isBlank_of_isWordChar word)
    simpa using first.append solid (w ++ gap)
  induction h with
  | value type _ _ named _ value =>
      exact padded type.first ((solid_of_isIdentifier named).append value.solid _)
  | bare type _ _ named => exact padded type.first (solid_of_isIdentifier named)
  | modified listed _ _ _ ih => exact padded (first_of_modifier listed) ih

end Declared

/-- A name with blanks behind it holds no quote and no sign. -/
lemma isInert_of_named {name blanks : Text} (named : isIdentifier name = true)
    (blank : isAllBlank blanks = true) : ∀ c ∈ name ++ blanks, isInert c = true := by
  intro c hc
  rcases List.mem_append.1 hc with inName | inBlanks
  · exact isInert_of_isWordChar (isWordChar_of_isIdentifier named c inName)
  · exact isInert_of_isBlank (List.all_eq_true.1 blank c inBlanks)

section Typed

variable {language : Language} {tag gap : Text}

/-- The first word of a declaration is its type, if no modifier stands before it. -/
lemma splitFirst_type (type : TypeTag language tag) (blank : isAllBlank gap = true)
    (apart : gap ≠ []) {rest : Text} (solid : Solid rest) :
    ∃ rest', (tag ++ (gap ++ rest)).splitFirst isBlank = some (tag, rest') ∧
      rest'.trim = rest := by
  obtain ⟨g, gap, rfl⟩ := List.exists_cons_of_ne_nil apart
  simp only [isAllBlank, List.all_cons, Bool.and_eq_true] at blank
  exact ⟨gap ++ rest, splitFirst_append_cons type.clear blank.1 _, solid.trim_append_left blank.2⟩

lemma afterModifier?_type (type : TypeTag language tag) (blank : isAllBlank gap = true)
    (apart : gap ≠ []) {rest : Text} (solid : Solid rest) :
    afterModifier? (tag ++ (gap ++ rest)) = none := by
  obtain ⟨rest', first, -⟩ := splitFirst_type type blank apart solid
  simp only [afterModifier?, first, type.not_modifier]
  rfl

lemma typed?_value (type : TypeTag language tag) (blank : isAllBlank gap = true) (apart : gap ≠ [])
    {name before right init : Text} (named : isIdentifier name = true)
    (blankBefore : isAllBlank before = true) (value : Value right init) :
    typed? language (tag ++ (gap ++ (name ++ (before ++ '=' :: right)))) =
      some (.declare tag name init) := by
  have solid := solid_of_isIdentifier named
  have sides : splitAssignment (name ++ (before ++ '=' :: right)) =
      some (name ++ before, right) := by
    rw [← List.append_assoc]
    exact splitAssignment_append (isInert_of_named named blankBefore) value.head?_ne
  obtain ⟨rest', first, trimmed⟩ :=
    splitFirst_type type blank apart (solid.append value.solid before)
  simp only [typed?, first, type.isTypeTag_eq_true, trimmed, sides,
    solid.trim_append_right blankBefore, named, value.trim_eq, if_true]

lemma typed?_bare (type : TypeTag language tag) (blank : isAllBlank gap = true) (apart : gap ≠ [])
    {name : Text} (named : isIdentifier name = true) :
    typed? language (tag ++ (gap ++ name)) = some (.declareDefault tag name) := by
  have nothing : splitAssignment name = none := splitAssignment_eq_none fun c hc =>
    isInert_of_isWordChar (isWordChar_of_isIdentifier named c hc)
  obtain ⟨rest', first, trimmed⟩ :=
    splitFirst_type type blank apart (solid_of_isIdentifier named)
  simp only [typed?, first, type.isTypeTag_eq_true, trimmed, nothing, named, if_true]

end Typed

lemma typed?_declared {language : Language} {body : Text} {st : Statement}
    (h : Declared language body st) {fuel : Nat} (enough : body.length ≤ fuel) :
    typed? language (withoutModifiers fuel body) = some st := by
  -- Each modifier takes one unit of fuel and at least one character.
  induction h generalizing fuel with
  | @value tag gap name before right init type blank apart named blankBefore value =>
      have solid := (solid_of_isIdentifier named).append value.solid before
      rw [withoutModifiers_eq (afterModifier?_type type blank apart solid)]
      exact typed?_value type blank apart named blankBefore value
  | @bare tag gap name type blank apart named =>
      have solid := solid_of_isIdentifier named
      rw [withoutModifiers_eq (afterModifier?_type type blank apart solid)]
      exact typed?_bare type blank apart named
  | @modified modifier gap body st listed blank apart declared ih =>
      have begun : ∃ c r, body = c :: r ∧ isBlank c = false := by
        obtain ⟨c, r, same, word⟩ := declared.first
        exact ⟨c, r, same, isBlank_of_isWordChar word⟩
      have shorter : body.length < fuel := by
        have long := List.length_pos_of_ne_nil apart
        simp only [List.length_append] at enough
        omega
      obtain ⟨n, rfl⟩ := Nat.exists_eq_succ_of_ne_zero (Nat.ne_of_gt (Nat.zero_lt_of_lt shorter))
      rw [withoutModifiers_modifier listed blank apart begun]
      exact ih (Nat.le_of_lt_succ shorter)

/-- **A declaration is read back.** -/
theorem declaration?_declared {language : Language} {body : Text} {st : Statement}
    (h : Declared language body st) : declaration? language body = some st :=
  typed?_declared h (Nat.le_refl _)

end SnippetLab.Statement

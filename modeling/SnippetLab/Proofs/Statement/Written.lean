import SnippetLab.Proofs.Statement.Shapes

/-!
# Statements are read as they are written

What a statement is written as depends on no other shape; what a line is read as depends on all of
them, since the first that fits decides.  This file puts the two side by side.

* `Written` — the texts of statements, one constructor for each way to write one.
* `LineOf` — the lines that hold such a text: with blanks around it, and with its terminator, which
  only Java demands.
* `classify_written` — **a line is read as the statement that was written**, and a print call around
  any balanced text is read as one that prints.
-/

namespace SnippetLab

open Source Text

namespace Statement

/-! ## Texts of statements -/

/-- **The texts of statements.** -/
inductive Written (language : Language) : Text → Statement → Prop
  /-- A type, a name and perhaps a value, behind any number of modifiers. -/
  | declaration {body : Text} {st : Statement} (declared : Declared language body st) :
      Written language body st
  /-- A name, one of the signs `=`, `+=` and `-=`, and a value. -/
  | assignment {name before right e : Text} (op : Option Sign) (named : isIdentifier name = true)
      (free : isKeyword name = false) (blank : isAllBlank before = true) (value : Value right e) :
      Written language (name ++ (before ++ (operator op ++ '=' :: right))) (.assign name op e)
  /-- A name and a doubled sign. -/
  | stepAfter {name : Text} (sign : Sign) (named : isIdentifier name = true) :
      Written language (name ++ [sign.char, sign.char]) (.step name sign)
  /-- A doubled sign and a name. -/
  | stepBefore {name : Text} (sign : Sign) (named : isIdentifier name = true) :
      Written language (sign.char :: sign.char :: name) (.step name sign)
  /-- One of the language's print calls around its arguments. -/
  | print {opening inner : Text} {newline : Bool} {args : List Text}
      (call : (opening, newline) ∈ printCalls language)
      (balanced : parenBalance language inner = 0) (arguments : Arguments language inner args) :
      Written language (opening ++ (inner ++ ")")) (.print args newline)
  /-- The bare word that leaves a method. -/
  | leave : Written language "return" .leave
  /-- A call of a method; the name `print` means printing in Python. -/
  | call {m a : Text} (named : isIdentifier m = true) (free : isKeyword m = false)
      (other : language = .python → m ≠ "print")
      (balanced : parenBalance language (m ++ '(' :: (a ++ ")")) = 0) :
      Written language (m ++ '(' :: (a ++ ")")) (.call m)

/-- **The lines that hold a text**, with any blanks around it and before its terminator.  Where a
language can do without the terminator, a text that does not end with one may stand alone. -/
inductive LineOf (language : Language) (body : Text) : Text → Prop
  | terminated {left gap right : Text} (blankLeft : isAllBlank left = true)
      (blankGap : isAllBlank gap = true) (blankRight : isAllBlank right = true) :
      LineOf language body (left ++ (body ++ (gap ++ ';' :: right)))
  | unterminated {left right : Text} (free : language.needsSemicolon = false)
      (last : body.getLast? ≠ some ';') (blankLeft : isAllBlank left = true)
      (blankRight : isAllBlank right = true) : LineOf language body (left ++ (body ++ right))

/-! ## The first shape that fits -/

/-- The first shape that fits a text, comments aside. -/
def shape? (language : Language) (body : Text) : Option Statement :=
  declaration? language body <|> assignment? body <|> step? body <|> print? language body <|>
    leave? body <|> call? language body

/-- A print call is read as one, whatever balanced text it stands around. -/
lemma shape?_print {language : Language} {opening inner : Text} {newline : Bool}
    (call : (opening, newline) ∈ printCalls language)
    (balanced : parenBalance language inner = 0) :
    shape? language (opening ++ (inner ++ ")")) =
      some (.print (printArgs language inner.trim) newline) := by
  have noDeclaration : declaration? language (opening ++ (inner ++ ")")) = none := by
    obtain ⟨w, d, s, rfl, word, mark, -⟩ := word_of_mem_printCalls call
    rw [List.append_assoc]
    exact declaration?_adjacent_eq_none (isWordChar_of_isIdentifier word) mark _
  have noAssignment : assignment? (opening ++ (inner ++ ")")) = none := by
    obtain ⟨w, rfl, inert⟩ := inert_of_mem_printCalls call
    rw [List.append_assoc]
    exact assignment?_eq_none inert _
  have noStep : step? (opening ++ (inner ++ ")")) = none := by
    obtain ⟨w, d, s, rfl, word, -, -⟩ := word_of_mem_printCalls call
    obtain ⟨c, w, rfl, -⟩ := (solid_of_isIdentifier word).first
    rw [← List.append_assoc]
    exact step?_eq_none (isWordChar_of_isIdentifier word c List.mem_cons_self) _
  rw [shape?, noDeclaration, noAssignment, noStep, print?_written call balanced]
  rfl

/-- **The first shape that fits the text of a statement is its own.** -/
theorem shape?_written {language : Language} {body : Text} {st : Statement}
    (h : Written language body st) : shape? language body = some st := by
  have wordChars {name : Text} (named : isIdentifier name = true) :
      ∀ c ∈ name, isWordChar c = true := isWordChar_of_isIdentifier named
  have inertName {name : Text} (named : isIdentifier name = true) : ∀ c ∈ name, isInert c = true :=
    fun c hc => isInert_of_isWordChar (wordChars named c hc)
  -- One case for each way to write a statement: the shapes before its own decline it.
  cases h with
  | declaration declared =>
      rw [shape?, declaration?_declared declared]
      rfl
  | @assignment name before right e op named free blank value =>
      have noDeclaration :
          declaration? language (name ++ (before ++ (operator op ++ '=' :: right))) = none := by
        cases op with
        | none => exact declaration?_eq_none (wordChars named) blank (by decide)
        | some sign => exact declaration?_eq_none (wordChars named) blank (isMark_char sign)
      rw [shape?, noDeclaration, assignment?_written op named free blank value]
      rfl
  | @stepAfter name sign named =>
      have noDeclaration : declaration? language (name ++ [sign.char, sign.char]) = none :=
        declaration?_adjacent_eq_none (wordChars named) (isMark_char sign) _
      have noAssignment : assignment? (name ++ [sign.char, sign.char]) = none :=
        assignment?_eq_none_of_inert (List.forall_mem_append.2
          ⟨inertName named, by simp [isInert_char]⟩)
      rw [shape?, noDeclaration, noAssignment, step?_after named]
      rfl
  | @stepBefore name sign named =>
      have noDeclaration : declaration? language (sign.char :: sign.char :: name) = none :=
        declaration?_adjacent_eq_none (w := []) (by simp) (isMark_char sign) _
      have noAssignment : assignment? (sign.char :: sign.char :: name) = none :=
        assignment?_eq_none_of_inert (List.forall_mem_cons.2
          ⟨isInert_char sign, List.forall_mem_cons.2 ⟨isInert_char sign, inertName named⟩⟩)
      rw [shape?, noDeclaration, noAssignment, step?_before named]
      rfl
  | print call balanced arguments =>
      rw [shape?_print call balanced, printArgs_arguments arguments]
  | leave =>
      cases language with
      | java => decide
      | python => decide
      | javaScript => decide
  | @call m a named free other balanced =>
      have noDeclaration : declaration? language (m ++ '(' :: (a ++ ")")) = none :=
        declaration?_adjacent_eq_none (wordChars named) (by decide) _
      have noStep : step? (m ++ '(' :: (a ++ ")")) = none := by
        obtain ⟨c, r, rfl, -⟩ := (solid_of_isIdentifier named).first
        have none := step?_eq_none (wordChars named c List.mem_cons_self) (r ++ '(' :: a)
        rwa [List.append_assoc] at none
      rw [shape?, noDeclaration, assignment?_eq_none (inertName named), noStep,
        print?_eq_none named other, leave?_eq_none named free, call?_written named free balanced]
      rfl

/-! ## From the line to the text -/

/-- What the text of a statement begins with: a character of a word, or a sign. -/
def isLeading (c : Char) : Bool := isWordChar c || c == '+' || c == '-'

lemma isLeading_of_isWordChar {c : Char} (h : isWordChar c = true) : isLeading c = true := by
  simp [isLeading, h]

/-- A text with no blank at either end that begins as the text of a statement does. -/
structure Presents (body : Text) : Prop where
  solid : Solid body
  leading : ∃ c r, body = c :: r ∧ isLeading c = true

/-- A name and a solid end, with anything between them. -/
lemma Presents.of_name {name last : Text} (named : isIdentifier name = true) (solid : Solid last)
    (middle : Text) : Presents (name ++ (middle ++ last)) := by
  have solidName := solid_of_isIdentifier named
  refine ⟨solidName.append solid middle, ?_⟩
  obtain ⟨c, r, rfl, -⟩ := solidName.first
  have word := isWordChar_of_isIdentifier named c List.mem_cons_self
  exact ⟨c, _, rfl, isLeading_of_isWordChar word⟩

lemma presents_print {language : Language} {opening inner : Text} {newline : Bool}
    (call : (opening, newline) ∈ printCalls language) : Presents (opening ++ (inner ++ ")")) := by
  obtain ⟨w, d, s, rfl, word, -, -⟩ := word_of_mem_printCalls call
  have presents := Presents.of_name word (.singleton (c := ')') (by decide)) (d :: s ++ inner)
  rw [List.append_assoc] at presents
  rw [List.append_assoc]
  exact presents

lemma presents_written {language : Language} {body : Text} {st : Statement}
    (h : Written language body st) : Presents body := by
  have solidSign (sign : Sign) : Solid [sign.char] :=
    .singleton (isBlank_of_isMark (isMark_char sign))
  cases h with
  | declaration declared =>
      obtain ⟨c, r, same, word⟩ := declared.first
      exact ⟨declared.solid, c, r, same, isLeading_of_isWordChar word⟩
  | @assignment name before right e op named free blank value =>
      have presents := Presents.of_name named value.solid (before ++ operator op)
      rwa [List.append_assoc] at presents
  | stepAfter sign named => exact .of_name named (solidSign sign) [sign.char]
  | @stepBefore name sign named =>
      refine ⟨(solidSign sign).append (solid_of_isIdentifier named) [sign.char], _, _, rfl, ?_⟩
      cases sign with
      | plus => decide
      | minus => decide
  | print call _ _ => exact presents_print call
  | leave =>
      have word : isIdentifier "return" = true := by decide
      exact ⟨solid_of_isIdentifier word, 'r', "eturn", rfl, by decide⟩
  | @call m a named free other balanced =>
      exact .of_name named (.singleton (by decide)) ('(' :: a)

/-- A text that begins so is neither blank nor a comment. -/
lemma idle?_eq_none {language : Language} {line r : Text} {c : Char} (begins : line.trim = c :: r)
    (leading : isLeading c = true) : idle? language line = none := by
  have marks : (if language.usesBraces then ["//", "/*", "*"] else ["#"] : List Text).all
      (fun mark => mark.head?.any fun d => !isLeading d) = true := by
    cases language with
    | java => decide
    | python => decide
    | javaScript => decide
  have unmarked : (if language.usesBraces then ["//", "/*", "*"] else ["#"] : List Text).any
      (startsWith (c :: r) ·) = false := by
    rw [List.any_eq_false]
    intro mark mem begun
    have other := List.all_eq_true.1 marks mark mem
    cases mark with
    | nil => cases other
    | cons d p =>
        rw [(List.cons_prefix_cons.1 (startsWith_iff.1 begun)).1] at other
        simp [leading] at other
  simp only [idle?, begins, unmarked]
  rfl

namespace LineOf

variable {language : Language} {body line : Text}

/-- The text is what a line begins with and what is left of it without its terminator. -/
lemma body?_eq (h : LineOf language body line) (solid : Solid body) :
    body <+: line.trim ∧ body? language line = some body := by
  cases h with
  | @terminated left gap right blankLeft blankGap blankRight =>
      have terminator : Solid [';'] := .singleton (by decide)
      have trimmed : trim (left ++ (body ++ (gap ++ ';' :: right))) = (body ++ gap) ++ ";" := by
        have padded := (solid.append terminator gap).trim_padded blankLeft blankRight
        simpa using padded
      have cut : dropEnd? ((body ++ gap) ++ ";") ";" = some (body ++ gap) :=
        dropEnd?_eq_some.2 rfl
      rw [body?, trimmed, cut, List.append_assoc]
      simp only [solid.trimEnd_append blankGap]
      exact ⟨List.prefix_append body _, trivial⟩
  | @unterminated left right free last blankLeft blankRight =>
      have uncut : dropEnd? body ";" = none := by
        cases found : dropEnd? body ";" with
        | none => rfl
        | some rest =>
            refine absurd ?_ last
            rw [← dropEnd?_eq_some.1 found]
            exact List.getLast?_concat
      rw [body?, solid.trim_padded blankLeft blankRight, uncut, free]
      exact ⟨List.prefix_refl body, rfl⟩

/-- **What a line is read as** depends only on the text it holds. -/
theorem classify_eq (h : LineOf language body line) (presents : Presents body) :
    classify language line = (shape? language body).getD .unrecognized := by
  obtain ⟨⟨rest, begins⟩, text⟩ := h.body?_eq presents.solid
  obtain ⟨c, r, rfl, leads⟩ := presents.leading
  rw [classify, idle?_eq_none begins.symm leads, text]
  rfl

end LineOf

/-! ## Lines of statements -/

/-- **A line is read as the statement that was written on it.**  Whatever else its name, its value
and its arguments could be read as, no shape that is tried before its own fits it.  A print call
around any balanced text prints. -/
theorem classify_written {language : Language} {body line : Text}
    (h : LineOf language body line) :
    (∀ st, Written language body st → classify language line = st) ∧
      ∀ opening newline inner, (opening, newline) ∈ printCalls language →
        parenBalance language inner = 0 → body = opening ++ (inner ++ ")") →
        ∃ args, classify language line = .print args newline := by
  constructor
  · intro st written
    rw [h.classify_eq (presents_written written), shape?_written written]
    rfl
  · rintro opening newline inner call balanced rfl
    refine ⟨printArgs language inner.trim, ?_⟩
    rw [h.classify_eq (presents_print call), shape?_print call balanced]
    rfl

/-- A modifier before the type and two pairs of brackets behind it, a comparison and a literal with
the sign and the terminator behind the sign; and among arguments three commas, one of which sets
them apart.  An unfinished argument is no hindrance for a print call. -/
theorem classify_written_nested :
    classify .java "\tfinal  int[][] t = a <= \"=;\" ; " = .declare "int[][]" "t" "a <= \"=;\"" ∧
      classify .javaScript " console.log(\"a,b\", f(x, y));" =
        .print ["\"a,b\"", "f(x, y)"] true ∧
      ∃ args, classify .python "print(a = [)" = .print args true := by
  refine ⟨?_, ?_, ?_⟩
  · have type : TypeTag .java "int[][]" :=
      @TypeTag.array "int[]" (@TypeTag.array "int" (.named (by decide)))
    have solid : Solid "a <= \"=;\"" :=
      ⟨⟨'a', _, rfl, by decide⟩, ⟨"a <= \"=;", '"', rfl, by decide⟩⟩
    have value : Value " a <= \"=;\"" "a <= \"=;\"" := @Value.given " " _ rfl solid (by decide)
    have typed : Declared .java "int[][] t = a <= \"=;\"" _ :=
      @Declared.value .java _ " " "t" " " _ _ type rfl (by decide) (by decide +kernel) rfl value
    have final : Declared .java "final  int[][] t = a <= \"=;\"" _ :=
      @Declared.modified .java "final" "  " _ _ (by decide) rfl (by decide) typed
    have line : LineOf .java "final  int[][] t = a <= \"=;\""
        "\tfinal  int[][] t = a <= \"=;\" ; " :=
      @LineOf.terminated .java _ "\t" " " " " rfl rfl rfl
    exact (classify_written line).1 _ (.declaration final)
  · have solid : ∀ a ∈ (["\"a,b\"", "f(x, y)"] : List Text), Solid a := by
      simp only [List.mem_cons, List.not_mem_nil, or_false]
      rintro a (rfl | rfl)
      · exact ⟨⟨'"', _, rfl, by decide⟩, ⟨"\"a,b", '"', rfl, by decide⟩⟩
      · exact ⟨⟨'f', _, rfl, by decide⟩, ⟨"f(x, y", ')', rfl, by decide⟩⟩
    have listed : Arguments .javaScript "\"a,b\", f(x, y)" ["\"a,b\"", "f(x, y)"] :=
      @Arguments.listed .javaScript ["\"a,b\"", "f(x, y)"] [] " " [] (by decide) (by decide) solid
        (by decide) rfl rfl rfl
    have printed : Written .javaScript "console.log(\"a,b\", f(x, y))" _ :=
      @Written.print .javaScript "console.log(" _ true _ (by decide) (by decide) listed
    have line : LineOf .javaScript "console.log(\"a,b\", f(x, y))"
        " console.log(\"a,b\", f(x, y));" :=
      @LineOf.terminated .javaScript _ " " [] [] rfl rfl rfl
    exact (classify_written line).1 _ printed
  · have line : LineOf .python "print(a = [)" "print(a = [)" :=
      @LineOf.unterminated .python _ [] [] rfl (by decide) rfl rfl
    exact (classify_written line).2 "print(" true "a = [" (by decide) (by decide) rfl

end Statement

end SnippetLab

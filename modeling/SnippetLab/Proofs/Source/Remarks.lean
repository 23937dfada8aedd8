import SnippetLab.Proofs.Source.Places
import SnippetLab.Proofs.Source.Rows
import SnippetLab.Proofs.Text.Parts

/-!
# What is a comment, for the scanner and for the classifier

The scanner that strips lines carries an open block comment from line to line; the classifier looks
at one line and only at how it begins.  **In a language with block comments they disagree**: the
classifier runs what stands inside a comment over several lines, and passes over the code behind a
comment that a line begins with.

* `Bare` — a line that holds nothing but blanks and comments, begun inside a block comment or
  outside.
* `isAllBlank_outline_iff` — the scanner leaves nothing but blanks of exactly these lines.
* `isIdle_classify_iff` — the classifier passes over exactly the lines that begin as a comment does.
* `comments_seen_alike_iff` — the lines on which they agree.
-/

namespace SnippetLab

open Text

namespace Source

/-! ## Lines without code -/

/-- **A line that holds nothing but blanks and comments**; `opened` tells whether it begins inside a
block comment. -/
inductive Bare (language : Language) : (opened : Bool) → Text → Prop where
  | nil : Bare language false []
  | blank {c : Char} {r : Text} (blank : isBlank c = true) (rest : Bare language false r) :
      Bare language false (c :: r)
  /-- A hash sign begins a comment that ends with the line. -/
  | hash (hashes : language.usesBraces = false) (r : Text) : Bare language false ('#' :: r)
  /-- Two slashes do. -/
  | slashes (braces : language.usesBraces = true) (r : Text) : Bare language false ('/' :: '/' :: r)
  /-- A block comment begins. -/
  | begins (braces : language.usesBraces = true) {r : Text} (rest : Bare language true r) :
      Bare language false ('/' :: '*' :: r)
  /-- A block comment ends on the line. -/
  | ends {remark r : Text} (first : ¬['*', '/'] <:+: remark) (rest : Bare language false r) :
      Bare language true (remark ++ '*' :: '/' :: r)
  /-- A block comment goes on behind the line. -/
  | stays {remark : Text} (never : ¬['*', '/'] <:+: remark) : Bare language true remark

/-- What the scanner leaves of a line that it reads from a position on. -/
def outline (language : Language) (p : Position) (t : Text) : Text :=
  (scan (.of language) p t).1.filterMap Lexeme.outline

section Outline

variable {language : Language}

lemma outline_blank {c : Char} (blank : isBlank c = true) (r : Text) :
    outline language .code (c :: r) = c :: outline language .code r := by
  have other := of_isBlank (p := fun c => !isQuote c && c != '/' && c != '#') (by decide)
    blank
  simp only [Bool.and_eq_true, Bool.not_eq_true', bne_iff_ne] at other
  obtain ⟨⟨quote, slash⟩, hash⟩ := other
  have scanned : scan (.of language) .code (c :: r) =
      emit (.code c) (scan (.of language) .code r) := by
    rw [scan]
    · simp [quote, hash]
    · exact fun r' same => absurd same slash
    · exact fun r' same => absurd same slash
  rw [outline, scanned]
  rfl

/-- Does a character of code open a comment of the language, given the text after it? -/
def Opens (language : Language) (c : Char) (r : Text) : Prop :=
  if language.usesBraces then c = '/' ∧ (r.head? = some '/' ∨ r.head? = some '*') else c = '#'

/-- **A character that opens no comment is left**, be it code or a quote. -/
lemma outline_of_not_opens {c : Char} {r : Text} (none : ¬Opens language c r) :
    ∃ rest, outline language .code (c :: r) = c :: rest := by
  unfold Opens at none
  by_cases quote : isQuote c = true
  · refine ⟨outline language (.literal c) r, ?_⟩
    have slash : c ≠ '/' := by
      rintro rfl
      exact absurd quote (by decide)
    rw [outline, scan, if_pos quote]
    · rfl
    · exact fun r' same => absurd same slash
    · exact fun r' same => absurd same slash
  · by_cases braces : language.usesBraces = true
    · rw [if_pos braces, not_and_or, not_or] at none
      refine ⟨outline language .code r, ?_⟩
      rw [outline, scan, if_neg quote]
      · simp [CommentStyle.of, braces, emit, Lexeme.outline, outline]
      · rintro r' rfl rfl
        simp at none
      · rintro r' rfl rfl
        simp at none
    · rw [if_neg braces] at none
      rw [Bool.not_eq_true] at braces
      by_cases slash : c = '/' ∧ (r.head? = some '/' ∨ r.head? = some '*')
      · obtain ⟨rfl, next | next⟩ := slash
        · obtain ⟨r', rfl⟩ := List.head?_eq_some_iff.1 next
          exact ⟨'/' :: outline language .code r',
            by simp [outline, scan, CommentStyle.of, braces, emit, Lexeme.outline]⟩
        · obtain ⟨r', rfl⟩ := List.head?_eq_some_iff.1 next
          exact ⟨'*' :: outline language .code r',
            by simp [outline, scan, CommentStyle.of, braces, emit, Lexeme.outline]⟩
      · refine ⟨outline language .code r, ?_⟩
        rw [outline, scan, if_neg quote, if_neg (by simp [none])]
        · rfl
        · rintro r' rfl rfl
          simp at slash
        · rintro r' rfl rfl
          simp at slash

lemma outline_hash (hashes : language.usesBraces = false) (r : Text) :
    outline language .code ('#' :: r) = [] := by
  simp [outline, scan, CommentStyle.of, hashes, isQuote]

lemma outline_slashes (braces : language.usesBraces = true) (r : Text) :
    outline language .code ('/' :: '/' :: r) = [] := by
  simp [outline, scan, CommentStyle.of, braces]

lemma outline_begins (braces : language.usesBraces = true) (r : Text) :
    outline language .code ('/' :: '*' :: r) = outline language .comment r := by
  simp [outline, scan, CommentStyle.of, braces]

/-- A character of a comment that does not close it leaves nothing. -/
lemma outline_comment {c : Char} {r : Text} (on : ¬['*', '/'] <+: c :: r) :
    outline language .comment (c :: r) = outline language .comment r := by
  rw [outline, outline, scan]
  rintro r' rfl rfl
  exact on ⟨r', rfl⟩

/-- A comment that is closed leaves a blank. -/
lemma outline_ends {remark : Text} (first : ¬['*', '/'] <:+: remark) (r : Text) :
    outline language .comment (remark ++ '*' :: '/' :: r) = ' ' :: outline language .code r := by
  induction remark with
  | nil => rfl
  | cons c rest ih =>
      rw [List.infix_cons_iff, not_or] at first
      rw [List.cons_append, outline_comment, ih first.2]
      rintro ⟨r', same⟩
      -- the piece would have to begin in the remark and to end behind it
      cases rest with
      | nil => simp at same
      | cons d rest =>
          simp only [List.cons_append, List.nil_append, List.cons.injEq] at same
          obtain ⟨rfl, rfl, -⟩ := same
          exact first.1 ⟨rest, rfl⟩

/-- A comment that is not closed leaves nothing. -/
lemma outline_stays {remark : Text} (never : ¬['*', '/'] <:+: remark) :
    outline language .comment remark = [] := by
  induction remark with
  | nil => rfl
  | cons c rest ih =>
      rw [List.infix_cons_iff, not_or] at never
      rw [outline_comment never.1, ih never.2]

end Outline

/-- The position in which the scanner begins a line. -/
def Position.atLine (opened : Bool) : Position := if opened then .comment else .code

lemma isAllBlank_cons {c : Char} {r : Text} :
    isAllBlank (c :: r) = true ↔ isBlank c = true ∧ isAllBlank r = true := by
  simp [isAllBlank]

/-- Of a line without code nothing but blanks is left. -/
lemma Bare.isAllBlank {language : Language} {opened : Bool} {t : Text}
    (h : Bare language opened t) : (outline language (.atLine opened) t).isAllBlank = true := by
  induction h with
  | nil => rfl
  | blank blank rest ih =>
      show (outline language .code _).isAllBlank = true
      rw [outline_blank blank, isAllBlank_cons]
      exact ⟨blank, ih⟩
  | hash hashes r =>
      show (outline language .code _).isAllBlank = true
      rw [outline_hash hashes]
      rfl
  | slashes braces r =>
      show (outline language .code _).isAllBlank = true
      rw [outline_slashes braces]
      rfl
  | begins braces rest ih =>
      show (outline language .code _).isAllBlank = true
      rw [outline_begins braces]
      exact ih
  | ends first rest ih =>
      show (outline language .comment _).isAllBlank = true
      rw [outline_ends first, isAllBlank_cons]
      exact ⟨by decide, ih⟩
  | stays never =>
      show (outline language .comment _).isAllBlank = true
      rw [outline_stays never]
      rfl

/-- A line of which nothing but blanks is left has no code. -/
lemma bare_of_isAllBlank {language : Language} {opened : Bool} {t : Text}
    (left : (outline language (.atLine opened) t).isAllBlank = true) :
    Bare language opened t := by
  induction length : t.length using Nat.strong_induction_on generalizing opened t with
  | h n ih =>
    subst length
    cases opened with
    | true =>
        by_cases closed : ['*', '/'] <:+: t
        · obtain ⟨⟨remark, r⟩, found⟩ := Option.isSome_iff_exists.1 (has_iff.2 closed)
          have first := not_isInfix_of_cut (List.cons_ne_nil _ _) found
          have whole : remark ++ '*' :: '/' :: r = t := append_of_cut found
          subst whole
          change (outline language .comment _).isAllBlank = true at left
          rw [outline_ends first, isAllBlank_cons] at left
          exact .ends first (ih r.length (by simp; omega) left.2 rfl)
        · exact .stays closed
    | false =>
        change (outline language .code t).isAllBlank = true at left
        cases t with
        | nil => exact .nil
        | cons c r =>
            by_cases blank : isBlank c = true
            · rw [outline_blank blank, isAllBlank_cons] at left
              exact .blank blank (ih r.length (by simp) left.2 rfl)
            · by_cases opens : Opens language c r
              · unfold Opens at opens
                by_cases braces : language.usesBraces = true
                · rw [if_pos braces] at opens
                  obtain ⟨rfl, next | next⟩ := opens
                  · obtain ⟨r', rfl⟩ := List.head?_eq_some_iff.1 next
                    exact .slashes braces r'
                  · obtain ⟨r', rfl⟩ := List.head?_eq_some_iff.1 next
                    rw [outline_begins braces] at left
                    exact .begins braces (ih r'.length (by simp +arith) left rfl)
                · rw [if_neg braces] at opens
                  subst opens
                  exact .hash (eq_false_of_ne_true braces) r
              · -- the character is left, and it is no blank
                obtain ⟨rest, same⟩ := outline_of_not_opens opens
                rw [same, isAllBlank_cons] at left
                exact absurd left.1 blank

/-- **The scanner leaves nothing but blanks of exactly the lines without code.** -/
theorem isAllBlank_outline_iff {language : Language} {opened : Bool} {t : Text} :
    (outline language (.atLine opened) t).isAllBlank = true ↔ Bare language opened t :=
  ⟨bare_of_isAllBlank, Bare.isAllBlank⟩

/-! ## The lines of a code -/

/-- **Is a block comment open where a line begins?** -/
def openBefore (language : Language) (lines : List Text) (k : Nat) : Bool :=
  (lines.take k).foldl (fun opened line => (lexemes (.of language) opened line).2) false

lemma getElem?_scanLines (style : CommentStyle) (keep : Lexeme → Option Char) (opened : Bool)
    (lines : List Text) (k : Nat) :
    (scanLines style keep opened lines)[k]? = lines[k]?.map fun line =>
      (lexemes style ((lines.take k).foldl (fun o l => (lexemes style o l).2) opened)
        line).1.filterMap keep := by
  induction lines generalizing opened k with
  | nil => rfl
  | cons line rest ih =>
      cases k with
      | zero => rfl
      | succ k => exact ih (lexemes style opened line).2 k

/-- What is left of a line, by itself. -/
lemma getElem?_stripLines (language : Language) (lines : List Text) (k : Nat) :
    (stripLines language lines)[k]? =
      lines[k]?.map (outline language (.atLine (openBefore language lines k))) :=
  getElem?_scanLines ..

end Source

/-! ## Lines that begin as a comment does -/

/-- **A line that is blank or begins as a comment does**, whatever comes behind. -/
def LooksIdle (language : Language) (line : Text) : Prop :=
  line.trimStart = [] ∨
    if language.usesBraces then
      ['/', '/'] <+: line.trimStart ∨ ['/', '*'] <+: line.trimStart ∨ ['*'] <+: line.trimStart
    else ['#'] <+: line.trimStart

namespace Statement

/-- No statement that is passed over. -/
def Busy (shaped : Option Statement) : Prop := ∀ s ∈ shaped, s.isIdle = false

lemma Busy.orElse {first second : Option Statement} (h : Busy first) (h' : Busy second) :
    Busy (first <|> second) := by
  cases first with
  | none => exact h'
  | some s => exact h

variable (language : Language) (body : Text)

lemma busy_declaration : Busy (declaration? language body) := by
  intro s h
  unfold declaration? typed? at h
  grind [isIdle]

lemma busy_assignment : Busy (assignment? body) := by
  intro s h
  unfold assignment? at h
  grind [isIdle]

lemma busy_step : Busy (step? body) := by
  intro s h
  unfold step? at h
  grind [isIdle]

lemma busy_print : Busy (print? language body) := by
  intro s h
  unfold print? at h
  grind [isIdle]

lemma busy_leave : Busy (leave? body) := by
  intro s h
  unfold leave? at h
  grind [isIdle]

lemma busy_call : Busy (call? language body) := by
  intro s h
  unfold call? at h
  split at h
  · split at h
    · cases h
    · dsimp only at h
      split at h
      · cases h
      · split at h
        · split at h
          · cases h
            rfl
          · cases h
        · cases h
  · cases h

/-- A line that begins as a comment does is passed over, and no other shape is. -/
lemma isIdle_getD_orElse {language : Language} {line : Text} {rest : Option Statement}
    (busy : Busy rest) :
    ((idle? language line <|> rest).getD .unrecognized).isIdle = (idle? language line).isSome := by
  have idle : ∀ s ∈ idle? language line, s.isIdle = true := by
    intro s h
    unfold idle? at h
    grind [isIdle]
  cases looks : idle? language line with
  | some s => exact idle s looks
  | none =>
      cases rest with
      | none => rfl
      | some s => exact busy s rfl

lemma isSome_idle?_iff {language : Language} {line : Text} :
    (idle? language line).isSome = true ↔ LooksIdle language line := by
  have marked {r : Text} {c : Char} (solid : isBlank c = false) :
      line.trim.startsWith (r ++ [c]) = true ↔ r ++ [c] <+: line.trimStart := by
    rw [startsWith_iff, trim, isPrefix_trimEnd_iff solid]
  have slashes : line.trim.startsWith "//" = true ↔ ['/', '/'] <+: line.trimStart :=
    marked (r := ['/']) (by decide)
  have block : line.trim.startsWith "/*" = true ↔ ['/', '*'] <+: line.trimStart :=
    marked (r := ['/']) (by decide)
  have star : line.trim.startsWith "*" = true ↔ ['*'] <+: line.trimStart :=
    marked (r := []) (by decide)
  have hash : line.trim.startsWith "#" = true ↔ ['#'] <+: line.trimStart :=
    marked (r := []) (by decide)
  unfold idle? LooksIdle
  dsimp only
  by_cases empty : line.trimStart = []
  · simp [trim_eq_nil_iff.2 empty, empty]
  · have nonempty : ¬List.isEmpty line.trim = true := by
      rw [List.isEmpty_iff]
      exact mt trim_eq_nil_iff.1 empty
    rw [if_neg nonempty, or_iff_right empty]
    by_cases braces : language.usesBraces = true
    · rw [if_pos braces, if_pos braces, ← slashes, ← block, ← star]
      simp only [List.any_cons, List.any_nil, Bool.or_false, Bool.or_eq_true]
      split
      · rename_i mark
        exact iff_of_true rfl mark
      · rename_i mark
        exact iff_of_false Bool.false_ne_true mark
    · rw [if_neg braces, if_neg braces, ← hash]
      simp only [List.any_cons, List.any_nil, Bool.or_false]
      split
      · rename_i mark
        exact iff_of_true rfl mark
      · rename_i mark
        exact iff_of_false Bool.false_ne_true mark

end Statement

/-- **The classifier passes over exactly the lines that begin as a comment does.** -/
theorem isIdle_classify_iff {language : Language} {line : Text} :
    (classify language line).isIdle = true ↔ LooksIdle language line := by
  unfold classify
  dsimp only
  rw [Statement.isIdle_getD_orElse, Statement.isSome_idle?_iff]
  split
  · exact fun s none => by cases none
  · exact .orElse (Statement.busy_declaration _ _) <| .orElse (Statement.busy_assignment _) <|
      .orElse (Statement.busy_step _) <| .orElse (Statement.busy_print _ _) <|
      .orElse (Statement.busy_leave _) (Statement.busy_call _ _)

/-! ## Where they agree -/

namespace Source

section Agreement

variable {language : Language}

/-- **The lines that scanner and classifier see alike** in a language with block comments.  Outside
a block comment these are all lines but those that begin with a star, and those with code behind a
block comment they begin with.  A line all inside a block comment has to begin as a comment does,
and one on which the comment ends has to do so exactly if there is no code behind its end. -/
def SeenAlike (language : Language) (opened : Bool) (line : Text) : Prop :=
  language.usesBraces = true →
    if opened then
      (¬['*', '/'] <:+: line → LooksIdle language line) ∧
        ∀ remark r, ¬['*', '/'] <:+: remark → line = remark ++ '*' :: '/' :: r →
          (LooksIdle language line ↔ Bare language false r)
    else ¬['*'] <+: line.trimStart ∧ (['/', '*'] <+: line.trimStart → Bare language false line)

/-- Leading blanks make no difference outside a block comment. -/
lemma bare_trimStart_iff {t : Text} : Bare language false t.trimStart ↔ Bare language false t := by
  induction t with
  | nil => exact Iff.rfl
  | cons c r ih =>
      by_cases blank : isBlank c = true
      · have step : Bare language false (c :: r) ↔ Bare language false r := by
          rw [← isAllBlank_outline_iff, ← isAllBlank_outline_iff]
          show (outline language .code _).isAllBlank = true ↔ _
          rw [outline_blank blank, isAllBlank_cons]
          exact and_iff_right blank
        rw [step, ← ih, trimStart, trimStart, List.dropWhile_cons_of_pos blank]
      · rw [trimStart, List.dropWhile_cons_of_neg blank]

/-- A solid character that opens no comment is code. -/
lemma not_bare_of_not_opens {c : Char} {r : Text} (solid : isBlank c = false)
    (none : ¬Opens language c r) : ¬Bare language false (c :: r) := by
  intro bare
  have left := bare.isAllBlank
  obtain ⟨rest, same⟩ := outline_of_not_opens none
  change (outline language .code _).isAllBlank = true at left
  rw [same, isAllBlank_cons, solid] at left
  cases left.1

/-- Behind the end of a block comment it is the rest of the line that counts. -/
lemma bare_ends_iff {remark r : Text} (first : ¬['*', '/'] <:+: remark) :
    Bare language true (remark ++ '*' :: '/' :: r) ↔ Bare language false r := by
  rw [← isAllBlank_outline_iff, ← isAllBlank_outline_iff]
  show (outline language .comment _).isAllBlank = true ↔ _
  rw [outline_ends first, isAllBlank_cons]
  exact and_iff_right (by decide)

/-- **Inside a block comment scanner and classifier agree on the lines described.** -/
theorem looksIdle_iff_bare_iff_of_opened (braces : language.usesBraces = true) {line : Text} :
    (LooksIdle language line ↔ Bare language true line) ↔ SeenAlike language true line := by
  rw [SeenAlike, if_pos rfl, forall_prop_of_true braces]
  constructor
  · intro same
    refine ⟨fun never => same.2 (.stays never), ?_⟩
    rintro remark r first rfl
    rw [same, bare_ends_iff first]
  · rintro ⟨inside, ends⟩
    by_cases closed : ['*', '/'] <:+: line
    · obtain ⟨⟨remark, r⟩, found⟩ := Option.isSome_iff_exists.1 (has_iff.2 closed)
      have first := not_isInfix_of_cut (List.cons_ne_nil _ _) found
      have whole : line = remark ++ '*' :: '/' :: r := (append_of_cut found).symm
      rw [ends remark r first whole, whole, bare_ends_iff first]
    · exact iff_of_true (inside closed) (.stays closed)

/-- Without block comments none is left open. -/
lemma scan_closed {style : CommentStyle} (none : style.slashes = false) {p : Position}
    (outside : p ≠ .comment) (t : Text) : (scan style p t).2 = false := by
  fun_induction scan style p t with
  | _ => simp_all [emit]

lemma openBefore_eq_false (hashes : language.usesBraces = false) (lines : List Text) (k : Nat) :
    openBefore language lines k = false := by
  unfold openBefore
  induction lines.take k with
  | nil => rfl
  | cons line rest ih =>
      have closed : (lexemes (.of language) false line).2 = false :=
        scan_closed (by simp [CommentStyle.of, hashes]) (by simp) line
      rw [List.foldl_cons, closed]
      exact ih

/-- **A line that begins outside a block comment and holds no code looks as if it held none.** -/
lemma looksIdle_of_bare {line : Text} (bare : Bare language false line) :
    LooksIdle language line := by
  rcases trimStart_eq_nil_or_cons line with none | ⟨c, r, left, solid⟩
  · exact .inl none
  · rw [← bare_trimStart_iff, left] at bare
    by_cases opens : Opens language c r
    · refine .inr ?_
      rw [left]
      unfold Opens at opens
      split at opens
      · rename_i braces
        rw [if_pos braces]
        obtain ⟨rfl, next | next⟩ := opens
        · obtain ⟨r', rfl⟩ := List.head?_eq_some_iff.1 next
          exact .inl ⟨r', rfl⟩
        · obtain ⟨r', rfl⟩ := List.head?_eq_some_iff.1 next
          exact .inr (.inl ⟨r', rfl⟩)
      · rename_i hashes
        rw [if_neg hashes, opens]
        exact ⟨r, rfl⟩
    · exact absurd bare (not_bare_of_not_opens solid opens)

/-- **Outside a block comment scanner and classifier agree on the lines described.** -/
theorem looksIdle_iff_bare_iff {line : Text} :
    (LooksIdle language line ↔ Bare language false line) ↔ SeenAlike language false line := by
  unfold LooksIdle SeenAlike
  rw [← bare_trimStart_iff, if_neg Bool.false_ne_true]
  rcases trimStart_eq_nil_or_cons line with none | ⟨c, r, left, solid⟩
  · rw [none]
    simp [Bare.nil]
  · rw [left, or_iff_right (List.cons_ne_nil c r)]
    by_cases braces : language.usesBraces = true
    · rw [if_pos braces, forall_prop_of_true braces]
      by_cases opens : Opens language c r
      · unfold Opens at opens
        rw [if_pos braces] at opens
        obtain ⟨rfl, next | next⟩ := opens
        · obtain ⟨r', rfl⟩ := List.head?_eq_some_iff.1 next
          simp [Bare.slashes braces]
        · obtain ⟨r', rfl⟩ := List.head?_eq_some_iff.1 next
          simp
      · -- nothing but a star makes the line look like a comment then
        have code := not_bare_of_not_opens solid opens
        have unopened {d : Char} (marks : d = '/' ∨ d = '*') : ¬['/', d] <+: c :: r := by
          rintro ⟨rest, same⟩
          cases same
          exact opens (by rw [Opens, if_pos braces]; simpa using marks)
        simp only [unopened (.inl rfl), unopened (.inr rfl), code, false_or, iff_false,
          false_imp_iff, and_true]
    · rw [if_neg braces]
      by_cases hash : c = '#'
      · subst hash
        simp [Bare.hash (eq_false_of_ne_true braces), braces]
      · have code : ¬Bare language false (c :: r) :=
          not_bare_of_not_opens solid (by rw [Opens, if_neg braces]; exact hash)
        simp [code, braces, Ne.symm hash]

end Agreement

end Source

open Source

/-- **What is a comment for the scanner and for the classifier.**  Of a row that begins with a block
comment open or not, nothing but blanks is left exactly if it holds no code, and it is passed over
exactly if it begins as a comment does.  The two agree in a language with hash signs; in one with
block comments they agree on a row all inside one exactly if it begins as a comment does, on a row
where one ends exactly if it does so without code behind that end, and on any other unless it begins
with a star, or with a block comment and has code behind it.  What is run is comment only inside a
block comment over several lines. -/
theorem comments_seen_alike_iff {language : Language} {code : Text} {k : Nat} {row : Row}
    (read : (Program.ofCode language code).rows[k]? = some row) :
    let opened := openBefore language code.lines k
    (row.stripped.isAllBlank = true ↔ Bare language opened row.text) ∧
      (row.statement.isIdle = true ↔ LooksIdle language row.text) ∧
      ((row.statement.isIdle = true ↔ row.stripped.isAllBlank = true) ↔
        SeenAlike language opened row.text) ∧
      (opened = false → row.stripped.isAllBlank = true → row.statement.isIdle = true) := by
  intro opened
  have text : code.lines[k]? = some row.text := by
    rw [← Program.map_text_ofCode language code, List.getElem?_map, read]
    rfl
  have statement : row.statement = classify language row.text := by
    have column := congrArg (fun statements => statements[k]?)
      (Program.map_statement_ofCode language code)
    simpa [read, text] using column
  have stripped : row.stripped = outline language (.atLine opened) row.text := by
    have column := congrArg (fun lines => lines[k]?) (Program.map_stripped_ofCode language code)
    rw [getElem?_stripLines, text, List.getElem?_map, read] at column
    exact Option.some.inj column
  have blank : row.stripped.isAllBlank = true ↔ Bare language opened row.text := by
    rw [stripped]
    exact isAllBlank_outline_iff
  have idle : row.statement.isIdle = true ↔ LooksIdle language row.text := by
    rw [statement]
    exact isIdle_classify_iff
  refine ⟨blank, idle, ?_, ?_⟩
  · rw [blank, idle]
    generalize state : opened = o
    cases o with
    | false => exact looksIdle_iff_bare_iff
    | true =>
        have braces : language.usesBraces = true := by
          by_contra hashes
          have closed : opened = false := openBefore_eq_false (eq_false_of_ne_true hashes) _ _
          rw [state] at closed
          cases closed
        exact looksIdle_iff_bare_iff_of_opened braces
  · intro closed left
    rw [blank, closed] at left
    exact idle.2 (looksIdle_of_bare left)

/-- The second line of a block comment over three lines is run as an assignment. -/
theorem comments_seen_alike_iff_inside :
    let code : Text := "/*\nx = 1;\n*/"
    let row : Row := ⟨2, "x = 1;", [], 0, .assign "x" none "1"⟩
    (Program.ofCode .java code).rows[1]? = some row ∧ openBefore .java code.lines 1 = true ∧
      Bare .java true row.text ∧ ¬SeenAlike .java true row.text := by
  intro code row
  have read : (Program.ofCode .java code).rows[1]? = some row := by decide +kernel
  have opened : openBefore .java code.lines 1 = true := by decide +kernel
  obtain ⟨blank, -, alike, -⟩ := comments_seen_alike_iff read
  rw [opened] at blank alike
  refine ⟨read, opened, blank.1 (by decide +kernel), ?_⟩
  rw [← alike]
  decide +kernel

/-- **It is not so for every code that the classifier sees as comment what the scanner does**: the
assignment above is no comment, and it is stripped away. -/
theorem commented_out_line_is_run :
    ¬∀ (language : Language) (code : Text), ∀ row ∈ (Program.ofCode language code).rows,
      (row.statement = .blank ∨ row.statement = .comment) ↔ row.stripped.isAllBlank = true := by
  intro alike
  have mem : (⟨2, "x = 1;", [], 0, .assign "x" none "1"⟩ : Row) ∈
      (Program.ofCode .java "/*\nx = 1;\n*/").rows := by decide +kernel
  have idle := (alike .java _ _ mem).2 (by decide +kernel)
  simp at idle

end SnippetLab

import SnippetLab.Proofs.Source.Segments

/-!
# What stripping leaves of a source

Stripping is said by saying what is left of each segment of a source: all of its code, of a literal
its quotes, of a block comment a space where it is closed.  The scanner works line by line and looks
one character ahead; here every character of the source is marked with what is left of it (`Mark`),
and the lines are cut afterwards.

* `Segment.marks`, `leftLines` — what is left of segments, line by line.
* `Stripped` — the scanner, standing at a place, leaves of a marked rest what the marks say.  There
  is one lemma for a character that is passed, one for the end of a line, and from these one for
  each kind of segment.
* `stripLines_segments` — **the scanner leaves of every source what its segments say.**
-/

namespace SnippetLab.Source

open Text

/-! ## Marks -/

/-- A character of a source, with what is left of it when the source is stripped. -/
structure Mark where
  char : Char
  left : Option Char
  deriving Repr, DecidableEq

namespace Mark

/-- A character that is left as it is. -/
def stays (c : Char) : Mark := ⟨c, some c⟩

/-- A character of which nothing is left. -/
def goes (c : Char) : Mark := ⟨c, none⟩

@[simp] lemma char_stays (c : Char) : (stays c).char = c := rfl

@[simp] lemma char_goes (c : Char) : (goes c).char = c := rfl

@[simp] lemma char_comp_stays : char ∘ stays = id := rfl

@[simp] lemma char_comp_goes : char ∘ goes = id := rfl

end Mark

/-- **What is left of the characters of a segment**: all of code, of a literal its quotes, of a
closed block comment a space in the place of its last character. -/
def Segment.marks (language : Language) : Segment → List Mark
  | .code t => t.map .stays
  | .literal q t => .stays q :: (t.map .goes ++ [.stays q])
  | .openLiteral q t => .stays q :: t.map .goes
  | .block t => [.goes '/', .goes '*'] ++ (t.map .goes ++ [.goes '*', ⟨'/', some ' '⟩])
  | .openBlock t => [.goes '/', .goes '*'] ++ t.map .goes
  | .remark t => (lineMark language).map .goes ++ t.map .goes

/-- The marks of some segments. -/
def marksOf (language : Language) (segments : List Segment) : List Mark :=
  segments.flatMap (Segment.marks language)

/-- A text in front of the first of some lines. -/
def putFirst (t : Text) : List Text → List Text
  | [] => [t]
  | line :: rest => (t ++ line) :: rest

/-- **What is left of a marked text, line by line.**  Lines end as those of the text do. -/
def leftLines : List Mark → List Text
  | [] => []
  | ⟨'\n', _⟩ :: r => [] :: leftLines r
  | ⟨'\r', _⟩ :: ⟨'\n', _⟩ :: r => [] :: leftLines r
  | m :: r => putFirst m.left.toList (leftLines r)

@[simp] lemma putFirst_putFirst (t u : Text) (lines : List Text) :
    putFirst t (putFirst u lines) = putFirst (t ++ u) lines := by
  cases lines with
  | nil => rfl
  | cons line rest => exact congrArg (· :: rest) (List.append_assoc t u line).symm

/-- The marks of a segment are on its characters. -/
lemma Segment.map_char_marks (language : Language) (s : Segment) :
    (s.marks language).map Mark.char = s.text language := by
  cases s with
  | _ => simp [marks, text]

lemma map_char_marksOf (language : Language) (segments : List Segment) :
    (marksOf language segments).map Mark.char = sourceOf language segments := by
  rw [marksOf, sourceOf, List.map_flatMap]
  exact congrArg segments.flatMap (funext (Segment.map_char_marks language))

/-! ## Lines -/

section Lines

variable {c : Char} {r t : Text}

lemma consHead_eq_putFirst (c : Char) (lines : List Text) :
    consHead c lines = putFirst [c] lines := by
  cases lines with
  | _ => rfl

/-- A character that ends no line belongs to the first one. -/
lemma lines_cons (inside : c ≠ '\n') (single : ¬(c = '\r' ∧ r.head? = some '\n')) :
    lines (c :: r) = putFirst [c] (lines r) := by
  rw [lines, consHead_eq_putFirst]
  · exact inside
  · rintro r' rfl rfl
    exact single ⟨rfl, rfl⟩

/-- So does what is left of it. -/
lemma leftLines_cons {left : Option Char} {marks : List Mark} (inside : c ≠ '\n')
    (single : ¬(c = '\r' ∧ (marks.map Mark.char).head? = some '\n')) :
    leftLines (⟨c, left⟩ :: marks) = putFirst left.toList (leftLines marks) := by
  rw [leftLines]
  · rintro _ same
    exact inside (congrArg Mark.char same)
  · rintro kept next rest same rfl
    exact single ⟨congrArg Mark.char same, rfl⟩

/-- The first line begins as the text does, or it is empty. -/
lemma head?_lines (r : Text) : ∀ line ∈ r.lines.head?, line = [] ∨ line.head? = r.head? := by
  intro line first
  cases r with
  | nil => cases first
  | cons c r =>
      by_cases inside : c = '\n'
      · subst inside
        rw [lines] at first
        exact .inl (Option.some.inj first).symm
      · by_cases crlf : c = '\r' ∧ r.head? = some '\n'
        · obtain ⟨rfl, next⟩ := crlf
          obtain ⟨r', rfl⟩ := List.head?_eq_some_iff.1 next
          rw [lines] at first
          exact .inl (Option.some.inj first).symm
        · rw [lines_cons inside crlf] at first
          cases later : lines r with
          | _ =>
              rw [later] at first
              exact .inr (by rw [← Option.some.inj first]; rfl)

end Lines

/-! ## What the scanner leaves -/

/-- The scanner stands at a place in a line, or in a comment that ends with the line. -/
abbrev Standing := Option Position

/-- What is left of the rest of a line, and whether a block comment is open at its end. -/
def restLeft (language : Language) : Standing → Text → Text × Bool
  | none, _ => ([], false)
  | some p, t => (outline language p t, (scan (.of language) p t).2)

/-- What is left of the rest of a line and of the lines after it. -/
def linesLeft (language : Language) (p : Standing) : List Text → List Text
  | [] => []
  | line :: rest =>
    (restLeft language p line).1 ::
      scanLines (.of language) Lexeme.outline (restLeft language p line).2 rest

/-- **Of a marked text, read from where the scanner stands, is left what the marks say.** -/
def Stripped (language : Language) (p : Standing) (marks : List Mark) : Prop :=
  linesLeft language p (lines (marks.map Mark.char)) = leftLines marks

section Stripped

variable {language : Language} {p q : Standing} {marks : List Mark}

lemma stripLines_eq_linesLeft (lines : List Text) :
    stripLines language lines = linesLeft language (some .code) lines := by
  cases lines with
  | _ => rfl

@[simp] lemma restLeft_nil (p : Standing) :
    restLeft language p [] = ([], p == some .comment) := by
  rcases p with _ | p
  · rfl
  · cases p with
    | _ => rfl

/-- Where the scanner stands at the beginning of the next line. -/
def Standing.fed (p : Standing) : Standing := some (.atLine (p == some .comment))

/-- **At the end of a line** the next one is begun. -/
lemma Stripped.feed (left : Option Char) (later : Stripped language p.fed marks) :
    Stripped language p (⟨'\n', left⟩ :: marks) := by
  rw [Stripped, List.map_cons, lines, leftLines, ← later, linesLeft, restLeft_nil]
  refine congrArg (_ :: ·) ?_
  unfold Standing.fed
  cases lines (marks.map Mark.char) with
  | nil => rfl
  | cons line rest => cases p == some .comment <;> rfl

/-- What the scanner passes on its way leaves what it leaves in front of the first line. -/
lemma linesLeft_putFirst {t u : Text} {lines : List Text}
    (passes : ∀ line, line = [] ∨ lines.head? = some line →
      restLeft language p (t ++ line) =
        (u ++ (restLeft language q line).1, (restLeft language q line).2)) :
    linesLeft language p (putFirst t lines) = putFirst u (linesLeft language q lines) := by
  cases lines with
  | nil =>
      have alone := passes [] (.inl rfl)
      rw [List.append_nil, restLeft_nil, List.append_nil] at alone
      simp only [putFirst, linesLeft, alone]
      rfl
  | cons line rest => simp only [putFirst, linesLeft, passes line (.inr rfl)]

/-- **A character is passed**, and leaves what its mark says.  The scanner sees at most the next
character of the line. -/
lemma Stripped.pass {c : Char} {left : Option Char} (later : Stripped language q marks)
    (inside : c ≠ '\n') (same : (p == some .comment) = (q == some .comment))
    (passes : ∀ line, line = [] ∨ line.head? = (marks.map Mark.char).head? →
      restLeft language p (c :: line) =
        (left.toList ++ (restLeft language q line).1, (restLeft language q line).2)) :
    Stripped language p (⟨c, left⟩ :: marks) := by
  by_cases crlf : c = '\r' ∧ (marks.map Mark.char).head? = some '\n'
  · -- the character belongs to the end of the line
    obtain ⟨rfl, next⟩ := crlf
    cases marks with
    | nil => cases next
    | cons m rest =>
        obtain ⟨d, kept⟩ := m
        obtain rfl : d = '\n' := Option.some.inj next
        rw [Stripped, List.map_cons, lines, leftLines, linesLeft, restLeft_nil] at later
        rw [Stripped, List.map_cons, List.map_cons, lines, leftLines, linesLeft, restLeft_nil, same]
        exact later
  · rw [Stripped, List.map_cons, lines_cons inside crlf, leftLines_cons inside crlf, ← later]
    exact linesLeft_putFirst fun line first =>
      passes line (first.elim .inl fun first => head?_lines _ line first)

/-- The same for two characters at once, which end no line. -/
lemma Stripped.pass_two {c d : Char} {left : Option Char} (later : Stripped language q marks)
    (first : c ≠ '\n' ∧ c ≠ '\r') (second : d ≠ '\n' ∧ d ≠ '\r')
    (passes : ∀ line, restLeft language p (c :: d :: line) =
      (left.toList ++ (restLeft language q line).1, (restLeft language q line).2)) :
    Stripped language p (.goes c :: ⟨d, left⟩ :: marks) := by
  rw [Mark.goes, Stripped, List.map_cons, List.map_cons,
    lines_cons first.1 fun same => first.2 same.1,
    lines_cons second.1 fun same => second.2 same.1, putFirst_putFirst,
    leftLines_cons first.1 fun same => first.2 same.1,
    leftLines_cons second.1 fun same => second.2 same.1, putFirst_putFirst, ← later]
  exact linesLeft_putFirst fun line _ => passes line

/-- What is left of a lexeme stands in front of what is left behind it. -/
lemma restLeft_emit {p q : Position} {t u : Text} {l : Lexeme}
    (scanned : scan (.of language) p t = emit l (scan (.of language) q u)) :
    restLeft language (some p) t =
      (l.outline.toList ++ (restLeft language (some q) u).1, (restLeft language (some q) u).2) := by
  rw [restLeft, restLeft, outline, outline, scanned]
  cases l with
  | _ => rfl

/-- **A character that makes a lexeme by itself** is marked with what is left of that. -/
lemma Stripped.pass_lexeme {p q : Position} {c : Char} {l : Lexeme}
    (later : Stripped language (some q) marks) (inside : c ≠ '\n')
    (outside : p ≠ .comment ∧ q ≠ .comment)
    (scanned : ∀ line, line = [] ∨ line.head? = (marks.map Mark.char).head? →
      scan (.of language) p (c :: line) = emit l (scan (.of language) q line)) :
    Stripped language (some p) (⟨c, l.outline⟩ :: marks) :=
  later.pass inside (by simp [outside]) fun line next => restLeft_emit (scanned line next)

/-! ### Code -/

/-- Where slashes begin no comment, they are code. -/
lemma scan_slash {style : CommentStyle} (none : style.slashes = false) (r : Text) :
    scan style .code ('/' :: r) = emit (.code '/') (scan style .code r) := by
  induction r with
  | nil =>
      rw [scan_code_cons (by simp) (by simp)]
      simp [isQuote]
  | cons c r ih =>
      by_cases slash : c = '/'
      · subst slash
        rw [ih, scan, if_neg (by simp [none])]
      · by_cases star : c = '*'
        · subst star
          rw [scan, if_neg (by simp [none]), scan_code_cons (by simp) (by simp)]
          simp [isQuote]
        · rw [scan_code_cons (by simp [slash]) (by simp [star])]
          simp [isQuote]

/-- **A character of code that opens no comment is code.** -/
lemma scan_code {c : Char} {r : Text} (plain : isQuote c = false) (none : ¬Opens language c r) :
    scan (.of language) .code (c :: r) = emit (.code c) (scan (.of language) .code r) := by
  unfold Opens at none
  by_cases braces : language.usesBraces = true
  · rw [if_pos braces, not_and, not_or] at none
    rw [scan_code_cons, if_neg (by simp [plain]), if_neg (by simp [CommentStyle.of, braces])]
    · rintro r' rfl rfl
      exact (none rfl).1 rfl
    · rintro r' rfl rfl
      exact (none rfl).2 rfl
  · rw [if_neg braces] at none
    by_cases slash : c = '/'
    · subst slash
      exact scan_slash (by simp [CommentStyle.of, braces]) r
    · rw [scan_code_cons (by simp [slash]) (by simp [slash]), if_neg (by simp [plain]),
        if_neg (by simp [none])]

/-- Whether a character opens a comment depends on the next one. -/
lemma Opens.congr {c : Char} {r r' : Text} (h : Opens language c r)
    (same : r = [] ∨ r.head? = r'.head?) : Opens language c r' := by
  unfold Opens at *
  split
  · rename_i braces
    rw [if_pos braces] at h
    rcases same with rfl | same
    · simp at h
    · rwa [← same]
  · rename_i hashes
    rwa [if_neg hashes] at h

lemma Stripped.pass_code {c : Char} (later : Stripped language (some .code) marks)
    (plain : isQuote c = false) (inside : c ≠ '\n')
    (none : ¬Opens language c (marks.map Mark.char)) :
    Stripped language (some .code) (.stays c :: marks) :=
  later.pass_lexeme (l := .code c) inside (by simp) fun _ next =>
    scan_code plain fun opens => none (opens.congr next)

/-- Code holds nothing that opens a comment, and opens none with what follows it either. -/
lemma not_opens_of_code {c : Char} {t rest : Text}
    (none : ∀ mark ∈ commentMarks language, ¬mark <:+: c :: t)
    (slash : language.usesBraces = true → (c :: t).getLast? = some '/' →
      rest.head? ≠ some '/' ∧ rest.head? ≠ some '*') :
    ¬Opens language c (t ++ rest) := by
  unfold Opens
  unfold commentMarks at none
  split
  · rename_i braces
    rw [if_pos braces, List.forall_mem_cons, List.forall_mem_singleton] at none
    rintro ⟨rfl, next⟩
    cases t with
    | nil => exact next.elim (slash braces rfl).1 (slash braces rfl).2
    | cons d t =>
        rcases next with next | next
        · cases next
          exact none.1 (List.prefix_append ['/', '/'] t).isInfix
        · cases next
          exact none.2 (List.prefix_append ['/', '*'] t).isInfix
  · rename_i hashes
    rw [if_neg hashes, List.forall_mem_singleton] at none
    rintro rfl
    exact none (List.prefix_append ['#'] t).isInfix

/-- **Code is left as it is**, if what follows makes no comment of a slash at its end. -/
lemma Stripped.code {t : Text} (valid : Segment.Valid language (.code t))
    (slash : language.usesBraces = true → t.getLast? = some '/' →
      (marks.map Mark.char).head? ≠ some '/' ∧ (marks.map Mark.char).head? ≠ some '*')
    (later : Stripped language (some .code) marks) :
    Stripped language (some .code) (t.map .stays ++ marks) := by
  obtain ⟨plain, none⟩ := valid
  induction t with
  | nil => exact later
  | cons c t ih =>
      rw [List.forall_mem_cons] at plain
      have within : ∀ mark ∈ commentMarks language, ¬mark <:+: t := fun mark listed part =>
        none mark listed (part.trans (List.suffix_cons c t).isInfix)
      have rest : Stripped language (some .code) (t.map .stays ++ marks) := by
        refine ih (fun braces last => slash braces ?_) plain.2 within
        rw [List.getLast?_cons, last]
        rfl
      by_cases feed : c = '\n'
      · subst feed
        exact .feed _ rest
      · refine rest.pass_code plain.1 feed ?_
        have opensNone := not_opens_of_code none slash
        rwa [List.map_append, List.map_map, Mark.char_comp_stays, List.map_id]

/-! ### Literals -/

/-- At the end of a line code, literals and remarks are alike. -/
lemma Stripped.of_endsHere (later : Stripped language (some .code) marks)
    (outside : p ≠ some .comment) (ends : EndsHere (marks.map Mark.char)) :
    Stripped language p marks := by
  rw [Stripped] at later ⊢
  rw [← later]
  cases cut : lines (marks.map Mark.char) with
  | nil => rfl
  | cons line rest =>
      obtain rfl := ends line (by rw [cut]; rfl)
      have closed : (p == some .comment) = false := by simpa using outside
      rw [linesLeft, linesLeft, restLeft_nil, restLeft_nil, closed]
      rfl

section Literal

variable {quote : Char}

/-- A quote opens a literal, and is left. -/
lemma Stripped.pass_opening (later : Stripped language (some (.literal quote)) marks)
    (opens : isQuote quote = true) : Stripped language (some .code) (.stays quote :: marks) := by
  have feed : quote ≠ '\n' := by
    rintro rfl
    cases opens
  have slash : quote ≠ '/' := by
    rintro rfl
    cases opens
  refine later.pass_lexeme (l := .quote quote) feed (by simp) fun line _ => ?_
  rw [scan_code_cons (by simp [slash]) (by simp [slash]), if_pos opens]

/-- The same quote closes it, and is left. -/
lemma Stripped.pass_closing (later : Stripped language (some .code) marks)
    (opens : isQuote quote = true) :
    Stripped language (some (.literal quote)) (.stays quote :: marks) := by
  have feed : quote ≠ '\n' := by
    rintro rfl
    cases opens
  have backslash : quote ≠ '\\' := by
    rintro rfl
    cases opens
  refine later.pass_lexeme (l := .quote quote) feed (by simp) fun line _ => ?_
  rw [scan, if_neg backslash, if_pos rfl]

/-- A backslash takes the next character along. -/
lemma Stripped.pass_backslash (later : Stripped language (some (.escaped quote)) marks) :
    Stripped language (some (.literal quote)) (.goes '\\' :: marks) := by
  refine later.pass_lexeme (l := .content '\\') (by decide) (by simp) fun line _ => ?_
  rw [scan, if_pos rfl]

lemma Stripped.pass_escaped {c : Char} (later : Stripped language (some (.literal quote)) marks)
    (inside : c ≠ '\n') : Stripped language (some (.escaped quote)) (.goes c :: marks) :=
  later.pass_lexeme (l := .content c) inside (by simp) fun _ _ => rfl

lemma Stripped.pass_content {c : Char} (later : Stripped language (some (.literal quote)) marks)
    (inside : c ≠ '\n') (backslash : c ≠ '\\') (other : c ≠ quote) :
    Stripped language (some (.literal quote)) (.goes c :: marks) := by
  refine later.pass_lexeme (l := .content c) inside (by simp) fun line _ => ?_
  rw [scan, if_neg backslash, if_neg other]

/-- **Of the contents of a literal nothing is left**, whatever becomes of it behind them. -/
lemma Stripped.content {t : Text} {cutOff : Bool} (whole : '\n' ∉ t)
    (content : isContent quote cutOff t = true)
    (later : Stripped language (some (.literal quote)) marks)
    (cut : cutOff = true → Stripped language (some (.escaped quote)) marks) :
    Stripped language (some (.literal quote)) (t.map .goes ++ marks) := by
  fun_induction isContent quote cutOff t with
  | case1 => exact later
  | case2 => exact (cut content).pass_backslash
  | case3 c r ih =>
      simp only [List.mem_cons, not_or] at whole
      exact ((ih whole.2.2 content).pass_escaped (Ne.symm whole.2.1)).pass_backslash
  | case4 c r alone escapes ih =>
      rw [List.mem_cons, not_or] at whole
      rw [Bool.and_eq_true, bne_iff_ne] at content
      have backslash : c ≠ '\\' := by
        rintro rfl
        cases r with
        | nil => exact alone rfl rfl
        | cons d r => exact escapes d r rfl rfl
      exact (ih whole.2 content.2).pass_content (Ne.symm whole.1) backslash content.1

end Literal

/-! ### Comments -/

/-- A block comment is closed, and leaves a space. -/
lemma Stripped.pass_end (later : Stripped language (some .code) marks) :
    Stripped language (some .comment) (.goes '*' :: ⟨'/', some ' '⟩ :: marks) :=
  later.pass_two (by decide) (by decide) fun _ => restLeft_emit (l := .gap) rfl

/-- It is opened, and leaves nothing. -/
lemma Stripped.pass_begin (later : Stripped language (some .comment) marks)
    (braces : language.usesBraces = true) :
    Stripped language (some .code) (.goes '/' :: .goes '*' :: marks) := by
  refine later.pass_two (by decide) (by decide) fun line => ?_
  have opened : scan (.of language) .code ('/' :: '*' :: line) =
      scan (.of language) .comment line := by
    simp [scan, CommentStyle.of, braces]
  rw [restLeft, restLeft, outline, outline, opened]
  rfl

/-- **Of what a block comment holds nothing is left**, if its mark does not stand across the end. -/
lemma Stripped.remark {t : Text} (never : ¬['*', '/'] <:+: t)
    (star : t.getLast? = some '*' → (marks.map Mark.char).head? ≠ some '/')
    (later : Stripped language (some .comment) marks) :
    Stripped language (some .comment) (t.map .goes ++ marks) := by
  induction t with
  | nil => exact later
  | cons c t ih =>
      rw [List.infix_cons_iff, not_or] at never
      have rest : Stripped language (some .comment) (t.map .goes ++ marks) := by
        refine ih never.2 fun last => star ?_
        rw [List.getLast?_cons, last]
        rfl
      by_cases feed : c = '\n'
      · subst feed
        exact .feed _ rest
      · refine rest.pass feed rfl fun line next => ?_
        have on : ¬['*', '/'] <+: c :: line := by
          rintro ⟨r, same⟩
          obtain ⟨rfl, rfl⟩ := List.cons.inj same
          have ahead := next.resolve_left (List.cons_ne_nil _ _)
          cases t with
          | nil => exact star rfl ahead.symm
          | cons d t =>
              obtain rfl : '/' = d := Option.some.inj ahead
              exact never.1 (List.prefix_append ['*', '/'] t)
        rw [restLeft, restLeft, outline_comment on, scan_comment_cons]
        · rfl
        · rintro r' rfl rfl
          exact on ⟨r', rfl⟩

/-- **Of a comment that ends with its line nothing is left.** -/
lemma Stripped.lineRemark {t : Text} (whole : '\n' ∉ t) (later : Stripped language none marks) :
    Stripped language none (t.map .goes ++ marks) := by
  induction t with
  | nil => exact later
  | cons c t ih =>
      rw [List.mem_cons, not_or] at whole
      exact (ih whole.2).pass (Ne.symm whole.1) rfl fun _ _ => rfl

lemma Stripped.pass_lineMark (later : Stripped language none marks) :
    Stripped language (some .code) ((lineMark language).map .goes ++ marks) := by
  unfold lineMark
  split
  · rename_i braces
    show Stripped language (some .code) (.goes '/' :: .goes '/' :: marks)
    refine later.pass_two (by decide) (by decide) fun line => ?_
    have silent : scan (.of language) .code ('/' :: '/' :: line) = ([], false) := by
      simp [scan, CommentStyle.of, braces]
    rw [restLeft, restLeft, outline, silent]
    rfl
  · rename_i hashes
    show Stripped language (some .code) (.goes '#' :: marks)
    refine later.pass (by decide) rfl fun line _ => ?_
    have silent : scan (.of language) .code ('#' :: line) = ([], false) := by
      simp [scan, CommentStyle.of, hashes, isQuote]
    rw [restLeft, restLeft, outline, silent]
    rfl

end Stripped

/-! ## Sources -/

section Source

variable {language : Language}

/-- Where neither code nor a comment begins, a quote does. -/
lemma Lexed.head?_sourceOf {rest : List Segment} (lexed : Lexed language rest)
    (code : ∀ next ∈ rest.head?, next.isCode = false)
    (comment : ∀ next ∈ rest.head?, next.isComment = false) {c : Char}
    (first : (sourceOf language rest).head? = some c) : isQuote c = true := by
  cases lexed with
  | nil => cases first
  | @cons s rest valid _ _ =>
      cases s with
      | code t => cases code _ rfl
      | literal q t | openLiteral q t =>
          obtain rfl : q = c := Option.some.inj first
          exact valid.1
      | block t | openBlock t | remark t => cases comment _ rfl

/-- **What follows the beginning of a source is left as the marks say**, one segment after
another. -/
lemma Lexed.stripped {segments : List Segment} (lexed : Lexed language segments) :
    Stripped language (some .code) (marksOf language segments) := by
  induction lexed with
  | nil => rfl
  | @cons s rest valid joins lexed later =>
      have chars : (marksOf language rest).map Mark.char = sourceOf language rest :=
        map_char_marksOf language rest
      rw [marksOf, List.flatMap_cons, ← marksOf]
      cases s with
      | code t =>
          refine later.code valid fun braces last => ?_
          have quote {c : Char} := lexed.head?_sourceOf (c := c)
            (fun next first => (joins next first).1) fun next first => (joins next first).2 braces last
          rw [chars]
          exact ⟨fun first => absurd (quote first) (by decide),
            fun first => absurd (quote first) (by decide)⟩
      | literal q t =>
          obtain ⟨opens, whole, content⟩ := valid
          rw [Segment.marks, List.cons_append, List.append_assoc]
          exact .pass_opening (.content whole content (later.pass_closing opens) nofun) opens
      | openLiteral q t =>
          obtain ⟨opens, whole, content⟩ := valid
          have ends : EndsHere ((marksOf language rest).map Mark.char) := chars ▸ joins
          exact .pass_opening (.content whole content (later.of_endsHere nofun ends)
            fun _ => later.of_endsHere nofun ends) opens
      | block t =>
          obtain ⟨braces, never⟩ := valid
          rw [Segment.marks, List.append_assoc, List.append_assoc]
          exact .pass_begin (.remark never (fun _ => by simp) later.pass_end) braces
      | openBlock t =>
          obtain ⟨braces, never⟩ := valid
          obtain rfl : rest = [] := joins
          exact .pass_begin (.remark never (fun _ => by simp [marksOf]) rfl) braces
      | remark t =>
          have ends : EndsHere ((marksOf language rest).map Mark.char) := chars ▸ joins
          rw [Segment.marks, List.append_assoc]
          exact .pass_lineMark (.lineRemark valid (later.of_endsHere nofun ends))

/-- **Stripping is lexing.**  If a source is made of segments, what the scanner leaves of its lines
is what is left of the segments, line by line: the code as it is, of each literal its quotes, of
each block comment a space on the line where it is closed, and nothing of other comments. -/
theorem stripLines_segments {segments : List Segment} (lexed : Lexed language segments) :
    stripLines language (lines (sourceOf language segments)) =
      leftLines (marksOf language segments) := by
  rw [stripLines_eq_linesLeft, ← map_char_marksOf]
  exact lexed.stripped

/-- Comment marks and escaped quotes in a literal, quotes in comments, a literal that ends with its
line. -/
def mixed : List Segment :=
  [.code "a=", .literal '"' "/*\\\"//", .block "it's\n\"", .code "/b\n", .openLiteral '\'' "c/*",
    .code "\n", .remark "d\"/*"]

theorem stripLines_segments_mixed :
    Lexed .java mixed ∧
      stripLines .java (lines (sourceOf .java mixed)) = ["a=\"\"", " /b", "'", ""] := by
  have lexed : Lexed .java mixed := by decide
  exact ⟨lexed, (stripLines_segments lexed).trans (by decide)⟩

end Source

end SnippetLab.Source

import SnippetLab.Proofs.Source.Remarks

/-!
# Where the scanner is at the end of a line

The scanner reads a line in one go, looking one character ahead for comments.  A line can be cut in
two for it wherever the second part begins with neither a slash nor a star
(`outline_append`), and what the second part leaves depends on the first only through the position
behind it.

* `finish` — the position behind a text; none in a comment that ends with its line.
* `scan_append` — **a text is scanned in parts.**
* `EndsOutside` — a line that ends outside literals and block comments.
* `parenBalance_remark` — **a comment behind such a line opens and closes no parenthesis.**
-/

namespace SnippetLab.Source

open Text

/-! ## The position behind a text -/

/-- **The position of the scanner behind a text**; none if the rest of the line is a comment. -/
def finish (style : CommentStyle) : Position → Text → Option Position
  | p, [] => some p
  | .comment, '*' :: '/' :: r => finish style .code r
  | .comment, _ :: r => finish style .comment r
  | .escaped q, _ :: r => finish style (.literal q) r
  | .literal q, c :: r =>
    if c = '\\' then finish style (.escaped q) r
    else if c = q then finish style .code r
    else finish style (.literal q) r
  | .code, '/' :: '/' :: r => if style.slashes then none else finish style .code r
  | .code, '/' :: '*' :: r =>
    if style.slashes then finish style .comment r else finish style .code r
  | .code, c :: r =>
    if Text.isQuote c then finish style (.literal c) r
    else if style.hash && c == '#' then none
    else finish style .code r

section Step

variable {style : CommentStyle} {c : Char} {r : Text}

@[simp] lemma finish_nil (p : Position) : finish style p [] = some p := by
  cases p with
  | _ => rfl

/-- A character of code that begins no comment with the next. -/
lemma scan_code_cons (slashes : ∀ r', c = '/' → r = '/' :: r' → False)
    (stars : ∀ r', c = '/' → r = '*' :: r' → False) :
    scan style .code (c :: r) =
      if isQuote c then emit (.quote c) (scan style (.literal c) r)
      else if style.hash && c == '#' then ([], false)
      else emit (.code c) (scan style .code r) := by
  rw [scan]
  · exact slashes
  · exact stars

lemma finish_code_cons (slashes : ∀ r', c = '/' → r = '/' :: r' → False)
    (stars : ∀ r', c = '/' → r = '*' :: r' → False) :
    finish style .code (c :: r) =
      if isQuote c then finish style (.literal c) r
      else if style.hash && c == '#' then none
      else finish style .code r := by
  rw [finish]
  · exact slashes
  · exact stars

/-- A character of a block comment that does not close it with the next. -/
lemma scan_comment_cons (on : ∀ r', c = '*' → r = '/' :: r' → False) :
    scan style .comment (c :: r) = scan style .comment r := by
  rw [scan]
  exact on

lemma finish_comment_cons (on : ∀ r', c = '*' → r = '/' :: r' → False) :
    finish style .comment (c :: r) = finish style .comment r := by
  rw [finish]
  exact on

end Step

/-- What two characters do not begin, they do not begin with more behind them, if that does not
begin with the second. -/
lemma not_begins_append {c d e : Char} {r z : Text} (here : ∀ r', c = d → r = e :: r' → False)
    (next : z.head? ≠ some e) (r' : Text) : c = d → r ++ z = e :: r' → False := by
  intro first same
  cases r with
  | nil => exact next (congrArg List.head? same)
  | cons e' r =>
      obtain ⟨rfl, -⟩ := List.cons.inj same
      exact here r first rfl

section Append

variable {style : CommentStyle} {z : Text} (slash : z.head? ≠ some '/') (star : z.head? ≠ some '*')

include slash star

/-- **A text is scanned in parts**, wherever the second begins with neither a slash nor a star. -/
theorem scan_append (p : Position) (u : Text) :
    (scan style p (u ++ z)).1 =
      (scan style p u).1 ++ ((finish style p u).elim [] fun q => (scan style q z).1) := by
  fun_induction finish style p u with
  | case1 p => cases p <;> rfl
  | case3 c r on ih =>
      rw [List.cons_append, scan_comment_cons (not_begins_append on slash), scan_comment_cons on,
        ih]
  | case12 c r slashes stars quote ih =>
      rw [List.cons_append, scan_code_cons (not_begins_append slashes slash)
        (not_begins_append stars star), scan_code_cons slashes stars, if_pos quote, if_pos quote]
      simp [emit, ih]
  | case13 c r slashes stars quote hash =>
      rw [List.cons_append, scan_code_cons (not_begins_append slashes slash)
        (not_begins_append stars star), scan_code_cons slashes stars, if_neg quote, if_neg quote,
        if_pos hash, if_pos hash]
      rfl
  | case14 c r slashes stars quote hash ih =>
      rw [List.cons_append, scan_code_cons (not_begins_append slashes slash)
        (not_begins_append stars star), scan_code_cons slashes stars, if_neg quote, if_neg quote,
        if_neg hash, if_neg hash]
      simp [emit, ih]
  | _ => simp_all [scan, emit]

lemma finish_append (p : Position) (u : Text) :
    finish style p (u ++ z) = (finish style p u).bind fun q => finish style q z := by
  fun_induction finish style p u with
  | case1 p => rfl
  | case3 c r on ih =>
      rw [List.cons_append, finish_comment_cons (not_begins_append on slash), ih]
  | case12 c r slashes stars quote ih =>
      rw [List.cons_append, finish_code_cons (not_begins_append slashes slash)
        (not_begins_append stars star), if_pos quote, ih]
  | case13 c r slashes stars quote hash =>
      rw [List.cons_append, finish_code_cons (not_begins_append slashes slash)
        (not_begins_append stars star), if_neg quote, if_pos hash]
      rfl
  | case14 c r slashes stars quote hash ih =>
      rw [List.cons_append, finish_code_cons (not_begins_append slashes slash)
        (not_begins_append stars star), if_neg quote, if_neg hash, ih]
  | _ => simp_all [finish]

end Append

/-- A block comment is open at the end of a line exactly if the scanner is in one there. -/
lemma scan_snd (style : CommentStyle) (p : Position) (t : Text) :
    (scan style p t).2 = (finish style p t == some .comment) := by
  fun_induction finish style p t with
  | case1 p => cases p <;> rfl
  | case14 c r slashes star quote hash ih =>
      rw [scan_code_cons slashes star, if_neg quote, if_neg hash]
      exact ih
  | _ => simp_all [scan, emit]

/-! ## Comments behind a line -/

/-- **A line that ends outside literals and block comments.** -/
def EndsOutside (language : Language) (line : Text) : Prop :=
  ∀ p, finish (.of language) .code line = some p → p = .code

instance (language : Language) (line : Text) : Decidable (EndsOutside language line) :=
  decidable_of_iff (finish (.of language) .code line = none ∨
      finish (.of language) .code line = some .code) <| by
    unfold EndsOutside
    cases finish (.of language) .code line <;> simp

/-- Characters that neither open a literal nor begin a comment. -/
def isUnmarked (c : Char) : Bool := !(isQuote c || c == '/' || c == '#')

section Unmarked

variable {language : Language} {style : CommentStyle} {t : Text}

/-- Unmarked characters are code, and leave the scanner in code. -/
lemma scan_unmarked (h : ∀ c ∈ t, isUnmarked c = true) (r : Text) :
    (scan style .code (t ++ r)).1 = t.map .code ++ (scan style .code r).1 ∧
      finish style .code (t ++ r) = finish style .code r := by
  induction t with
  | nil => exact ⟨rfl, rfl⟩
  | cons c t ih =>
      rw [List.forall_mem_cons] at h
      obtain ⟨lexemes, position⟩ := ih h.2
      have plain := h.1
      simp only [isUnmarked, Bool.not_eq_true', Bool.or_eq_false_iff, beq_eq_false_iff_ne] at plain
      obtain ⟨⟨quote, slash⟩, hash⟩ := plain
      rw [List.cons_append, scan_code_cons (fun _ same => absurd same slash)
        (fun _ same => absurd same slash), finish_code_cons (fun _ same => absurd same slash)
        (fun _ same => absurd same slash)]
      simp [quote, hash, emit, lexemes, position]

lemma endsOutside_unmarked (h : ∀ c ∈ t, isUnmarked c = true) (r : Text) :
    EndsOutside language (t ++ r) ↔ EndsOutside language r := by
  rw [EndsOutside, EndsOutside, (scan_unmarked h r).2]

lemma outline_unmarked (h : ∀ c ∈ t, isUnmarked c = true) (r : Text) :
    outline language .code (t ++ r) = t ++ outline language .code r := by
  rw [outline, (scan_unmarked h r).1, List.filterMap_append, ← outline]
  simp [Lexeme.outline, Function.comp_def]

end Unmarked

/-- What begins a comment that ends with its line. -/
def lineMark (language : Language) : Text := if language.usesBraces then "//" else "#"

/-- What may stand between the text of a statement and a comment: blanks and terminators. -/
def isPause (c : Char) : Bool := isBlank c || c == ';'

section Pause

variable {language : Language} {style : CommentStyle} {p q : Position} {c d : Char} {gap : Text}

/-- A character that is no pause is none of the pauses. -/
lemma ne_of_isPause (h : isPause c = true) (other : isPause d = false) : c ≠ d := by
  rintro rfl
  rw [h] at other
  cases other

lemma isPause_of_isAllBlank (h : isAllBlank gap = true) : ∀ c ∈ gap, isPause c = true := by
  intro c hc
  simp [isPause, List.all_eq_true.1 h c hc]

lemma isUnmarked_of_isPause (h : isPause c = true) : isUnmarked c = true := by
  simp [isUnmarked, isQuote, ne_of_isPause h (d := '"') (by decide),
    ne_of_isPause h (d := '\'') (by decide), ne_of_isPause h (d := '/') (by decide),
    ne_of_isPause h (d := '#') (by decide)]

lemma head?_ne_of_isPause (h : ∀ c ∈ gap, isPause c = true) (apart : gap ≠ [])
    (other : isPause d = false) (r : Text) : (gap ++ r).head? ≠ some d := by
  obtain ⟨c, gap, rfl⟩ := List.exists_cons_of_ne_nil apart
  intro same
  exact ne_of_isPause (h c List.mem_cons_self) other (Option.some.inj same)

/-- Literals are opened by quotes, wherever the scanner has got to. -/
lemma finish_proper {t : Text} (h : p = .comment ∨ p.Proper) (found : finish style p t = some q) :
    q = .comment ∨ q.Proper := by
  fun_induction finish style p t with
  | case1 p =>
      cases found
      exact h
  | case8 | case13 => cases found
  | case12 c r _ _ quote ih => exact ih (.inr quote) found
  | _ => simp_all [Position.Proper]

/-- Pauses do not lead out of literals and block comments. -/
lemma finish_ne_code (proper : p = .comment ∨ p.Proper) (inside : p ≠ .code)
    (h : ∀ c ∈ gap, isPause c = true) : ∃ q, finish style p gap = some q ∧ q ≠ .code := by
  induction gap generalizing p with
  | nil =>
      exact ⟨p, finish_nil p, inside⟩
  | cons c gap ih =>
      rw [List.forall_mem_cons] at h
      cases p with
      | code => exact absurd rfl inside
      | comment =>
          have star := ne_of_isPause h.1 (d := '*') (by decide)
          rw [finish_comment_cons fun _ same => absurd same star]
          exact ih proper inside h.2
      | escaped q =>
          rw [finish]
          exact ih (.inr (proper.resolve_left nofun)) nofun h.2
      | literal q =>
          have backslash := ne_of_isPause h.1 (d := '\\') (by decide)
          have quote : isQuote q = true := proper.resolve_left nofun
          have other : c ≠ q := by
            rintro rfl
            have unmarked := isUnmarked_of_isPause h.1
            simp [isUnmarked, quote] at unmarked
          rw [finish, if_neg backslash, if_neg other]
          exact ih proper nofun h.2

variable {u : Text}

/-- What a line holds between its indentation and the pauses at its end, it leaves in code too. -/
lemma EndsOutside.of_padded {left right : Text} (h : EndsOutside language (left ++ (u ++ right)))
    (blank : isAllBlank left = true) (pauses : ∀ c ∈ right, isPause c = true) :
    EndsOutside language u := by
  intro p found
  by_contra inside
  obtain ⟨q, later, other⟩ :=
    finish_ne_code (finish_proper (.inr Position.proper_code) found) inside pauses
  refine other (h q ?_)
  have unmarked : ∀ c ∈ left, isUnmarked c = true := fun c hc =>
    isUnmarked_of_isPause (isPause_of_isAllBlank blank c hc)
  rw [(scan_unmarked unmarked _).2]
  cases right with
  | nil =>
      rw [finish_nil] at later
      rw [List.append_nil, found, later]
  | cons c right =>
      have next : ∀ d, isPause d = false → (c :: right).head? ≠ some d := fun d different =>
        List.append_nil (c :: right) ▸ head?_ne_of_isPause pauses nofun different []
      rw [finish_append (next '/' rfl) (next '*' rfl), found]
      exact later

/-- **A comment behind a text that ends outside literals and block comments opens and closes no
parenthesis.** -/
theorem parenBalance_remark (h : EndsOutside language u) (apart : gap ≠ [])
    (pauses : ∀ c ∈ gap, isPause c = true) (remark : Text) :
    parenBalance language (u ++ (gap ++ (lineMark language ++ remark))) =
      parenBalance language u := by
  have next : ∀ d, isPause d = false →
      (gap ++ (lineMark language ++ remark)).head? ≠ some d :=
    fun d different => head?_ne_of_isPause pauses apart different _
  have silent : outline language .code (lineMark language ++ remark) = [] := by
    unfold lineMark
    split
    · exact outline_slashes ‹_› remark
    · exact outline_hash (Bool.eq_false_iff.2 ‹_›) remark
  have behind : outline language .code (gap ++ (lineMark language ++ remark)) = gap := by
    rw [outline_unmarked fun c hc => isUnmarked_of_isPause (pauses c hc), silent, List.append_nil]
  have unpaired : ∀ d, isPause d = false → gap.count d = 0 := fun d different =>
    List.count_eq_zero.2 fun here => ne_of_isPause (pauses d here) different rfl
  have stripped : strip language (u ++ (gap ++ (lineMark language ++ remark))) =
      strip language u ++ ((finish (.of language) .code u).elim [] fun _ => gap) := by
    simp only [strip, lexemes, Bool.false_eq_true, if_false]
    rw [scan_append (next '/' rfl) (next '*' rfl), List.filterMap_append]
    cases found : finish (.of language) .code u with
    | none => rfl
    | some q =>
        rw [h q found]
        exact congrArg _ behind
  rw [parenBalance, stripped]
  cases finish (.of language) .code u with
  | none => simp [parenBalance]
  | some q => simp [parenBalance, balance, unpaired '(' rfl, unpaired ')' rfl]

end Pause

end SnippetLab.Source

import SnippetLab.Proofs.Source.Uncomment

/-!
# Reading a text as a whole

Comments are cut out of a text line by line, looking one character ahead.  Here the same is done to
the whole text, line ends included, **one character after another**: a character changes the place
where the reader stands, and leaves something of itself or nothing.  A slash that may begin a comment
is held back until the next character decides.

* `Place`, `Place.next`, `Place.after` — where a reader stands, after a character and after a text.
* `Place.leaves`, `cleared` — what a character leaves, and a whole text.
* `cleared_append` — a text is read in parts.
* `cleared_line` — **a line is left as its comments are cut out of it**, and a comment that is open
  at its end is open in the next.
* `cleared_ordinary`, `cleared_feed` — what other characters leave, and where they take the reader.
-/

namespace SnippetLab.Source

/-! ## Places -/

/-- Where a reader of a text stands. -/
inductive Place where
  /-- In code. -/
  | code
  /-- In code, just after a slash. -/
  | slash
  /-- In a comment that ends with its line. -/
  | remark
  /-- In a block comment. -/
  | comment
  /-- In a block comment, just after a star. -/
  | star
  /-- In a literal opened by `quote`. -/
  | literal (quote : Char)
  /-- In a literal opened by `quote`, just after a backslash. -/
  | escaped (quote : Char)
  deriving DecidableEq

namespace Place

/-- The place after a character of code. -/
def entered (c : Char) : Place :=
  if Text.isQuote c then .literal c
  else if c = '#' then .remark
  else if c = '/' then .slash
  else .code

/-- **The place after a character.**  Literals and remarks end with their line, block comments do
not. -/
def next : Place → Char → Place
  | .code, c => entered c
  | .slash, c => if c = '/' then .remark else if c = '*' then .comment else entered c
  | .remark, c => if c = '\n' then .code else .remark
  | .comment, c => if c = '*' then .star else .comment
  | .star, c => if c = '/' then .code else if c = '*' then .star else .comment
  | .literal q, c =>
    if c = '\n' then .code
    else if c = '\\' then .escaped q
    else if c = q then .code
    else .literal q
  | .escaped q, c => if c = '\n' then .code else .literal q

/-- **The place after a text.** -/
def after (p : Place) (t : Text) : Place := t.foldl next p

/-- What is left of a character of code, at once. -/
def entry (c : Char) : Text := if c = '#' ∨ c = '/' then [] else [c]

/-- What has been held back. -/
def pending : Place → Text
  | .slash => ['/']
  | _ => []

/-- **What a character leaves** when comments are cut out: a closed block comment leaves a space, and
the ends of lines stay. -/
def leaves : Place → Char → Text
  | .code, c => entry c
  | .slash, c => if c = '/' ∨ c = '*' then [] else '/' :: entry c
  | .remark, c | .comment, c => if c = '\n' then [c] else []
  | .star, c => if c = '/' then [' '] else if c = '\n' then [c] else []
  | .literal _, c | .escaped _, c => [c]

end Place

/-- What the characters of a text leave, one after another. -/
def leavings (p : Place) : Text → Text
  | [] => []
  | c :: r => p.leaves c ++ leavings (p.next c) r

/-- **What is left of a text without its comments**, read from a place on. -/
def cleared (p : Place) (t : Text) : Text := leavings p t ++ (p.after t).pending

lemma cleared_nil (p : Place) : cleared p [] = p.pending := rfl

lemma cleared_cons (p : Place) (c : Char) (r : Text) :
    cleared p (c :: r) = p.leaves c ++ cleared (p.next c) r := List.append_assoc _ _ _

/-- **A text is read in parts.** -/
lemma cleared_append (p : Place) (t rest : Text) :
    cleared p (t ++ rest) = leavings p t ++ cleared (p.after t) rest := by
  induction t generalizing p with
  | nil => rfl
  | cons c r ih => rw [List.cons_append, cleared_cons, ih, leavings, List.append_assoc]; rfl

/-! ## Lines -/

/-- The place of the line scanner, for a reader of the whole text. -/
def Position.place : Position → Place
  | .code => .code
  | .comment => .comment
  | .literal q => .literal q
  | .escaped q => .escaped q

/-- Where a line begins: in code, or in a block comment that is open. -/
def Place.atLine (inComment : Bool) : Place := if inComment then .comment else .code

/-- Does a text begin where a line ends? -/
def EndsLine (rest : Text) : Prop := ∀ c ∈ rest.head?, c = '\n'

section

variable {r rest : Text}

lemma EndsLine.eq_nil_or_cons (h : EndsLine rest) : rest = [] ∨ ∃ later, rest = '\n' :: later := by
  cases rest with
  | nil => exact Or.inl rfl
  | cons c later =>
      obtain rfl := h c rfl
      exact Or.inr ⟨later, rfl⟩

/-- A character that neither begins a text nor ends a line does not come next. -/
lemma EndsLine.head_append (h : EndsLine rest) {d : Char} (feed : d ≠ '\n')
    (other : r.head? ≠ some d) : (r ++ rest).head? ≠ some d := by
  cases r with
  | nil => exact fun next => feed (h d next)
  | cons c r => exact other

/-- A literal ends with its line. -/
lemma cleared_literal (ends : EndsLine rest) (q : Char) :
    cleared (.literal q) rest = cleared .code rest ∧
      cleared (.escaped q) rest = cleared .code rest := by
  rcases ends.eq_nil_or_cons with rfl | ⟨later, rfl⟩
  · exact ⟨rfl, rfl⟩
  · exact ⟨rfl, rfl⟩

/-- Of a remark nothing is left. -/
lemma cleared_remark (whole : '\n' ∉ r) (ends : EndsLine rest) :
    cleared .remark (r ++ rest) = cleared .code rest := by
  induction r with
  | nil =>
      rcases ends.eq_nil_or_cons with rfl | ⟨later, rfl⟩
      · rfl
      · rfl
  | cons c r ih =>
      rw [List.mem_cons, not_or] at whole
      have other : c ≠ '\n' := Ne.symm whole.1
      rw [List.cons_append, cleared_cons, Place.leaves, Place.next, if_neg other, if_neg other,
        List.nil_append, ih whole.2]

/-- A star that no slash follows is like any other character of a comment. -/
lemma cleared_star {t : Text} (goesOn : t.head? ≠ some '/') :
    cleared .star t = cleared .comment t := by
  cases t with
  | nil => rfl
  | cons c r =>
      have other : c ≠ '/' := by simpa using goesOn
      rw [cleared_cons, cleared_cons]
      simp only [Place.leaves, Place.next, if_neg other]

/-- A slash that opens no comment is left, and the reader is in code. -/
lemma cleared_slash {t : Text} (slash : t.head? ≠ some '/') (star : t.head? ≠ some '*') :
    cleared .slash t = '/' :: cleared .code t := by
  cases t with
  | nil => rfl
  | cons c r =>
      have noSlash : c ≠ '/' := by simpa using slash
      have noStar : c ≠ '*' := by simpa using star
      rw [cleared_cons, cleared_cons]
      simp only [Place.leaves, Place.next, noSlash, noStar, or_self, if_false, List.cons_append]

/-- **A character that opens no comment is left**, and the reader passes on as the line scanner
does. -/
lemma cleared_of_not_opens {p : Position} (outside : p ≠ .comment) {c : Char} (inside : c ≠ '\n')
    (h : p = .code → ¬OpensComment c r) :
    cleared p.place (c :: r) = c :: cleared (p.after c).place r := by
  rw [cleared_cons]
  cases p with
  | comment => exact absurd rfl outside
  | escaped q =>
      simp only [Position.place, Place.leaves, Place.next, if_neg inside, Position.after,
        List.singleton_append]
  | literal q =>
      simp only [Position.place, Place.leaves, Place.next, if_neg inside, Position.after,
        List.singleton_append]
      split
      · rfl
      · split
        · rfl
        · rfl
  | code =>
      have none := h rfl
      rw [OpensComment, not_or, not_and_or, not_or] at none
      obtain ⟨hash, opens⟩ := none
      by_cases slash : c = '/'
      · subst slash
        obtain ⟨noSlash, noStar⟩ := opens.resolve_left (not_not_intro rfl)
        exact cleared_slash noSlash noStar
      · simp only [Position.place, Place.leaves, Place.next, Place.entry, Place.entered, hash, slash,
          or_self, if_false, Position.after, List.singleton_append]
        split
        · rfl
        · rfl

/-- What is left of a line that has been scanned, and of what follows it. -/
def leftWith (scanned : List Lexeme × Bool) (rest : Text) : Text :=
  scanned.1.filterMap Lexeme.text ++ cleared (.atLine scanned.2) rest

lemma leftWith_emit {l : Lexeme} {c : Char} (left : l.text = some c)
    (scanned : List Lexeme × Bool) (rest : Text) :
    leftWith (emit l scanned) rest = c :: leftWith scanned rest := by
  rw [leftWith, emit, List.filterMap_cons_some left]
  rfl

end

/-- A character is kept by the line scanner and by the reader. -/
lemma cleared_emit {p q : Position} (outside : p ≠ .comment) {c : Char} {r rest : Text}
    (whole : '\n' ∉ c :: r) (h : p = .code → ¬OpensComment c (r ++ rest)) (next : p.after c = q)
    {l : Lexeme} (left : l.text = some c)
    (ih : '\n' ∉ r → cleared q.place (r ++ rest) = leftWith (scan ⟨true, true⟩ q r) rest) :
    cleared p.place (c :: r ++ rest) = leftWith (emit l (scan ⟨true, true⟩ q r)) rest := by
  rw [List.mem_cons, not_or] at whole
  rw [List.cons_append, cleared_of_not_opens outside (Ne.symm whole.1) h, next, ih whole.2,
    leftWith_emit left]

lemma head_ne {t : Text} {d : Char} (other : ∀ r, t = d :: r → False) : t.head? ≠ some d := by
  intro next
  obtain ⟨r, same⟩ := List.head?_eq_some_iff.1 next
  exact other r same

/-- What opens no comment on a line opens none with what follows the line. -/
lemma EndsLine.not_opensComment {rest : Text} (ends : EndsLine rest) {c : Char} {r : Text}
    (hash : c ≠ '#') (slash : ∀ r', c = '/' → r = '/' :: r' → False)
    (star : ∀ r', c = '/' → r = '*' :: r' → False) : ¬OpensComment c (r ++ rest) := by
  rintro (h | ⟨is, next | next⟩)
  · exact hash h
  · exact ends.head_append (by decide) (head_ne fun r' => slash r' is) next
  · exact ends.head_append (by decide) (head_ne fun r' => star r' is) next

/-- **A line is left as the line scanner leaves it**, and what follows is read from where that
stops. -/
theorem cleared_line (p : Position) {line rest : Text} (whole : '\n' ∉ line) (ends : EndsLine rest) :
    cleared p.place (line ++ rest) = leftWith (scan ⟨true, true⟩ p line) rest := by
  fun_induction scan ⟨true, true⟩ p line with
  | case1 | case2 => rfl
  | case3 q => exact (cleared_literal ends q).1
  | case4 q => exact (cleared_literal ends q).2
  | case5 r ih =>
      -- a block comment is closed, and leaves a space
      rw [leftWith_emit (c := ' ') rfl, ← ih (by simp_all)]
      rfl
  | case6 c r goesOn ih =>
      rw [List.mem_cons, not_or] at whole
      rw [← ih whole.2]
      by_cases star : c = '*'
      · subst star
        exact cleared_star (ends.head_append (by decide) (head_ne fun r' => goesOn r' rfl))
      · show cleared .comment (c :: (r ++ rest)) = _
        rw [cleared_cons, Place.leaves, Place.next, if_neg (Ne.symm whole.1), if_neg star]
        rfl
  | case7 q c r ih => exact cleared_emit (p := .escaped q) (by simp) whole (by simp) rfl rfl ih
  | case8 q r ih =>
      exact cleared_emit (p := .literal q) (by simp) whole (by simp) (by simp [Position.after]) rfl ih
  | case9 c r backslash ih =>
      exact cleared_emit (p := .literal c) (by simp) whole (by simp)
        (by simp [Position.after, backslash]) rfl ih
  | case10 q c r backslash other ih =>
      exact cleared_emit (p := .literal q) (by simp) whole (by simp)
        (by simp [Position.after, backslash, other]) rfl ih
  | case11 r =>
      -- the rest of the line is a remark
      exact cleared_remark (by simp_all) ends
  | case12 r never => exact absurd rfl never
  | case13 r _ ih => exact ih (by simp_all)
  | case14 r never => exact absurd rfl never
  | case15 c r slash star quote ih =>
      have hash : c ≠ '#' := by
        rintro rfl
        cases quote
      exact cleared_emit (p := .code) (by simp) whole
        (fun _ => ends.not_opensComment hash slash star) (by simp [Position.after, quote]) rfl ih
  | case16 c r slash star plain hash =>
      obtain rfl : c = '#' := by simpa using hash
      exact cleared_remark (by simp_all) ends
  | case17 c r slash star plain hash ih =>
      exact cleared_emit (p := .code) (by simp) whole
        (fun _ => ends.not_opensComment (by simpa using hash) slash star)
        (by simp [Position.after, plain]) rfl ih

/-- A character leaves nothing but itself, a slash held back and the space of a comment. -/
lemma Place.mem_leaves {p : Place} {c d : Char} (h : d ∈ p.leaves c) :
    d = c ∨ d = '/' ∨ d = ' ' := by
  cases p with
  | _ => grind [leaves, entry]

/-- Reading a line brings in no line feed. -/
lemma feed_not_mem_cleared (p : Place) {line : Text} (whole : '\n' ∉ line) :
    '\n' ∉ cleared p line := by
  induction line generalizing p with
  | nil =>
      cases p with
      | _ => simp [cleared_nil, Place.pending]
  | cons c r ih =>
      rw [List.mem_cons, not_or] at whole
      rw [cleared_cons, List.mem_append, not_or]
      refine ⟨fun left => ?_, ih _ whole.2⟩
      rcases Place.mem_leaves left with same | slash | space
      · exact whole.1 same
      · exact absurd slash (by decide)
      · exact absurd space (by decide)

/-- Nor does cutting the comments out of one. -/
lemma feed_not_mem_kept (p : Position) {line : Text} (whole : '\n' ∉ line) :
    '\n' ∉ kept p line := by
  have read := cleared_line p whole (show EndsLine [] from nofun)
  have left : cleared p.place line = kept p line := by
    rw [List.append_nil, leftWith, cleared_nil] at read
    rw [read, kept]
    cases (scan ⟨true, true⟩ p line).2 with
    | _ => exact List.append_nil _
  rw [← left]
  exact feed_not_mem_cleared p.place whole

/-! ## Characters that a reader passes -/

/-- Characters that a reader does not look out for. -/
def Ordinary (c : Char) : Prop :=
  Text.isQuote c = false ∧ c ∉ (['\\', '#', '/', '*', '\n'] : Text)

/-- A blank that ends no line is ordinary. -/
lemma ordinary_of_isBlank {c : Char} (blank : Text.isBlank c = true) (inside : c ≠ '\n') :
    Ordinary c := by
  have other := Text.of_isBlank
    (p := fun c => !Text.isQuote c && !(['\\', '#', '/', '*'].contains c)) (by decide) blank
  simp only [Bool.and_eq_true, Bool.not_eq_true', List.contains_eq_mem, decide_eq_false_iff_not]
    at other
  refine ⟨other.1, fun found => ?_⟩
  rcases List.mem_append.1 (show c ∈ ['\\', '#', '/', '*'] ++ ['\n'] from found) with mark | feed
  · exact other.2 mark
  · exact inside (List.mem_singleton.1 feed)

namespace Place

/-- A literal is opened by a quote. -/
def Proper : Place → Prop
  | .literal q | .escaped q => Text.isQuote q = true
  | _ => True

/-- In a comment, which leaves nothing of what it holds. -/
def isSilent : Place → Bool
  | .remark | .comment | .star => true
  | _ => false

/-- The place after an ordinary character. -/
def settled : Place → Place
  | .slash => .code
  | .star => .comment
  | .escaped q => .literal q
  | p => p

/-- The place after a line feed. -/
def fed : Place → Place
  | .comment | .star => .comment
  | _ => .code

section

variable {p : Place}

lemma proper_entered (c : Char) : (entered c).Proper := by
  unfold entered
  split
  · rename_i quote
    exact quote
  · split
    · trivial
    · split
      · trivial
      · trivial

lemma Proper.next (h : p.Proper) (c : Char) : (p.next c).Proper := by
  have entered := proper_entered c
  cases p with
  | code => exact entered
  | slash | remark | comment | star => grind [Place.next, Proper]
  | literal q | escaped q =>
      have quote : Text.isQuote q = true := h
      grind [Place.next, Proper]

lemma Proper.after (h : p.Proper) (t : Text) : (p.after t).Proper := by
  induction t generalizing p with
  | nil => exact h
  | cons c r ih => exact ih (h.next c)

lemma Proper.settled (h : p.Proper) : p.settled.Proper := by
  cases p with
  | _ => exact h

lemma proper_fed : p.fed.Proper := by
  cases p with
  | _ => trivial

lemma proper_atLine (inComment : Bool) : (atLine inComment).Proper := by
  cases inComment with
  | _ => trivial

@[simp] lemma settled_settled : p.settled.settled = p.settled := by
  cases p with
  | _ => rfl

@[simp] lemma isSilent_settled : p.settled.isSilent = p.isSilent := by
  cases p with
  | _ => rfl

@[simp] lemma pending_settled : p.settled.pending = [] := by
  cases p with
  | _ => rfl

@[simp] lemma fed_settled : p.settled.fed = p.fed := by
  cases p with
  | _ => rfl

@[simp] lemma pending_fed : p.fed.pending = [] := by
  cases p with
  | _ => rfl

@[simp] lemma settled_fed : p.fed.settled = p.fed := by
  cases p with
  | _ => rfl

@[simp] lemma fed_fed : p.fed.fed = p.fed := by
  cases p with
  | _ => rfl

/-- **An ordinary character leaves what was held back, and itself** outside comments. -/
lemma read_ordinary (proper : p.Proper) {c : Char} (ordinary : Ordinary c) :
    p.next c = p.settled ∧ p.leaves c = p.pending ++ if p.isSilent then [] else [c] := by
  obtain ⟨quote, unmarked⟩ := ordinary
  simp only [List.mem_cons, List.not_mem_nil, or_false, not_or] at unmarked
  obtain ⟨backslash, hash, slash, star, feed⟩ := unmarked
  have code : entered c = .code ∧ entry c = [c] := by simp [entered, entry, quote, hash, slash]
  cases p with
  | code => exact code
  | slash => simp [leaves, next, pending, isSilent, settled, code, slash, star]
  | remark | comment | star => simp [leaves, next, pending, isSilent, settled, slash, star, feed]
  | literal q =>
      have other : c ≠ q := by
        rintro rfl
        have opens : Text.isQuote c = true := proper
        rw [quote] at opens
        cases opens
      simp [leaves, next, pending, isSilent, settled, backslash, feed, other]
  | escaped q => simp [leaves, next, pending, isSilent, settled, feed]

end

end Place

/-- **After an ordinary character the reader is settled.** -/
lemma cleared_ordinary {p : Place} (proper : p.Proper) {c : Char} (ordinary : Ordinary c)
    (r : Text) :
    cleared p (c :: r) = p.pending ++ (if p.isSilent then [] else [c]) ++ cleared p.settled r := by
  obtain ⟨next, left⟩ := Place.read_ordinary proper ordinary
  rw [cleared_cons, next, left]

/-- **A line feed leaves what was held back, and itself.** -/
lemma cleared_feed (p : Place) (r : Text) :
    cleared p ('\n' :: r) = p.pending ++ '\n' :: cleared p.fed r := by
  cases p with
  | _ => rfl

end SnippetLab.Source

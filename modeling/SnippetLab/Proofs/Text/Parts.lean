import Mathlib.Data.List.Basic
import Mathlib.Data.List.TakeWhile
import Mathlib.Tactic.Lemma
import SnippetLab.Text.Classes

/-!
# Parts of a text are parts of it

Whatever a text is cut into, every piece stands in it: without a beginning or an ending, between
separators or line ends, around an occurrence, trimmed.  A part that stands in the text as one
stretch is an *infix* (`<:+:`), so that parts of parts are parts (`List.IsInfix.trans`).

* `has_iff` — a text has a piece exactly if the piece is an infix of it.
* `Solid` — not empty and with no blank at either end; such texts are what trimming gives back.
* `splitFirst_append` — what comes before a class of characters is passed on the way to it.
* `PiecesOf` — pieces that stand in a text, the first of them at its beginning; lines and the parts
  between separators are such pieces.
* `whole_of_mem_occurrences` — every occurrence found stands in the text searched.
-/

namespace SnippetLab

namespace Text

/-! ## Beginnings and endings -/

lemma dropStart?_eq_some {t p rest : Text} : t.dropStart? p = some rest ↔ p ++ rest = t :=
  List.isPrefixOf?_eq_some_iff_append_eq

lemma dropEnd?_eq_some {t p rest : Text} : t.dropEnd? p = some rest ↔ rest ++ p = t := by
  unfold dropEnd? List.isSuffixOf?
  rw [Option.map_eq_some_iff]
  constructor
  · rintro ⟨back, cut, rfl⟩
    have reversed := List.isPrefixOf?_eq_some_iff_append_eq.1 cut
    rw [← List.reverse_inj, ← reversed, List.reverse_append, List.reverse_reverse]
  · rintro rfl
    refine ⟨rest.reverse, ?_, List.reverse_reverse rest⟩
    rw [List.isPrefixOf?_eq_some_iff_append_eq, List.reverse_append]

lemma startsWith_iff {t p : Text} : t.startsWith p = true ↔ p <+: t :=
  List.isPrefixOf_iff_prefix

lemma startsWith_eq_false_iff {t p : Text} : t.startsWith p = false ↔ ¬ p <+: t := by
  rw [← Bool.not_eq_true, startsWith_iff]

/-- A beginning that does not hold a mark ends before the mark. -/
lemma isPrefix_of_append_cons {p left right : Text} {mark : Char} (plain : mark ∉ p)
    (h : p <+: left ++ mark :: right) : p <+: left := by
  rcases List.prefix_or_prefix_of_prefix h (List.prefix_append left (mark :: right)) with
    within | ⟨more, rfl⟩
  · exact within
  · cases more with
    | nil => simp
    | cons c r =>
        have same : c = mark :=
          (List.cons_prefix_cons.1 ((List.prefix_append_right_inj left).1 h)).1
        exact absurd (List.mem_append_right left (same ▸ List.mem_cons_self)) plain

/-- No text begins with another first character than its own. -/
lemma dropStart?_cons_eq_none {c d : Char} (h : c ≠ d) (r p : Text) :
    dropStart? (c :: r) (d :: p) = none := by
  cases found : dropStart? (c :: r) (d :: p) with
  | none => rfl
  | some rest => exact absurd (List.cons.inj (dropStart?_eq_some.1 found)).1 h.symm

/-- No text ends with another last character than its own. -/
lemma dropEnd?_concat_eq_none {c d : Char} (h : c ≠ d) (r p : Text) :
    dropEnd? (r ++ [c]) (p ++ [d]) = none := by
  cases found : dropEnd? (r ++ [c]) (p ++ [d]) with
  | none => rfl
  | some rest =>
      have whole := dropEnd?_eq_some.1 found
      rw [← List.append_assoc] at whole
      exact absurd (List.cons.inj (List.append_inj_right' whole rfl)).1 h.symm

/-- The last character of a text is that of its last part. -/
lemma dropEnd?_append {right : Text} (nonempty : right ≠ []) (left : Text) (c : Char) :
    dropEnd? (left ++ right) [c] = (dropEnd? right [c]).map (left ++ ·) := by
  obtain ⟨r, d, rfl⟩ := (List.eq_nil_or_concat' right).resolve_left nonempty
  rw [← List.append_assoc]
  by_cases same : d = c
  · subst same
    rw [dropEnd?_eq_some.2 rfl, dropEnd?_eq_some.2 rfl]
    rfl
  · have other : dropEnd? (r ++ [d]) [c] = none := dropEnd?_concat_eq_none same r []
    have whole : dropEnd? (left ++ r ++ [d]) [c] = none :=
      dropEnd?_concat_eq_none same (left ++ r) []
    rw [other, whole]
    rfl

lemma endsWith_concat (t : Text) (c d : Char) : endsWith (t ++ [d]) [c] = (c == d) := by
  simp [endsWith, List.isSuffixOf, List.isPrefixOf]

lemma endsWith_append {right : Text} (nonempty : right ≠ []) (left : Text) (c : Char) :
    endsWith (left ++ right) [c] = endsWith right [c] := by
  obtain ⟨r, d, rfl⟩ := (List.eq_nil_or_concat' right).resolve_left nonempty
  rw [← List.append_assoc, endsWith_concat, endsWith_concat]

lemma trimStart_isSuffix (t : Text) : t.trimStart <:+ t := List.dropWhile_suffix _

lemma dropEndWhile_isPrefix (t : Text) (p : Char → Bool) : t.dropEndWhile p <+: t := by
  have reversed : t.reverse.dropWhile p <:+ t.reverse := List.dropWhile_suffix _
  rw [← List.reverse_prefix, List.reverse_reverse] at reversed
  exact reversed

/-- What stands before a character of another kind is out of reach of dropping from the end. -/
lemma dropEndWhile_append_cons {p : Char → Bool} {d : Char} (stops : p d = false)
    (left rest : Text) : dropEndWhile (left ++ d :: rest) p = left ++ d :: dropEndWhile rest p := by
  have kept : (d :: left.reverse).dropWhile p = d :: left.reverse :=
    List.dropWhile_cons_of_neg (by simp [stops])
  have back : (left ++ d :: rest).reverse = rest.reverse ++ d :: left.reverse := by simp
  rw [dropEndWhile, dropEndWhile, back, List.dropWhile_append, kept]
  split
  · rename_i none
    rw [List.isEmpty_iff.1 none, List.reverse_nil, List.reverse_cons, List.reverse_reverse]
  · simp

lemma trimEnd_isPrefix (t : Text) : t.trimEnd <+: t := dropEndWhile_isPrefix t isBlank

lemma trim_isInfix (t : Text) : t.trim <:+: t :=
  (trimEnd_isPrefix _).isInfix.trans (trimStart_isSuffix t).isInfix

/-- Parts without blanks are parts of the text without blanks. -/
lemma squeeze_isInfix {part t : Text} (h : part <:+: t) : part.squeeze <:+: t.squeeze := h.filter _

/-! ## Trimming -/

lemma trimStart_append_cons {left : Text} (blank : isAllBlank left = true) {c : Char}
    (solid : isBlank c = false) (r : Text) : trimStart (left ++ c :: r) = c :: r := by
  rw [trimStart, List.dropWhile_append_of_pos (List.all_eq_true.1 blank),
    List.dropWhile_cons_of_neg (by simp [solid])]

lemma trimEnd_append_blanks (t : Text) {blanks : Text} (blank : isAllBlank blanks = true) :
    trimEnd (t ++ blanks) = t.trimEnd := by
  have back : ∀ c ∈ blanks.reverse, isBlank c = true :=
    fun c hc => List.all_eq_true.1 blank c (List.mem_reverse.1 hc)
  rw [trimEnd, dropEndWhile, List.reverse_append, List.dropWhile_append_of_pos back]
  rfl

lemma trimEnd_append_concat (r : Text) {c : Char} (solid : isBlank c = false) {right : Text}
    (blank : isAllBlank right = true) : trimEnd (r ++ [c] ++ right) = r ++ [c] := by
  rw [trimEnd_append_blanks _ blank, trimEnd, dropEndWhile, List.reverse_concat,
    List.dropWhile_cons_of_neg (by simp [solid]), List.reverse_cons, List.reverse_reverse]

/-- Not empty, and without a blank at either end. -/
structure Solid (t : Text) : Prop where
  first : ∃ c r, t = c :: r ∧ isBlank c = false
  last : ∃ r c, t = r ++ [c] ∧ isBlank c = false

namespace Solid

lemma of_forall {t : Text} (nonempty : t ≠ []) (h : ∀ c ∈ t, isBlank c = false) : Solid t where
  first := by
    obtain ⟨c, r, rfl⟩ := List.exists_cons_of_ne_nil nonempty
    exact ⟨c, r, rfl, h c List.mem_cons_self⟩
  last := by
    refine ⟨t.dropLast, t.getLast nonempty, (List.dropLast_concat_getLast nonempty).symm, ?_⟩
    exact h _ (List.getLast_mem nonempty)

lemma singleton {c : Char} (h : isBlank c = false) : Solid [c] :=
  ⟨⟨c, [], rfl, h⟩, ⟨[], c, rfl, h⟩⟩

/-- Only the ends matter. -/
lemma append {left right : Text} (hl : Solid left) (hr : Solid right) (middle : Text) :
    Solid (left ++ (middle ++ right)) where
  first := by
    obtain ⟨c, r, rfl, solid⟩ := hl.first
    exact ⟨c, r ++ (middle ++ right), rfl, solid⟩
  last := by
    obtain ⟨r, c, rfl, solid⟩ := hr.last
    exact ⟨left ++ (middle ++ r), c, by simp, solid⟩

lemma trimStart_append {t left : Text} (h : Solid t) (blank : isAllBlank left = true)
    (right : Text) : trimStart (left ++ (t ++ right)) = t ++ right := by
  obtain ⟨c, r, rfl, solid⟩ := h.first
  exact trimStart_append_cons blank solid (r ++ right)

lemma trimEnd_append {t right : Text} (h : Solid t) (blank : isAllBlank right = true) :
    trimEnd (t ++ right) = t := by
  obtain ⟨r, c, rfl, solid⟩ := h.last
  exact trimEnd_append_concat r solid blank

/-- **Trimming takes away exactly the blanks around a solid text.** -/
theorem trim_padded {t left right : Text} (h : Solid t) (hl : isAllBlank left = true)
    (hr : isAllBlank right = true) : trim (left ++ (t ++ right)) = t := by
  rw [trim, h.trimStart_append hl, h.trimEnd_append hr]

lemma trim_append_left {t left : Text} (h : Solid t) (blank : isAllBlank left = true) :
    trim (left ++ t) = t := by
  have padded : trim (left ++ (t ++ [])) = t := h.trim_padded blank rfl
  rwa [List.append_nil] at padded

lemma trim_append_right {t right : Text} (h : Solid t) (blank : isAllBlank right = true) :
    trim (t ++ right) = t := h.trim_padded (show isAllBlank [] = true from rfl) blank

lemma trim_eq {t : Text} (h : Solid t) : t.trim = t :=
  h.trim_append_left (show isAllBlank [] = true from rfl)

lemma trimEnd_eq {t : Text} (h : Solid t) : t.trimEnd = t := by
  have padded : trimEnd (t ++ []) = t := h.trimEnd_append rfl
  rwa [List.append_nil] at padded

end Solid

/-- Of blanks alone nothing is left. -/
lemma trim_eq_nil {t : Text} (blank : isAllBlank t = true) : t.trim = [] := by
  have start : t.trimStart = [] := List.dropWhile_eq_nil_iff.2 (List.all_eq_true.1 blank)
  rw [trim, start]
  rfl

lemma trimEnd_eq_nil {t : Text} (blank : isAllBlank t = true) : t.trimEnd = [] := by
  rw [trimEnd, dropEndWhile, List.reverse_eq_nil_iff, List.dropWhile_eq_nil_iff]
  exact fun c hc => List.all_eq_true.1 blank c (List.mem_reverse.1 hc)

/-- Only blanks are trimmed away from the beginning. -/
lemma exists_blanks_trimStart (t : Text) :
    ∃ left, isAllBlank left = true ∧ t = left ++ t.trimStart := by
  refine ⟨t.takeWhile isBlank, List.all_eq_true.2 fun c hc => List.mem_takeWhile_imp hc, ?_⟩
  exact List.takeWhile_append_dropWhile.symm

/-- Only blanks are trimmed away from the end. -/
lemma exists_blanks_trimEnd (t : Text) :
    ∃ right, isAllBlank right = true ∧ t = t.trimEnd ++ right := by
  refine ⟨(t.reverse.takeWhile isBlank).reverse, ?_, ?_⟩
  · rw [isAllBlank, List.all_eq_true]
    exact fun c hc => List.mem_takeWhile_imp (List.mem_reverse.1 hc)
  · rw [trimEnd, dropEndWhile, ← List.reverse_append, List.takeWhile_append_dropWhile,
      List.reverse_reverse]

/-- **Only blanks are trimmed away.** -/
lemma exists_blanks_trim (t : Text) :
    ∃ left right, isAllBlank left = true ∧ isAllBlank right = true ∧
      t = left ++ (t.trim ++ right) := by
  obtain ⟨left, before, start⟩ := exists_blanks_trimStart t
  obtain ⟨right, behind, finish⟩ := exists_blanks_trimEnd t.trimStart
  exact ⟨left, right, before, behind, start.trans (congrArg (left ++ ·) finish)⟩

lemma not_mem_of_isAllBlank {blanks : Text} {c : Char} (h : isAllBlank blanks = true)
    (solid : isBlank c = false) : c ∉ blanks := by
  intro here
  rw [List.all_eq_true.1 h c here] at solid
  cases solid

/-- What is no blank is not trimmed away. -/
lemma mem_trimEnd {t : Text} {c : Char} (hc : c ∈ t) (solid : isBlank c = false) :
    c ∈ t.trimEnd := by
  obtain ⟨right, behind, whole⟩ := exists_blanks_trimEnd t
  rw [whole, List.mem_append] at hc
  exact hc.resolve_right (not_mem_of_isAllBlank behind solid)

lemma mem_trim {t : Text} {c : Char} (hc : c ∈ t) (solid : isBlank c = false) : c ∈ t.trim := by
  obtain ⟨left, before, whole⟩ := exists_blanks_trimStart t
  rw [whole, List.mem_append] at hc
  exact mem_trimEnd (hc.resolve_left (not_mem_of_isAllBlank before solid)) solid

/-- Before its trailing blanks a text begins as it does, up to its last solid character. -/
lemma isPrefix_trimEnd_iff {r t : Text} {c : Char} (solid : isBlank c = false) :
    r ++ [c] <+: t.trimEnd ↔ r ++ [c] <+: t := by
  constructor
  · exact fun h => h.trans (trimEnd_isPrefix t)
  · rintro ⟨rest, rfl⟩
    have back : (r ++ [c] ++ rest).reverse = rest.reverse ++ c :: r.reverse := by simp
    rw [trimEnd, dropEndWhile, ← List.reverse_suffix, List.reverse_reverse, back,
      List.reverse_concat, List.dropWhile_append]
    have kept : (c :: r.reverse).dropWhile isBlank = c :: r.reverse :=
      List.dropWhile_cons_of_neg (by simp [solid])
    split
    · exact kept.symm ▸ List.suffix_rfl
    · exact List.suffix_append ..

/-- What is left of a text without its leading blanks is empty or begins with a solid character. -/
lemma trimStart_eq_nil_or_cons (t : Text) :
    t.trimStart = [] ∨ ∃ c r, t.trimStart = c :: r ∧ isBlank c = false := by
  cases left : t.trimStart with
  | nil => exact Or.inl rfl
  | cons c r =>
      refine Or.inr ⟨c, r, rfl, ?_⟩
      have head := List.head?_dropWhile_not isBlank t
      rw [trimStart] at left
      rw [left] at head
      simpa using head

/-- Blanks put behind a text are trimmed away. -/
lemma trim_append_blanks (t : Text) {blanks : Text} (blank : isAllBlank blanks = true) :
    trim (t ++ blanks) = t.trim := by
  obtain ⟨left, before, whole⟩ := exists_blanks_trimStart t
  rcases trimStart_eq_nil_or_cons t with none | ⟨c, r, start, solid⟩
  · rw [none, List.append_nil] at whole
    have all : isAllBlank (t ++ blanks) = true := by
      rw [whole, isAllBlank, List.all_append, Bool.and_eq_true]
      exact ⟨before, blank⟩
    rw [trim_eq_nil all, trim_eq_nil (whole ▸ before)]
  · have begins : trimStart (t ++ blanks) = t.trimStart ++ blanks := by
      rw [start] at whole ⊢
      rw [whole, List.append_assoc]
      exact trimStart_append_cons before solid (r ++ blanks)
    rw [trim, begins, trimEnd_append_blanks _ blank, trim]

/-- A text is all blank if nothing is left before its trailing blanks. -/
lemma trim_eq_nil_iff {t : Text} : t.trim = [] ↔ t.trimStart = [] := by
  constructor
  · intro h
    rcases trimStart_eq_nil_or_cons t with none | ⟨c, r, left, solid⟩
    · exact none
    · have first : [c] <+: t.trim := by
        rw [trim, ← List.nil_append [c], isPrefix_trimEnd_iff solid, left]
        exact ⟨r, rfl⟩
      rw [h] at first
      exact absurd (List.eq_nil_of_prefix_nil first) (List.cons_ne_nil c [])
  · intro h
    rw [trim, h]
    rfl

/-- What is left of a text without its trailing blanks is empty or ends with a solid character. -/
lemma trimEnd_eq_nil_or_concat (t : Text) :
    t.trimEnd = [] ∨ ∃ r c, t.trimEnd = r ++ [c] ∧ isBlank c = false := by
  have mirrored : t.trimEnd = (trimStart t.reverse).reverse := rfl
  rw [mirrored]
  rcases trimStart_eq_nil_or_cons t.reverse with empty | ⟨c, r, begun, solid⟩
  · exact Or.inl (by rw [empty, List.reverse_nil])
  · exact Or.inr ⟨r.reverse, c, by rw [begun, List.reverse_cons], solid⟩

lemma solid_trimEnd_cons {c : Char} (solid : isBlank c = false) (r : Text) :
    Solid (trimEnd (c :: r)) := by
  have here : c ∈ trimEnd (c :: r) := mem_trimEnd List.mem_cons_self solid
  refine ⟨?_, (trimEnd_eq_nil_or_concat (c :: r)).resolve_left (List.ne_nil_of_mem here)⟩
  obtain ⟨d, x, begun⟩ := List.exists_cons_of_ne_nil (List.ne_nil_of_mem here)
  have first := trimEnd_isPrefix (c :: r)
  rw [begun, List.cons_prefix_cons] at first
  exact ⟨c, x, by rw [begun, first.1], solid⟩

/-- What trimming leaves is empty or solid. -/
lemma trim_eq_nil_or_solid (t : Text) : t.trim = [] ∨ Solid t.trim := by
  rcases trimStart_eq_nil_or_cons t with empty | ⟨c, r, begun, solid⟩
  · exact Or.inl (trim_eq_nil_iff.2 empty)
  · rw [trim, begun]
    exact Or.inr (solid_trimEnd_cons solid r)

/-- What stands before a solid character is out of reach of trimming the end. -/
lemma trimEnd_append_cons (left : Text) {c : Char} (solid : isBlank c = false) (r : Text) :
    trimEnd (left ++ c :: r) = left ++ trimEnd (c :: r) := by
  rw [trimEnd, dropEndWhile_append_cons solid]
  exact congrArg (left ++ ·) (dropEndWhile_append_cons solid [] r).symm

/-- Between two solid characters nothing is trimmed away. -/
lemma trim_append_cons {left : Text} (blank : isAllBlank left = true) {c d : Char}
    (first : isBlank c = false) (last : isBlank d = false) (middle rest : Text) :
    trim (left ++ c :: (middle ++ d :: rest)) = c :: (middle ++ d :: trimEnd rest) := by
  rw [trim, trimStart_append_cons blank first]
  exact dropEndWhile_append_cons last (c :: middle) rest

namespace Solid

lemma right_eq_nil {t right : Text} (h : Solid (t ++ right)) (blank : isAllBlank right = true) :
    right = [] := by
  by_contra rest
  obtain ⟨r, c, same, solid⟩ := h.last
  have last : (t ++ right).getLast? = some c := by rw [same, List.getLast?_concat]
  rw [List.getLast?_append_of_ne_nil t rest] at last
  exact not_mem_of_isAllBlank blank solid (List.mem_of_getLast? last)

lemma left_eq_nil {left t : Text} (h : Solid (left ++ t)) (blank : isAllBlank left = true) :
    left = [] := by
  by_contra rest
  obtain ⟨c, r, same, solid⟩ := h.first
  obtain ⟨d, left, rfl⟩ := List.exists_cons_of_ne_nil rest
  obtain ⟨rfl, -⟩ := List.cons.inj same
  exact not_mem_of_isAllBlank blank solid List.mem_cons_self

/-- The end of a solid text is solid if it begins so. -/
lemma of_append {left t : Text} (h : Solid (left ++ t))
    (first : ∃ c r, t = c :: r ∧ isBlank c = false) : Solid t := by
  refine ⟨first, ?_⟩
  obtain ⟨r, c, same, solid⟩ := h.last
  obtain ⟨d, s, rfl, -⟩ := first
  have last : (left ++ d :: s).getLast? = some c := by rw [same, List.getLast?_concat]
  rw [List.getLast?_append_of_ne_nil left (List.cons_ne_nil d s)] at last
  obtain ⟨rest, ends⟩ := List.getLast?_eq_some_iff.1 last
  exact ⟨rest, c, ends, solid⟩

end Solid

/-! ## The first character of a class -/

section First

variable {p : Char → Bool}

/-- What a text is cut into, with the character between, is the text. -/
lemma eq_of_splitFirst {t left right : Text} (h : t.splitFirst p = some (left, right)) :
    ∃ d, p d = true ∧ t = left ++ d :: right := by
  induction t generalizing left with
  | nil => cases h
  | cons d r ih =>
      unfold splitFirst at h
      split at h
      · rename_i here
        cases h
        exact ⟨d, here, rfl⟩
      · obtain ⟨⟨l, r'⟩, later, same⟩ := Option.map_eq_some_iff.1 h
        cases same
        obtain ⟨e, here, rfl⟩ := ih later
        exact ⟨e, here, rfl⟩

/-- What comes before the class is passed. -/
lemma splitFirst_append {w : Text} (h : ∀ c ∈ w, p c = false) (rest : Text) :
    splitFirst p (w ++ rest) =
      (splitFirst p rest).map fun (left, right) => (w ++ left, right) := by
  induction w with
  | nil => simp
  | cons c w ih =>
      rw [List.forall_mem_cons] at h
      simp [splitFirst, h.1, ih h.2, Function.comp_def]

lemma splitFirst_append_right {t left right : Text} (h : t.splitFirst p = some (left, right))
    (rest : Text) : splitFirst p (t ++ rest) = some (left, right ++ rest) := by
  induction t generalizing left with
  | nil => cases h
  | cons c r ih =>
      unfold splitFirst at h
      rw [List.cons_append, splitFirst]
      split at h
      · rename_i here
        cases h
        rw [if_pos here]
      · rename_i other
        obtain ⟨⟨l, r'⟩, found, same⟩ := Option.map_eq_some_iff.1 h
        cases same
        rw [if_neg other, ih found]
        rfl

lemma splitFirst_eq_none {t : Text} (h : ∀ c ∈ t, p c = false) : t.splitFirst p = none := by
  have passed := splitFirst_append h []
  rwa [List.append_nil] at passed

lemma splitFirst_append_cons {w : Text} (h : ∀ c ∈ w, p c = false) {d : Char} (here : p d = true)
    (rest : Text) : splitFirst p (w ++ d :: rest) = some (w, rest) := by
  rw [splitFirst_append h]
  simp [splitFirst, here]

/-- Nothing of the class, one piece. -/
lemma splitOn_eq_singleton {t : Text} (h : ∀ c ∈ t, p c = false) : t.splitOn p = [t] := by
  induction t with
  | nil => rfl
  | cons c r ih =>
      rw [List.forall_mem_cons] at h
      simp [splitOn, h.1, ih h.2, consHead]

end First

/-! ## Searching -/

/-- What is cut around a piece stands before and after it. -/
lemma append_of_cut {sep t left right : Text} (h : cut sep t = some (left, right)) :
    left ++ (sep ++ right) = t := by
  induction t generalizing left with
  | nil =>
      unfold cut at h
      split at h
      · rename_i empty
        cases h
        rw [List.isEmpty_iff.1 empty]
        rfl
      · cases h
  | cons c r ih =>
      unfold cut at h
      split at h
      · rename_i after found
        cases h
        rw [List.nil_append]
        exact dropStart?_eq_some.1 found
      · obtain ⟨⟨l, a⟩, found, same⟩ := Option.map_eq_some_iff.1 h
        cases same
        rw [List.cons_append, ih found]

/-- A text is cut at the first place where the piece stands. -/
lemma not_isInfix_of_cut {sep t left right : Text} (nonempty : sep ≠ [])
    (h : cut sep t = some (left, right)) : ¬sep <:+: left := by
  induction t generalizing left with
  | nil =>
      rw [cut, if_neg (by simpa using nonempty)] at h
      cases h
  | cons c r ih =>
      unfold cut at h
      split at h
      · cases h
        exact fun part => nonempty (List.eq_nil_of_infix_nil part)
      · rename_i missing
        obtain ⟨⟨l, after⟩, found, same⟩ := Option.map_eq_some_iff.1 h
        cases same
        rw [List.infix_cons_iff, not_or]
        refine ⟨?_, ih found⟩
        rintro ⟨rest, whole⟩
        have here : sep ++ (rest ++ (sep ++ right)) = c :: r := by
          rw [← append_of_cut found, ← List.append_assoc, whole, List.cons_append]
        rw [dropStart?_eq_some.2 here] at missing
        cases missing

/-- **A text has a piece exactly if the piece stands in it.** -/
theorem has_iff {t sep : Text} : t.has sep = true ↔ sep <:+: t := by
  constructor
  · intro h
    obtain ⟨⟨left, right⟩, found⟩ := Option.isSome_iff_exists.1 h
    exact ⟨left, right, by rw [List.append_assoc, append_of_cut found]⟩
  · intro h
    induction t with
    | nil =>
        rw [List.eq_nil_of_infix_nil h]
        rfl
    | cons c r ih =>
        unfold has cut
        split
        · rfl
        · rename_i missing
          rcases List.infix_cons_iff.1 h with here | later
          · obtain ⟨after, whole⟩ := here
            rw [dropStart?_eq_some.2 whole] at missing
            cases missing
          · rw [Option.isSome_map]
            exact ih later

/-! ## Joining -/

/-- Joined texts: the first, and each of the others with the separator before it. -/
lemma join_cons (sep a : Text) (rest : List Text) :
    Text.join sep (a :: rest) = a ++ rest.flatMap (sep ++ ·) := by
  induction rest generalizing a with
  | nil => simp [Text.join]
  | cons b rest ih =>
      rw [Text.join, List.intercalate_cons_cons, List.append_assoc, List.flatMap_cons]
      exact congrArg (a ++ ·) (by rw [List.append_assoc, ← ih]; rfl)

/-! ## Pieces -/

/-- Pieces that stand in a text, the first at its beginning. -/
structure PiecesOf (t : Text) (pieces : List Text) : Prop where
  isPrefix : ∀ p ∈ pieces.head?, p <+: t
  isInfix : ∀ p ∈ pieces, p <:+: t

namespace PiecesOf

/-- With an empty piece in front, in a text that is longer at its beginning. -/
lemma cons_nil {t : Text} {pieces : List Text} (h : PiecesOf t pieces) (start : Text) :
    PiecesOf (start ++ t) ([] :: pieces) where
  isPrefix := by
    intro p hp
    cases hp
    exact List.nil_prefix
  isInfix := by
    intro p hp
    rcases List.mem_cons.1 hp with rfl | later
    · exact List.nil_infix
    · exact (h.isInfix p later).trans (List.suffix_append start t).isInfix

/-- With a character put in front of the first piece and of the text. -/
lemma consHead {t : Text} {pieces : List Text} (h : PiecesOf t pieces) (c : Char) :
    PiecesOf (c :: t) (consHead c pieces) := by
  have front : ∀ p, p <+: t → c :: p <+: c :: t := fun p hp => List.cons_prefix_cons.2 ⟨rfl, hp⟩
  cases pieces with
  | nil =>
      have single : [c] <+: c :: t := front [] List.nil_prefix
      constructor
      · intro p hp
        cases hp
        exact single
      · intro p hp
        rw [List.mem_singleton.1 hp]
        exact single.isInfix
  | cons first rest =>
      have begun : c :: first <+: c :: t := front first (h.isPrefix first rfl)
      constructor
      · intro p hp
        cases hp
        exact begun
      · intro p hp
        rcases List.mem_cons.1 hp with rfl | later
        · exact begun.isInfix
        · exact (h.isInfix p (List.mem_cons_of_mem first later)).trans
            (List.suffix_cons c t).isInfix

end PiecesOf

lemma piecesOf_lines (t : Text) : PiecesOf t t.lines := by
  fun_induction lines t with
  | case1 => exact ⟨by simp, by simp⟩
  | case2 r ih => exact ih.cons_nil ['\n']
  | case3 r ih => exact ih.cons_nil ['\r', '\n']
  | case4 c r _ _ ih => exact ih.consHead c

lemma piecesOf_splitOn (p : Char → Bool) (t : Text) : PiecesOf t (t.splitOn p) := by
  fun_induction splitOn p t with
  | case1 => exact ⟨by simp, by simp⟩
  | case2 c r _ ih => exact ih.cons_nil [c]
  | case3 c r _ ih => exact ih.consHead c

/-- **Every line of a text stands in it.** -/
theorem isInfix_of_mem_lines {t line : Text} (h : line ∈ t.lines) : line <:+: t :=
  (piecesOf_lines t).isInfix line h

lemma isInfix_of_mem_splitOn {p : Char → Bool} {t piece : Text} (h : piece ∈ t.splitOn p) :
    piece <:+: t :=
  (piecesOf_splitOn p t).isInfix piece h

/-! ## Occurrences -/

lemma mem_occurrencesFrom {sep before t : Text} {skip : Nat} {s : Span}
    (h : s ∈ occurrencesFrom sep before skip t) :
    s.whole = before.reverse ++ t ∧ s.body = sep := by
  induction t generalizing before skip with
  | nil => cases h
  | cons c r ih =>
      have onward : ∀ {n}, s ∈ occurrencesFrom sep (c :: before) n r →
          s.whole = before.reverse ++ c :: r ∧ s.body = sep := by
        intro n later
        have found := ih later
        rw [List.reverse_cons, List.append_assoc, List.singleton_append] at found
        exact found
      unfold occurrencesFrom at h
      split at h
      · exact onward h
      · split at h
        · rename_i after found
          rcases List.mem_cons.1 h with rfl | later
          · have whole := dropStart?_eq_some.1 found
            exact ⟨by rw [Span.whole, whole], rfl⟩
          · exact onward later
        · exact onward h

/-- **Every occurrence stands in the text searched.** -/
theorem whole_of_mem_occurrences {sep t : Text} {s : Span} (h : s ∈ occurrences sep t) :
    s.whole = t := (mem_occurrencesFrom h).1

lemma body_of_mem_occurrences {sep t : Text} {s : Span} (h : s ∈ occurrences sep t) :
    s.body = sep := (mem_occurrencesFrom h).2

end Text

/-! ## Around a span -/

namespace Span

/-- A span with some of the characters right before it, which are given nearest first. -/
lemma isInfix_before {s : Span} {near : Text} (h : near <+: s.before) :
    near.reverse ++ s.body <:+: s.whole := by
  obtain ⟨far, whole⟩ := h
  exact ⟨far.reverse, s.after, by rw [Span.whole, ← whole]; simp⟩

/-- A span with some of the characters right after it. -/
lemma isInfix_after {s : Span} {near : Text} (h : near <+: s.after) :
    s.body ++ near <:+: s.whole := by
  obtain ⟨far, whole⟩ := h
  exact ⟨s.before.reverse, far, by rw [Span.whole, ← whole]; simp⟩

end Span

end SnippetLab

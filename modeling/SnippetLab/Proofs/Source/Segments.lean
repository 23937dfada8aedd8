import SnippetLab.Proofs.Source.Finish

/-!
# Segments of a source

A source is code, string literals and comments, one after another.  This is said without the
scanner: what a stretch of each kind may hold, and what may follow it.

* `Segment`, `Segment.Valid` — the stretches a source is made of.
* `Segment.Joins`, `Lexed` — which of them may follow one another.
* `readsContent` — **a literal that has been opened** is closed on its line, or ends with it.
* `exists_lexed` — **every text is made of segments.**
-/

namespace SnippetLab.Source

open Text

/-! ## Segments -/

/-- **A stretch of a source that is of one kind.** -/
inductive Segment where
  | code (text : Text)
  /-- A string literal with a quote at either end. -/
  | literal (quote : Char) (content : Text)
  /-- A string literal that ends with its line instead. -/
  | openLiteral (quote : Char) (content : Text)
  /-- A block comment with both its marks. -/
  | block (remark : Text)
  /-- A block comment that goes on to the end of the source. -/
  | openBlock (remark : Text)
  /-- A comment that ends with its line. -/
  | remark (text : Text)
  deriving Repr, DecidableEq

/-- What begins a comment. -/
def commentMarks (language : Language) : List Text :=
  if language.usesBraces then ["//", "/*"] else ["#"]

/-- **May a text stand in a literal opened by `quote`?**  A backslash takes the next character
along, and no other character is the quote.  A text that is cut off may end with a backslash. -/
def isContent (quote : Char) (cutOff : Bool) : Text → Bool
  | [] => true
  | ['\\'] => cutOff
  | '\\' :: _ :: r => isContent quote cutOff r
  | c :: r => c != quote && isContent quote cutOff r

namespace Segment

/-- The text of a segment. -/
def text (language : Language) : Segment → Text
  | .code t => t
  | .literal q t => q :: (t ++ [q])
  | .openLiteral q t => q :: t
  | .block t => "/*" ++ (t ++ "*/")
  | .openBlock t => "/*" ++ t
  | .remark t => lineMark language ++ t

/-- **What a segment of each kind may hold.** -/
def Valid (language : Language) : Segment → Prop
  | .code t => (∀ c ∈ t, isQuote c = false) ∧ ∀ mark ∈ commentMarks language, ¬mark <:+: t
  | .literal q t => isQuote q = true ∧ '\n' ∉ t ∧ isContent q false t = true
  | .openLiteral q t => isQuote q = true ∧ '\n' ∉ t ∧ isContent q true t = true
  | .block t | .openBlock t => language.usesBraces = true ∧ ¬['*', '/'] <:+: t
  | .remark t => '\n' ∉ t

def isCode : Segment → Bool
  | .code _ => true
  | _ => false

def isComment : Segment → Bool
  | .block _ | .openBlock _ | .remark _ => true
  | _ => false

end Segment

/-- The text that some segments are. -/
def sourceOf (language : Language) (segments : List Segment) : Text :=
  segments.flatMap (Segment.text language)

/-- **A text that begins where a line ends**, or that is empty. -/
def EndsHere (t : Text) : Prop := ∀ line ∈ t.lines.head?, line = []

/-- **What may follow a segment.**  Code that follows code is one segment with it, and where slashes
begin comments, one before a comment would belong to its mark. -/
def Segment.Joins (language : Language) : Segment → List Segment → Prop
  | .code t, rest => ∀ next ∈ rest.head?, next.isCode = false ∧
      (language.usesBraces = true → t.getLast? = some '/' → next.isComment = false)
  | .openLiteral _ _, rest | .remark _, rest => EndsHere (sourceOf language rest)
  | .openBlock _, rest => rest = []
  | .literal _ _, _ | .block _, _ => True

/-- **Segments that make up a source.** -/
inductive Lexed (language : Language) : List Segment → Prop where
  | nil : Lexed language []
  | cons {s : Segment} {rest : List Segment} (valid : s.Valid language)
      (joins : s.Joins language rest) (later : Lexed language rest) : Lexed language (s :: rest)

/-! ### Deciding whether segments make up a source -/

instance (language : Language) : DecidablePred (Segment.Valid language)
  | .code t =>
    -- over the text, not over all characters
    have : Decidable (∀ c ∈ t, isQuote c = false) := List.decidableBAll _ t
    inferInstanceAs
      (Decidable ((∀ c ∈ t, isQuote c = false) ∧ ∀ mark ∈ commentMarks language, ¬mark <:+: t))
  | .literal q t => inferInstanceAs
      (Decidable (isQuote q = true ∧ '\n' ∉ t ∧ isContent q false t = true))
  | .openLiteral q t => inferInstanceAs
      (Decidable (isQuote q = true ∧ '\n' ∉ t ∧ isContent q true t = true))
  | .block t | .openBlock t => inferInstanceAs
      (Decidable (language.usesBraces = true ∧ ¬['*', '/'] <:+: t))
  | .remark t => inferInstanceAs (Decidable ('\n' ∉ t))

instance (t : Text) : Decidable (EndsHere t) :=
  inferInstanceAs (Decidable (∀ line ∈ t.lines.head?, line = []))

instance (language : Language) (s : Segment) (rest : List Segment) :
    Decidable (s.Joins language rest) :=
  match s with
  | .code t => inferInstanceAs
      (Decidable (∀ next ∈ rest.head?, next.isCode = false ∧
        (language.usesBraces = true → t.getLast? = some '/' → next.isComment = false)))
  | .openLiteral _ _ | .remark _ => inferInstanceAs (Decidable (EndsHere (sourceOf language rest)))
  | .openBlock _ => inferInstanceAs (Decidable (rest = []))
  | .literal _ _ | .block _ => inferInstanceAs (Decidable True)

@[simp] lemma lexed_cons {language : Language} {s : Segment} {rest : List Segment} :
    Lexed language (s :: rest) ↔
      s.Valid language ∧ s.Joins language rest ∧ Lexed language rest :=
  ⟨fun | .cons valid joins later => ⟨valid, joins, later⟩,
    fun h => .cons h.1 h.2.1 h.2.2⟩

instance decidableLexed (language : Language) : DecidablePred (Lexed language)
  | [] => isTrue .nil
  | s :: rest =>
    have := decidableLexed language rest
    decidable_of_iff (s.Valid language ∧ s.Joins language rest ∧ Lexed language rest)
      lexed_cons.symm

/-! ### Every text is a source -/

lemma isContent_cons {quote c : Char} (cutOff : Bool) (plain : c ≠ '\\') (r : Text) :
    isContent quote cutOff (c :: r) = (c != quote && isContent quote cutOff r) := by
  rw [isContent]
  · rintro same -
    exact plain same
  · rintro d r' same -
    exact plain same

/-- **A text that is read as the contents of a literal**, up to its quote or to the end of the
line. -/
def ReadsContent (quote : Char) (r : Text) : Prop :=
  ∃ t rest, r = t ++ rest ∧ '\n' ∉ t ∧
    (isContent quote false t = true ∧ rest.head? = some quote ∨
      isContent quote true t = true ∧ EndsHere rest)

/-- With some characters in front that neither close the literal nor end the line. -/
lemma ReadsContent.append {quote : Char} {r u : Text} (h : ReadsContent quote r) (whole : '\n' ∉ u)
    (passed : ∀ cutOff t, isContent quote cutOff (u ++ t) = isContent quote cutOff t) :
    ReadsContent quote (u ++ r) := by
  obtain ⟨t, rest, rfl, within, ends⟩ := h
  refine ⟨u ++ t, rest, (List.append_assoc u t rest).symm, ?_, ?_⟩
  · rw [List.mem_append, not_or]
    exact ⟨whole, within⟩
  · rwa [passed, passed]

lemma EndsLine.endsHere {t : Text} (h : EndsLine t) : EndsHere t := by
  rintro line first
  rcases h.eq_nil_or_cons with rfl | ⟨later, rfl⟩
  · cases first
  · rw [lines] at first
    exact (Option.some.inj first).symm

/-- **A literal that has been opened** is closed on its line, or ends with it. -/
lemma readsContent (quote : Char) (r : Text) : ReadsContent quote r := by
  -- an escape takes two characters at once
  induction size : r.length using Nat.strong_induction_on generalizing r with
  | _ n ih =>
      subst size
      have atEnd {rest : Text} (ends : EndsHere rest) (t : Text) (whole : '\n' ∉ t)
          (content : isContent quote true t = true) : ReadsContent quote (t ++ rest) :=
        ⟨t, rest, rfl, whole, .inr ⟨content, ends⟩⟩
      have nothing : EndsHere [] := EndsLine.endsHere nofun
      have feed (r : Text) : EndsHere ('\n' :: r) :=
        EndsLine.endsHere fun _ first => (Option.some.inj first).symm
      cases r with
      | nil => exact atEnd nothing [] (by simp) rfl
      | cons c r =>
          by_cases backslash : c = '\\'
          · subst backslash
            cases r with
            | nil => exact atEnd nothing ['\\'] (by simp) rfl
            | cons d r =>
                by_cases inside : d = '\n'
                · subst inside
                  exact atEnd (feed r) ['\\'] (by simp) rfl
                · exact (ih r.length (by simp +arith) r rfl).append (u := ['\\', d])
                    (by simpa using Ne.symm inside) fun _ _ => rfl
          · by_cases inside : c = '\n'
            · subst inside
              exact atEnd (feed r) [] (by simp) rfl
            · by_cases closes : c = quote
              · subst closes
                exact ⟨[], c :: r, rfl, by simp, .inl ⟨rfl, rfl⟩⟩
              · refine (ih r.length (by simp) r rfl).append (u := [c])
                  (by simpa using Ne.symm inside) ?_
                intro cutOff t
                rw [List.singleton_append, isContent_cons cutOff backslash]
                simp [closes]

/-- The rest of a line, up to its end. -/
lemma exists_restOfLine (r : Text) : ∃ t rest, r = t ++ rest ∧ '\n' ∉ t ∧ EndsHere rest := by
  refine ⟨r.takeWhile (· != '\n'), r.dropWhile (· != '\n'), List.takeWhile_append_dropWhile.symm,
    fun feed => ?_, EndsLine.endsHere fun c first => ?_⟩
  · simpa using List.mem_takeWhile_imp feed
  · have stops := List.head?_dropWhile_not (· != '\n') r
    rw [first] at stops
    simpa using stops

section Exists

variable {language : Language} {c : Char} {r : Text}

/-- A character that opens no comment is code, with the code behind it. -/
lemma valid_code_cons {t rest : Text} (valid : Segment.Valid language (.code t))
    (plain : isQuote c = false) (none : ¬Opens language c (t ++ rest)) :
    Segment.Valid language (.code (c :: t)) := by
  refine ⟨List.forall_mem_cons.2 ⟨plain, valid.1⟩, fun mark listed part => ?_⟩
  rw [List.infix_cons_iff] at part
  refine part.elim (fun begins => none ?_) (valid.2 mark listed)
  obtain ⟨behind, whole⟩ := begins
  unfold commentMarks at listed
  unfold Opens
  split
  · rename_i braces
    rw [if_pos braces] at listed
    simp only [List.mem_cons, List.not_mem_nil, or_false] at listed
    rcases listed with rfl | rfl
    · obtain ⟨rfl, rfl⟩ := List.cons.inj (show '/' :: '/' :: behind = c :: t from whole)
      exact ⟨rfl, .inl rfl⟩
    · obtain ⟨rfl, rfl⟩ := List.cons.inj (show '/' :: '*' :: behind = c :: t from whole)
      exact ⟨rfl, .inr rfl⟩
  · rename_i hashes
    rw [if_neg hashes, List.mem_singleton] at listed
    subst listed
    exact (List.cons.inj (show '#' :: behind = c :: t from whole)).1.symm

/-- A comment begins with a slash where slashes begin comments. -/
lemma head?_sourceOf_of_isComment (braces : language.usesBraces = true) {s : Segment}
    (comment : s.isComment = true) (rest : List Segment) :
    (sourceOf language (s :: rest)).head? = some '/' := by
  cases s with
  | code t | literal q t | openLiteral q t => cases comment
  | block t | openBlock t => rfl
  | remark t =>
      have mark : lineMark language = "//" := if_pos braces
      rw [sourceOf, List.flatMap_cons, Segment.text, mark]
      rfl

lemma valid_code_nil (language : Language) : Segment.Valid language (.code []) := by
  refine ⟨by simp, fun mark listed part => ?_⟩
  rw [List.eq_nil_of_infix_nil part] at listed
  unfold commentMarks at listed
  split at listed <;> simp at listed

/-- **A character that opens no comment** belongs to the code that follows, or stands alone. -/
lemma exists_lexed_cons {segments : List Segment} (lexed : Lexed language segments)
    (plain : isQuote c = false) (none : ¬Opens language c (sourceOf language segments)) :
    ∃ segments', Lexed language segments' ∧
      sourceOf language segments' = c :: sourceOf language segments := by
  have uncommented {s : Segment} {rest : List Segment} (braces : language.usesBraces = true)
      (slash : c = '/') (first : sourceOf language segments = sourceOf language (s :: rest)) :
      s.isComment = false := by
    by_contra comment
    refine none ?_
    rw [Opens, if_pos braces, first]
    exact ⟨slash, .inl (head?_sourceOf_of_isComment braces (by simpa using comment) rest)⟩
  by_cases code : ∃ t rest, segments = .code t :: rest
  · obtain ⟨t, rest, rfl⟩ := code
    cases lexed with
    | cons valid joins later =>
        refine ⟨.code (c :: t) :: rest, .cons (valid_code_cons valid plain none) ?_ later, rfl⟩
        intro next first
        refine ⟨(joins next first).1, fun braces last => ?_⟩
        cases t with
        | nil =>
            obtain ⟨rest, rfl⟩ := List.head?_eq_some_iff.1 first
            exact uncommented braces (Option.some.inj last) rfl
        | cons d t => exact (joins next first).2 braces (by rwa [List.getLast?_cons_cons] at last)
  · refine ⟨.code [c] :: segments,
      .cons (valid_code_cons (valid_code_nil language) plain none) (fun next first => ?_) lexed,
      rfl⟩
    obtain ⟨rest, rfl⟩ := List.head?_eq_some_iff.1 first
    refine ⟨?_, fun braces last => uncommented braces (Option.some.inj last) rfl⟩
    cases next with
    | code t => exact absurd ⟨t, rest, rfl⟩ code
    | _ => rfl

/-- **A quote** begins a literal, which is closed on its line or ends with it. -/
lemma exists_lexed_quote (opens : isQuote c = true) (r : Text)
    (later : ∀ rest : Text, rest.length ≤ r.length →
      ∃ segments, Lexed language segments ∧ sourceOf language segments = rest) :
    ∃ segments, Lexed language segments ∧ sourceOf language segments = c :: r := by
  obtain ⟨t, rest, rfl, whole, ⟨content, closes⟩ | ⟨content, ends⟩⟩ := readsContent c r
  · obtain ⟨rest, rfl⟩ := List.head?_eq_some_iff.1 closes
    obtain ⟨segments, lexed, rfl⟩ := later rest (by simp; omega)
    refine ⟨.literal c t :: segments, .cons ⟨opens, whole, content⟩ trivial lexed, ?_⟩
    simp [sourceOf, Segment.text]
  · obtain ⟨segments, lexed, rfl⟩ := later rest (by simp)
    exact ⟨.openLiteral c t :: segments, .cons ⟨opens, whole, content⟩ ends lexed, rfl⟩

/-- **What opens a comment** begins one: it goes to the end of the line, or to the first mark that
closes it, or it is open at the end of the source. -/
lemma exists_lexed_comment (opens : Opens language c r)
    (later : ∀ rest : Text, rest.length ≤ r.length →
      ∃ segments, Lexed language segments ∧ sourceOf language segments = rest) :
    ∃ segments, Lexed language segments ∧ sourceOf language segments = c :: r := by
  have toEnd (r' : Text) (shorter : r'.length ≤ r.length) : ∃ segments,
      Lexed language segments ∧ sourceOf language segments = lineMark language ++ r' := by
    obtain ⟨t, rest, rfl, whole, ends⟩ := exists_restOfLine r'
    obtain ⟨segments, lexed, rfl⟩ := later rest (by simp at shorter; omega)
    refine ⟨.remark t :: segments, .cons whole ends lexed, ?_⟩
    simp [sourceOf, Segment.text]
  unfold Opens at opens
  by_cases braces : language.usesBraces = true
  · rw [if_pos braces] at opens
    obtain ⟨rfl, slash | star⟩ := opens
    · obtain ⟨r', rfl⟩ := List.head?_eq_some_iff.1 slash
      have mark : lineMark language = "//" := if_pos braces
      simpa [mark] using toEnd r' (by simp)
    · obtain ⟨r', rfl⟩ := List.head?_eq_some_iff.1 star
      cases closes : cut ['*', '/'] r' with
      | none =>
          have never : ¬['*', '/'] <:+: r' := by
            rw [← has_iff, has, closes]
            simp
          exact ⟨[.openBlock r'], .cons ⟨braces, never⟩ rfl .nil, by simp [sourceOf, Segment.text]⟩
      | some parts =>
          obtain ⟨t, rest⟩ := parts
          have whole := append_of_cut closes
          obtain ⟨segments, lexed, rfl⟩ := later rest (by
            rw [← whole]
            simp
            omega)
          refine ⟨.block t :: segments,
            .cons ⟨braces, not_isInfix_of_cut (by simp) closes⟩ trivial lexed, ?_⟩
          simp [sourceOf, Segment.text, ← whole]
  · rw [if_neg braces] at opens
    have mark : lineMark language = "#" := if_neg braces
    simpa [mark, opens] using toEnd r le_rfl

end Exists

/-- **Every text is made of segments.** -/
theorem exists_lexed (language : Language) (t : Text) :
    ∃ segments, Lexed language segments ∧ sourceOf language segments = t := by
  -- a segment is taken off at once
  induction size : t.length using Nat.strong_induction_on generalizing t with
  | _ n ih =>
      subst size
      cases t with
      | nil => exact ⟨[], .nil, rfl⟩
      | cons c r =>
          have later (rest : Text) (shorter : rest.length ≤ r.length) :
              ∃ segments, Lexed language segments ∧ sourceOf language segments = rest :=
            ih rest.length (Nat.lt_succ_of_le shorter) rest rfl
          by_cases quote : isQuote c = true
          · exact exists_lexed_quote quote r later
          · by_cases opens : Opens language c r
            · exact exists_lexed_comment opens later
            · obtain ⟨segments, lexed, rfl⟩ := later r le_rfl
              exact exists_lexed_cons lexed (by simpa using quote) opens

end SnippetLab.Source

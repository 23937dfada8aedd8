import Mathlib.Algebra.Ring.Int.Defs
import SnippetLab.Proofs.Source.Segments
import SnippetLab.Proofs.Source.Splitting

/-!
# Splitting and joining undo one another

A text is split at the separators that stand outside literals and brackets.  Where these are is said
here without the scanner: a text is cut into its literals and the single characters between them,
and the depth at a place is what the brackets before it come to.

* `Stretch`, `MadeOf` — the stretches a text is made of.
* `Complete`, `IsPart` — texts that close their literals and brackets, and those of them that hold
  no separator at the top level.
* `isPart_iff` — the scanner finds out whether a text is a part.
* `splitting_and_joining_are_inverse` — **pieces that are joined give the text back, and parts that
  are joined are split back.**
-/

namespace SnippetLab.Source

open Text

/-! ## Stretches -/

/-- **A stretch of a text**: a character outside literals, or a literal as a whole. -/
inductive Stretch where
  | plain (c : Char)
  | literal (quote : Char) (content : Text)
  deriving Repr, DecidableEq

namespace Stretch

/-- The text of a stretch. -/
def text : Stretch → Text
  | .plain c => [c]
  | .literal q t => q :: (t ++ [q])

/-- **What a stretch may hold**: no quote stands outside literals, and what stands in one does not
close it. -/
def Valid : Stretch → Prop
  | .plain c => isQuote c = false
  | .literal q t => isQuote q = true ∧ isContent q false t = true

/-- By how much a stretch changes the depth: a literal not at all. -/
def step : Stretch → Int
  | .plain c => nestingStep c
  | .literal _ _ => 0

end Stretch

/-- The text of some stretches. -/
def textOf (stretches : List Stretch) : Text := stretches.flatMap Stretch.text

/-- The depth behind some stretches. -/
def depthOf (stretches : List Stretch) : Int := (stretches.map Stretch.step).sum

/-- **A text is made of some stretches**, so all its literals are closed. -/
structure MadeOf (stretches : List Stretch) (t : Text) : Prop where
  valid : ∀ s ∈ stretches, s.Valid
  whole : textOf stretches = t

/-- **A text closes all its literals and ends at depth nought.** -/
def Complete (t : Text) : Prop := ∃ stretches, MadeOf stretches t ∧ depthOf stretches = 0

/-- **A part between separators**: a complete text without a separator that stands outside literals
at depth nought. -/
def IsPart (sep : Char) (t : Text) : Prop :=
  ∃ stretches, MadeOf stretches t ∧ depthOf stretches = 0 ∧
    ∀ before after, stretches = before ++ .plain sep :: after → depthOf before ≠ 0

lemma textOf_cons (s : Stretch) (rest : List Stretch) :
    textOf (s :: rest) = s.text ++ textOf rest :=
  List.flatMap_cons

lemma MadeOf.cons {s : Stretch} {stretches : List Stretch} {t : Text} (valid : s.Valid)
    (made : MadeOf stretches t) : MadeOf (s :: stretches) (s.text ++ t) where
  valid := List.forall_mem_cons.2 ⟨valid, made.valid⟩
  whole := by rw [textOf_cons, made.whole]

@[simp] lemma depthOf_cons (s : Stretch) (rest : List Stretch) :
    depthOf (s :: rest) = s.step + depthOf rest := by
  simp [depthOf]

/-! ## What the scanner finds -/

section Scanner

variable {sep quote c : Char} {depth : Int} {t content r : Text} {stretches : List Stretch}

/-- **What separates** is the separator, outside literals and brackets, and neither a quote nor a
bracket. -/
lemma separates_iff {quoting : Quoting} :
    separates sep quoting depth c = true ↔
      quoting = .outside ∧ depth = 0 ∧ c = sep ∧
        isQuote c = false ∧ isOpening c = false ∧ isClosing c = false := by
  simp [separates, and_assoc]

/-- A quote leaves the depth as it is. -/
lemma nestingStep_of_isQuote (quoted : isQuote c = true) : nestingStep c = 0 := by
  have either : c = '"' ∨ c = '\'' := by simpa [isQuote] using quoted
  rcases either with rfl | rfl <;> rfl

lemma ne_backslash_of_isQuote (quoted : isQuote c = true) : c ≠ '\\' := by
  rintro rfl
  cases quoted

/-- Nothing separates inside a literal. -/
lemma whole_inside_cons :
    Whole sep (.inside quote) depth (c :: r) ↔
      Whole sep ((Quoting.inside quote).next c) depth r := by
  simp [Whole, separates]

lemma whole_escaped_cons :
    Whole sep (.escaped quote) depth (c :: r) ↔ Whole sep (.inside quote) depth r := by
  simp [Whole, separates, Quoting.next]

/-- **A piece that begins in a literal** closes it before anything else. -/
lemma whole_inside_iff (quoted : isQuote quote = true) :
    Whole sep (.inside quote) depth t ↔
      ∃ content r, t = content ++ quote :: r ∧ isContent quote false content = true ∧
        Whole sep .outside depth r := by
  constructor
  · intro h
    -- an escape takes two characters at once
    induction size : t.length using Nat.strong_induction_on generalizing t with
    | _ n ih =>
        subst size
        cases t with
        | nil => cases h.1
        | cons c t =>
            rw [whole_inside_cons, Quoting.next] at h
            split_ifs at h with escape closing
            · subst escape
              cases t with
              | nil => cases h.1
              | cons d t =>
                  rw [whole_escaped_cons] at h
                  obtain ⟨content, r, rfl, held, later⟩ := ih t.length (by simp +arith) h rfl
                  exact ⟨'\\' :: d :: content, r, rfl, held, later⟩
            · subst closing
              exact ⟨[], t, rfl, rfl, h⟩
            · obtain ⟨content, r, rfl, held, later⟩ := ih t.length (by simp) h rfl
              refine ⟨c :: content, r, rfl, ?_, later⟩
              rw [isContent_cons false escape, held]
              simp [closing]
  · rintro ⟨content, r, rfl, held, later⟩
    fun_induction isContent quote false content with
    | case1 =>
        simpa [whole_inside_cons, Quoting.next, ne_backslash_of_isQuote quoted] using later
    | case2 => cases held
    | case3 d content ih =>
        simpa [whole_inside_cons, whole_escaped_cons, Quoting.next] using ih held
    | case4 c content single pair ih =>
        rw [Bool.and_eq_true, bne_iff_ne] at held
        have plain : c ≠ '\\' := by
          rintro rfl
          cases content with
          | nil => exact single rfl rfl
          | cons d content => exact pair d content rfl rfl
        simpa [whole_inside_cons, Quoting.next, plain, held.1] using ih held.2

/-- **None of some stretches separates**, if they stand behind `depth`. -/
def Unbroken (sep : Char) (depth : Int) (stretches : List Stretch) : Prop :=
  ∀ before c after, stretches = before ++ .plain c :: after →
    separates sep .outside (depth + depthOf before) c = false

lemma unbroken_nil : Unbroken sep depth [] := by
  intro before c after absent
  simp at absent

lemma unbroken_cons {s : Stretch} :
    Unbroken sep depth (s :: stretches) ↔
      (∀ c, s = .plain c → separates sep .outside depth c = false) ∧
        Unbroken sep (depth + s.step) stretches := by
  constructor
  · intro h
    refine ⟨?_, fun before c after whole => ?_⟩
    · rintro c rfl
      simpa [depthOf] using h [] c stretches rfl
    · rw [Int.add_assoc, ← depthOf_cons]
      exact h (s :: before) c after (by rw [whole, List.cons_append])
  · rintro ⟨here, later⟩ before c after whole
    rcases List.cons_eq_append_iff.1 whole with ⟨rfl, first⟩ | ⟨before, rfl, rest⟩
    · simpa [depthOf] using here c (List.cons.inj first).1.symm
    · rw [depthOf_cons, ← Int.add_assoc]
      exact later before c after rest

/-- Outside literals a quote begins one, at the same depth. -/
lemma whole_quote_cons (quoted : isQuote c = true) :
    Whole sep .outside depth (c :: r) ↔ Whole sep (.inside c) depth r := by
  simp [Whole, separates, Quoting.next, quoted, nestingStep_of_isQuote quoted]

/-- Any other character counts there, and must not separate. -/
lemma whole_plain_cons (plain : isQuote c = false) :
    Whole sep .outside depth (c :: r) ↔
      separates sep .outside depth c = false ∧
        Whole sep .outside (depth + nestingStep c) r := by
  simp [Whole, Quoting.next, plain]

/-- **A piece begins with a stretch that does not separate**, and goes on outside literals. -/
lemma exists_stretch (h : Whole sep .outside depth (c :: r)) :
    ∃ (s : Stretch) (later : Text), c :: r = s.text ++ later ∧ later.length < (c :: r).length ∧
      s.Valid ∧ (∀ c, s = .plain c → separates sep .outside depth c = false) ∧
        Whole sep .outside (depth + s.step) later := by
  by_cases quoted : isQuote c = true
  · rw [whole_quote_cons quoted, whole_inside_iff quoted] at h
    obtain ⟨content, later, rfl, held, goesOn⟩ := h
    refine ⟨.literal c content, later, by simp [Stretch.text], by simp; omega, ⟨quoted, held⟩,
      nofun, ?_⟩
    rwa [Stretch.step, Int.add_zero]
  · rw [Bool.not_eq_true] at quoted
    obtain ⟨here, goesOn⟩ := (whole_plain_cons quoted).1 h
    refine ⟨.plain c, r, rfl, by simp, quoted, ?_, goesOn⟩
    rintro _ ⟨⟩
    exact here

/-- **A stretch that does not separate may stand in front of a piece.** -/
lemma whole_stretch_append {s : Stretch} (valid : s.Valid)
    (passed : ∀ c, s = .plain c → separates sep .outside depth c = false)
    (later : Whole sep .outside (depth + s.step) r) : Whole sep .outside depth (s.text ++ r) := by
  cases s with
  | plain c => exact (whole_plain_cons valid).2 ⟨passed c rfl, later⟩
  | literal q content =>
      obtain ⟨quoted, held⟩ := valid
      rw [Stretch.step, Int.add_zero] at later
      rw [Stretch.text, List.cons_append, List.append_assoc, List.singleton_append,
        whole_quote_cons quoted, whole_inside_iff quoted]
      exact ⟨content, r, rfl, held, later⟩

/-- **A piece that begins outside literals** is made of stretches of which none separates. -/
theorem whole_iff :
    Whole sep .outside depth t ↔
      ∃ stretches, MadeOf stretches t ∧ depth + depthOf stretches = 0 ∧
        Unbroken sep depth stretches := by
  constructor
  · intro h
    -- a literal is one stretch, so the text may shrink by more than a character
    induction size : t.length using Nat.strong_induction_on generalizing t depth with
    | _ n ih =>
        subst size
        cases t with
        | nil => exact ⟨[], ⟨by simp, rfl⟩, by simpa [depthOf] using h.2, unbroken_nil⟩
        | cons c t =>
            obtain ⟨s, later, whole, shorter, valid, passed, goesOn⟩ := exists_stretch h
            obtain ⟨stretches, made, level, unbroken⟩ := ih later.length shorter goesOn rfl
            refine ⟨s :: stretches, ?_, ?_, unbroken_cons.2 ⟨passed, unbroken⟩⟩
            · rw [whole]
              exact made.cons valid
            · rwa [depthOf_cons, ← Int.add_assoc]
  · rintro ⟨stretches, ⟨valid, rfl⟩, level, unbroken⟩
    induction stretches generalizing depth with
    | nil => exact ⟨rfl, by simpa [depthOf] using level⟩
    | cons s stretches ih =>
        rw [List.forall_mem_cons] at valid
        rw [depthOf_cons, ← Int.add_assoc] at level
        rw [unbroken_cons] at unbroken
        rw [textOf_cons]
        exact whole_stretch_append valid.1 unbroken.1 (ih valid.2 level unbroken.2)

/-- **A separator is neither a quote nor a bracket.** -/
structure IsSeparator (sep : Char) : Prop where
  quote : isQuote sep = false
  opening : isOpening sep = false
  closing : isClosing sep = false

lemma IsSeparator.separates_iff (h : IsSeparator sep) :
    separates sep .outside depth c = true ↔ c = sep ∧ depth = 0 := by
  rw [Source.separates_iff]
  constructor
  · rintro ⟨-, top, same, -⟩
    exact ⟨same, top⟩
  · rintro ⟨rfl, rfl⟩
    exact ⟨rfl, rfl, rfl, h.quote, h.opening, h.closing⟩

/-- **The scanner finds out whether a text is a part.** -/
theorem isPart_iff (h : IsSeparator sep) : IsPart sep t ↔ Whole sep .outside 0 t := by
  rw [whole_iff]
  refine exists_congr fun stretches => and_congr_right fun _ => ?_
  rw [Int.zero_add]
  refine and_congr_right fun _ => ?_
  unfold Unbroken
  constructor
  · intro apart before c after whole
    rw [Int.zero_add, Bool.eq_false_iff, Ne, h.separates_iff]
    rintro ⟨rfl, top⟩
    exact apart before after whole top
  · intro unbroken before after whole top
    have passed := unbroken before sep after whole
    rw [Int.zero_add, Bool.eq_false_iff, Ne, h.separates_iff] at passed
    exact passed ⟨rfl, top⟩

/-- A quote separates nothing, so a text that is whole for it is complete, and no more. -/
lemma complete_iff (quote : Char) (quoted : isQuote quote = true) :
    Complete t ↔ Whole quote .outside 0 t := by
  rw [whole_iff]
  refine exists_congr fun stretches => and_congr_right fun _ => ?_
  rw [Int.zero_add]
  refine (and_iff_left ?_).symm
  intro before c after _
  rw [Bool.eq_false_iff, Ne, separates_iff]
  rintro ⟨-, -, rfl, plain, -⟩
  rw [quoted] at plain
  cases plain

end Scanner

/-! ## Splitting and joining -/

section Splitting

variable {sep other : Char} {quoting : Quoting} {depth : Int} {t : Text}

/-- A character in front of the first piece is one in front of the text. -/
lemma join_consHead (gap : Text) (c : Char) {pieces : List Text} (nonempty : pieces ≠ []) :
    Text.join gap (consHead c pieces) = c :: Text.join gap pieces := by
  obtain ⟨p, ps, rfl⟩ := List.exists_cons_of_ne_nil nonempty
  rw [consHead, join_cons, join_cons, List.cons_append]

/-- **Pieces that are joined give the text back**, whatever the separator. -/
lemma join_splitFrom (sep : Char) (quoting : Quoting) (depth : Int) (t : Text) :
    Text.join [sep] (splitFrom sep quoting depth t) = t := by
  induction t generalizing quoting depth with
  | nil => rfl
  | cons c r ih =>
      rw [splitFrom]
      dsimp only
      split
      · rename_i found
        obtain ⟨-, -, rfl, -⟩ := separates_iff.1 found
        rw [Text.join, List.intercalate_cons_of_ne_nil (splitFrom_ne_nil c .outside depth r),
          ← Text.join, ih]
        rfl
      · rw [join_consHead _ c (splitFrom_ne_nil _ _ _ r), ih]

/-- **The pieces of a text that closes what it opens do so too**, the first from where the text
begins. -/
lemma exists_splitFrom (sep : Char) (h : Whole other quoting depth t) :
    ∃ first rest, splitFrom sep quoting depth t = first :: rest ∧
      Whole sep quoting depth first ∧ ∀ p ∈ rest, Whole sep .outside 0 p := by
  induction t generalizing quoting depth with
  | nil => exact ⟨[], [], rfl, h, by simp⟩
  | cons c r ih =>
      obtain ⟨first, rest, pieces, begins, goesOn⟩ := ih h.2
      rw [splitFrom]
      dsimp only
      split
      · rename_i found
        obtain ⟨rfl, rfl, rfl, plain, opening, closing⟩ := separates_iff.1 found
        have level : nestingStep c = 0 := by simp [nestingStep, opening, closing]
        have outside : Quoting.outside.next c = .outside := by simp [Quoting.next, plain]
        rw [if_pos rfl, level, Int.add_zero, outside] at pieces begins
        refine ⟨[], _, rfl, ⟨rfl, rfl⟩, ?_⟩
        rw [pieces, List.forall_mem_cons]
        exact ⟨begins, goesOn⟩
      · rename_i passed
        rw [pieces]
        exact ⟨c :: first, rest, rfl, ⟨by simpa using passed, begins⟩, goesOn⟩

end Splitting

/-! ## The result -/

/-- **Splitting and joining undo one another.**  For every separator the pieces of a text, joined,
give it back.  If the separator is neither a quote nor a bracket, parts that are joined are split
back, and the pieces of a complete text are parts. -/
theorem splitting_and_joining_are_inverse (sep : Char) :
    (∀ t, Text.join [sep] (splitTopLevel sep t) = t) ∧
      (IsSeparator sep →
        (∀ parts, parts ≠ [] → (∀ p ∈ parts, IsPart sep p) →
          splitTopLevel sep (Text.join [sep] parts) = parts) ∧
        ∀ t, Complete t → ∀ p ∈ splitTopLevel sep t, IsPart sep p) := by
  refine ⟨join_splitFrom sep .outside 0, fun proper => ⟨fun parts nonempty apart => ?_, ?_⟩⟩
  · have top : separates sep .outside 0 sep = true := proper.separates_iff.2 ⟨rfl, rfl⟩
    exact splitTopLevel_join top nonempty fun p mem => (isPart_iff proper).1 (apart p mem)
  · intro t complete p mem
    rw [complete_iff '"' rfl] at complete
    obtain ⟨first, rest, pieces, begins, goesOn⟩ := exists_splitFrom sep complete
    rw [splitTopLevel, pieces] at mem
    rw [isPart_iff proper]
    rcases List.mem_cons.1 mem with rfl | later
    · exact begins
    · exact goesOn p later

/-- Arguments with a separator in brackets, one in a literal behind a quote that is escaped, and
nothing between two others. -/
theorem splitting_and_joining_are_inverse_nested :
    let parts : List Text := ["f(a, [b, c])", " \"x, \\\" y\"", "", "é"]
    IsSeparator ',' ∧ parts ≠ [] ∧ (∀ p ∈ parts, IsPart ',' p) ∧
      splitTopLevel ',' (Text.join [','] parts) = parts := by
  intro parts
  have proper : IsSeparator ',' := ⟨rfl, rfl, rfl⟩
  have nonempty : parts ≠ [] := by decide
  have whole : ∀ p ∈ parts, Whole ',' .outside 0 p := by decide
  have apart : ∀ p ∈ parts, IsPart ',' p := fun p mem => (isPart_iff proper).2 (whole p mem)
  exact ⟨proper, nonempty, apart,
    ((splitting_and_joining_are_inverse ',').2 proper).1 parts nonempty apart⟩

end SnippetLab.Source

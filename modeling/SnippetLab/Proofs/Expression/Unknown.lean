import Mathlib.Algebra.Order.BigOperators.Group.List
import Mathlib.Algebra.Order.Ring.Nat
import SnippetLab.Proofs.Decimal.Numeral
import SnippetLab.Proofs.Expression.Chains
import SnippetLab.Proofs.Source.Splitting

/-!
# What is returned as written

An expression that is no value, no name and no chain comes back as it was written.  Whether a text
is a chain is found out by the operands' own scanner, and **of the three brackets this scanner knows
the round ones only**: a sign in square or curly brackets cuts the text in two.

* `Unknown` — an expression that is nothing before it is taken for a chain.
* `Enclosed` — every sign stands in a literal or in round parentheses; such an expression is no
  chain (`operands?_eq_none`).
* `HoldsBracket` — a square or curly bracket stands outside literals.  A value keeps it
  (`exists_bracket_evaluate`), so a chain with such an operand is never summed up.
* `count_evaluate_le` — no value has more plus signs than its expression.
* `evaluate_unknown` — what becomes of an unknown expression with its signs in brackets.
-/

namespace SnippetLab.Expression

open Source Text Decimal

/-! ## Ways to a value -/

/-- **Induction along an evaluation**: the value of an expression is reached in one of six ways,
from the values of what stands in its parentheses or of its operands. -/
theorem evaluate_induction {env : Environment} {motive : Text → Text → Prop}
    (literal : ∀ {e v}, literal? e.trim = some v → motive e v)
    (constant : ∀ {e}, isConstant e.trim = true → motive e e.trim)
    (bound : ∀ {e v}, env e.trim = some v → motive e v)
    (unwrapped : ∀ {e inner v}, unwrap? e.trim = some inner → motive inner v → motive e v)
    (chain : ∀ {e ts}, operands? e.trim = some ts → (∀ p ∈ ts, motive p.2 (evaluate env p.2)) →
      motive e ((combine? (ts.map fun p => (p.1, evaluate env p.2))).getD e.trim))
    (other : ∀ {e}, motive e e.trim) (e : Text) : motive e (evaluate env e) := by
  rw [evaluate_eq]
  dsimp only
  split
  · rename_i v found
    exact literal found
  · split
    · rename_i found
      exact constant found
    · split
      · rename_i v found
        exact bound found
      · split
        · rename_i inner found
          have shorter : inner.length < e.length :=
            Nat.lt_of_lt_of_le (length_lt_of_unwrap? found) (length_trim_le e)
          exact unwrapped found
            (evaluate_induction literal constant bound unwrapped chain other inner)
        · split
          · rename_i ts found
            refine chain found fun p member => ?_
            have shorter : p.2.length < e.length :=
              Nat.lt_of_lt_of_le (length_lt_of_mem_operands found member) (length_trim_le e)
            exact evaluate_induction literal constant bound unwrapped chain other p.2
          · exact other
termination_by e.length

/-! ## Square and curly brackets -/

/-- The brackets that the scanner for operands passes over. -/
def isBracket (c : Char) : Bool := c == '[' || c == ']' || c == '\x7b' || c == '\x7d'

/-- **Does a square or curly bracket stand outside literals**, from a state of the scanner on? -/
def HoldsBracket (quoting : Quoting) : Text → Prop
  | [] => False
  | c :: r => quoting = .outside ∧ isBracket c = true ∨ HoldsBracket (quoting.next c) r

lemma exists_bracket_of_holdsBracket {quoting : Quoting} {t : Text} (h : HoldsBracket quoting t) :
    ∃ c ∈ t, isBracket c = true := by
  induction t generalizing quoting with
  | nil => cases h
  | cons c r ih =>
      rcases h with ⟨-, here⟩ | later
      · exact ⟨c, List.mem_cons_self, here⟩
      · obtain ⟨d, inside, bracket⟩ := ih later
        exact ⟨d, List.mem_cons_of_mem c inside, bracket⟩

lemma holdsBracket_append {quoting : Quoting} {t u : Text} :
    HoldsBracket quoting (t ++ u) ↔
      HoldsBracket quoting t ∨ HoldsBracket (t.foldl Quoting.next quoting) u := by
  induction t generalizing quoting with
  | nil => simp [HoldsBracket]
  | cons c t ih => simp only [List.cons_append, HoldsBracket, ih, List.foldl_cons, or_assoc]

/-- Without brackets none stands anywhere. -/
lemma not_holdsBracket {quoting : Quoting} {t : Text} (h : ∀ c ∈ t, isBracket c = false) :
    ¬HoldsBracket quoting t := by
  intro holds
  obtain ⟨c, inside, bracket⟩ := exists_bracket_of_holdsBracket holds
  rw [h c inside] at bracket
  cases bracket

lemma isBracket_of_isBlank {c : Char} (h : isBlank c = true) : isBracket c = false := by
  have other := of_isBlank (p := fun c => !isBracket c) (by decide) h
  simpa using other

lemma not_holdsBracket_of_isAllBlank {quoting : Quoting} {blanks : Text}
    (h : isAllBlank blanks = true) : ¬HoldsBracket quoting blanks :=
  not_holdsBracket fun c hc => isBracket_of_isBlank (List.all_eq_true.1 h c hc)

/-- Blanks open no literal. -/
lemma foldl_next_of_isAllBlank {blanks : Text} (h : isAllBlank blanks = true) :
    blanks.foldl Quoting.next .outside = .outside := by
  induction blanks with
  | nil => rfl
  | cons c blanks ih =>
      rw [isAllBlank, List.all_cons, Bool.and_eq_true] at h
      have unquoted := (of_isPlain (isPlain_of_isBlank h.1)).1
      simpa [Quoting.next, unquoted] using ih h.2

lemma holdsBracket_trim {t : Text} (h : HoldsBracket .outside t) :
    HoldsBracket .outside t.trim := by
  obtain ⟨left, right, before, behind, whole⟩ := exists_blanks_trim t
  rw [whole, holdsBracket_append, foldl_next_of_isAllBlank before, holdsBracket_append] at h
  exact (h.resolve_left (not_holdsBracket_of_isAllBlank before)).resolve_right
    (not_holdsBracket_of_isAllBlank behind)

/-- All of a literal is inside it. -/
lemma not_holdsBracket_of_unescape {quote : Char} {t v : Text} (h : unescape quote t = some v) :
    ¬HoldsBracket (.inside quote) (t ++ [quote]) := by
  fun_induction unescape quote t generalizing v with
  | case1 => simp [HoldsBracket]
  | case2 => cases h
  | case3 c r ih =>
      obtain ⟨w, found, -⟩ := Option.map_eq_some_iff.1 h
      simpa [HoldsBracket, Quoting.next] using ih found
  | case4 r => cases h
  | case5 c r last pair other ih =>
      have plain : c ≠ '\\' := by
        rintro rfl
        cases r with
        | nil => exact last rfl rfl
        | cons d r => exact pair d r rfl rfl
      obtain ⟨w, found, -⟩ := Option.map_eq_some_iff.1 h
      simpa [HoldsBracket, Quoting.next, plain, other] using ih found

lemma not_holdsBracket_of_literal? {e v : Text} (h : literal? e = some v) :
    ¬HoldsBracket .outside e := by
  unfold literal? at h
  split at h
  · cases h
  · rename_i quote r
    split at h
    · rename_i quoted
      rw [Bool.and_eq_true, beq_iff_eq] at quoted
      have whole : r = r.dropLast ++ [quote] := (List.dropLast_append_getLast? _ quoted.2).symm
      have inside := not_holdsBracket_of_unescape h
      rw [← whole] at inside
      rintro (⟨-, bracket⟩ | later)
      · revert bracket
        have quotes : quote = '"' ∨ quote = '\'' := by simpa [isQuote] using quoted.1
        rcases quotes with rfl | rfl <;> decide
      · rw [Quoting.next, if_pos quoted.1] at later
        exact inside later
    · cases h

lemma eq_of_unwrap? {e inner : Text} (h : unwrap? e = some inner) :
    e = '(' :: (inner ++ [')']) := by
  unfold unwrap? at h
  split at h
  · rename_i r
    split at h
    · rename_i last
      split at h
      · cases h
        rw [List.dropLast_append_getLast? _ last]
      · cases h
    · cases h
  · cases h

lemma holdsBracket_of_unwrap? {e inner : Text} (h : unwrap? e = some inner)
    (holds : HoldsBracket .outside e) : HoldsBracket .outside inner := by
  rw [eq_of_unwrap? h] at holds
  have within : HoldsBracket .outside (inner ++ [')']) :=
    holds.resolve_left (by decide)
  refine (holdsBracket_append.1 within).resolve_right ?_
  simp [HoldsBracket, isBracket]

/-- No number holds a bracket. -/
lemma isBracket_of_isDecimal {t : Text} (h : IsDecimal t) : ∀ c ∈ t, isBracket c = false := by
  have unsigned {r : Text} (magnitude : IsMagnitude r) : ∀ c ∈ r, isBracket c = false := by
    intro c hc
    rcases magnitude.of_mem hc with digit | rfl
    · have other := not_mem_of_isWordChar (isWordChar_of_isDigit digit) "[]\x7b\x7d" (by decide)
      simpa [isBracket, and_assoc] using other
    · decide
  rcases h with magnitude | ⟨r, rfl, magnitude⟩
  · exact unsigned magnitude
  · rw [List.forall_mem_cons]
    exact ⟨by decide, unsigned magnitude⟩

/-! ## Operands -/

/-- What a character outside literals does to the depth of the round parentheses. -/
def roundStep (c : Char) : Int := if c = '(' then 1 else if c = ')' then -1 else 0

lemma char_of_ofChar? {c : Char} {sign : Sign} (h : Sign.ofChar? c = some sign) :
    c = sign.char := by
  unfold Sign.ofChar? at h
  split at h
  · cases h
    assumption
  · split at h
    · cases h
      assumption
    · cases h

/-- **One step of the scanner**: a sign at the top level ends the operand, and any other character,
with a minus sign that begins one, becomes part of it. -/
lemma operandsFrom_cons {quoting : Quoting} {depth : Int} {sign : Sign} {begun r : Text} {c : Char}
    {ts : List (Sign × Text)} (h : operandsFrom quoting depth sign begun (c :: r) = some ts) :
    (∃ next us, quoting = .outside ∧ depth = 0 ∧ c = Sign.char next ∧
        operandsFrom .outside 0 next [] r = some us ∧ ts = (sign, trim begun.reverse) :: us) ∨
      (quoting = .outside → depth = 0 → isUnsigned c = true ∨ c = '-' ∧ isAllBlank begun = true) ∧
        operandsFrom (quoting.next c) (if quoting = .outside then depth + roundStep c else depth)
          sign (c :: begun) r = some ts := by
  rw [operandsFrom] at h
  dsimp only at h
  split at h
  · rename_i next found
    split at found
    · rename_i top
      rw [Bool.and_eq_true, decide_eq_true_eq, beq_iff_eq] at top
      obtain ⟨rfl, rfl⟩ := top
      obtain rfl := char_of_ofChar? found
      split at h
      · rename_i blank
        cases next with
        | plus => cases h
        | minus => exact .inr ⟨fun _ _ => .inr ⟨rfl, blank⟩, h⟩
      · obtain ⟨us, rest, rfl⟩ := Option.map_eq_some_iff.1 h
        exact .inl ⟨next, us, rfl, rfl, rfl, rest, rfl⟩
    · cases found
  · rename_i unsigned
    refine .inr ⟨?_, ?_⟩
    · rintro rfl rfl
      exact .inl (by simpa [isUnsigned] using unsigned)
    · have level : (if quoting = .outside then depth + roundStep c else depth) =
          if quoting = .outside then
            if c = '(' then depth + 1 else if c = ')' then depth - 1 else depth
          else depth := by
        unfold roundStep
        split_ifs <;> omega
      rw [level]
      exact h

/-- The state of the scanner for literals behind a text begun outside of them. -/
def quotingAfter (t : Text) : Quoting := t.foldl Quoting.next .outside

lemma quotingAfter_concat (t : Text) (c : Char) :
    quotingAfter (t ++ [c]) = (quotingAfter t).next c := by simp [quotingAfter]

lemma holdsBracket_sign (sign : Sign) (r : Text) :
    HoldsBracket .outside (sign.char :: r) ↔ HoldsBracket .outside r := by
  cases sign <;> simp [HoldsBracket, Sign.char, isBracket, Quoting.next, isQuote]

/-- **A bracket outside literals is one of an operand.** -/
lemma exists_operand_holdsBracket {quoting : Quoting} {depth : Int} {sign : Sign} {begun t : Text}
    {ts : List (Sign × Text)} (h : operandsFrom quoting depth sign begun t = some ts)
    (state : quotingAfter begun.reverse = quoting)
    (holds : HoldsBracket .outside (begun.reverse ++ t)) :
    ∃ p ∈ ts, HoldsBracket .outside p.2 := by
  induction t generalizing quoting depth sign begun ts with
  | nil =>
      rw [operandsFrom] at h
      split at h
      · cases h
      · cases h
        rw [List.append_nil] at holds
        exact ⟨_, List.mem_singleton.2 rfl, holdsBracket_trim holds⟩
  | cons c r ih =>
      rcases operandsFrom_cons h with ⟨next, us, rfl, -, rfl, rest, rfl⟩ | ⟨-, onward⟩
      · rw [holdsBracket_append, ← quotingAfter, state, holdsBracket_sign] at holds
        rcases holds with here | later
        · exact ⟨_, List.mem_cons_self, holdsBracket_trim here⟩
        · obtain ⟨p, member, bracket⟩ := ih rest rfl later
          exact ⟨p, List.mem_cons_of_mem _ member, bracket⟩
      · refine ih onward ?_ ?_
        · rw [List.reverse_cons, quotingAfter_concat, state]
        · simpa using holds

/-- A chain with a bracket has an operand with one. -/
lemma exists_operand_of_operands? {e : Text} {ts : List (Sign × Text)} (h : operands? e = some ts)
    (holds : HoldsBracket .outside e) : ∃ p ∈ ts, HoldsBracket .outside p.2 :=
  exists_operand_holdsBracket (Option.filter_eq_some_iff.1 h).1 rfl holds

/-- The value of a chain of which one operand's value has a bracket. -/
lemma combine?_of_bracket {env : Environment} {ts : List (Sign × Text)} {p : Sign × Text}
    (member : p ∈ ts) (bracket : ∃ c ∈ evaluate env p.2, isBracket c = true) :
    combine? (ts.map fun p => (p.1, evaluate env p.2)) =
      if ts.all fun p => p.1 == .plus then some (ts.flatMap fun p => evaluate env p.2)
      else none := by
  obtain ⟨c, inside, bracket⟩ := bracket
  have other : ¬IsDecimal (evaluate env p.2) := fun number => by
    rw [isBracket_of_isDecimal number c inside] at bracket
    cases bracket
  rw [combine?_of_other ⟨_, List.mem_map_of_mem member, other⟩]
  simp only [List.all_map, List.flatMap_map, Function.comp_def]

/-- **A value keeps a bracket of its expression.** -/
theorem exists_bracket_evaluate {env : Environment}
    (named : ∀ x, (env x).isSome = true → ∀ c ∈ x, isBracket c = false) {e : Text}
    (h : HoldsBracket .outside e) : ∃ c ∈ evaluate env e, isBracket c = true := by
  revert h
  refine @evaluate_induction env
    (fun e v => HoldsBracket .outside e → ∃ c ∈ v, isBracket c = true)
    ?literal ?constant ?bound ?unwrapped ?chain ?other e
  case literal =>
    intro e v found holds
    exact absurd (holdsBracket_trim holds) (not_holdsBracket_of_literal? found)
  case constant => exact fun _ holds => exists_bracket_of_holdsBracket (holdsBracket_trim holds)
  case bound =>
    intro e v found holds
    exact absurd (holdsBracket_trim holds) (not_holdsBracket (named _ (by rw [found]; rfl)))
  case unwrapped =>
    intro e inner v found ih holds
    exact ih (holdsBracket_of_unwrap? found (holdsBracket_trim holds))
  case other => exact fun holds => exists_bracket_of_holdsBracket (holdsBracket_trim holds)
  case chain =>
    intro e ts found values holds
    obtain ⟨p, member, bracketed⟩ := exists_operand_of_operands? found (holdsBracket_trim holds)
    obtain ⟨c, inside, bracket⟩ := values p member bracketed
    rw [combine?_of_bracket member ⟨c, inside, bracket⟩]
    split
    · exact ⟨c, List.mem_flatMap.2 ⟨p, member, inside⟩, bracket⟩
    · exact exists_bracket_of_holdsBracket (holdsBracket_trim holds)

/-! ## Signs in brackets -/

/-- **Every sign stands in a literal or in round parentheses**, from a state of the scanner on. -/
def Enclosed (quoting : Quoting) (depth : Int) : Text → Prop
  | [] => True
  | c :: r =>
    (quoting = .outside → depth = 0 → isUnsigned c = true) ∧
      Enclosed (quoting.next c) (if quoting = .outside then depth + roundStep c else depth) r

/-- Whether the signs are enclosed is found out by scanning. -/
instance decidableEnclosed :
    (quoting : Quoting) → (depth : Int) → (t : Text) → Decidable (Enclosed quoting depth t)
  | _, _, [] => inferInstanceAs (Decidable True)
  | quoting, depth, c :: r =>
    have := decidableEnclosed (quoting.next c)
      (if quoting = .outside then depth + roundStep c else depth) r
    inferInstanceAs (Decidable (_ ∧ _))

lemma length_operandsFrom_of_enclosed {quoting : Quoting} {depth : Int} {sign : Sign}
    {begun t : Text} {ts : List (Sign × Text)}
    (h : operandsFrom quoting depth sign begun t = some ts) (enclosed : Enclosed quoting depth t) :
    ts.length = 1 := by
  induction t generalizing quoting depth sign begun ts with
  | nil =>
      rw [operandsFrom] at h
      split at h
      · cases h
      · cases h
        rfl
  | cons c r ih =>
      obtain ⟨here, later⟩ := enclosed
      rcases operandsFrom_cons h with ⟨next, us, rfl, rfl, rfl, -, -⟩ | ⟨-, onward⟩
      · have unsigned := here rfl rfl
        cases next <;> cases unsigned
      · exact ih onward later

/-- **With its signs enclosed an expression is no chain.** -/
lemma operands?_eq_none {e : Text} (enclosed : Enclosed .outside 0 e) : operands? e = none := by
  cases found : operands? e with
  | none => rfl
  | some ts =>
      obtain ⟨read, several⟩ := Option.filter_eq_some_iff.1 found
      have single := length_operandsFrom_of_enclosed read enclosed
      have two : 2 ≤ ts.length := of_decide_eq_true several
      omega

/-- A text that is one piece is one behind its first character too, which does not separate. -/
lemma separates_of_splitFrom {sep : Char} {quoting : Quoting} {depth : Int} {c : Char} {r : Text}
    (h : (splitFrom sep quoting depth (c :: r)).length = 1) :
    separates sep quoting depth c = false ∧
      (splitFrom sep (quoting.next c) (if quoting = .outside then depth + nestingStep c else depth)
        r).length = 1 := by
  rw [splitFrom] at h
  dsimp only at h
  split at h
  · have more := List.length_pos_iff.2 (splitFrom_ne_nil sep .outside depth r)
    rw [List.length_cons] at h
    omega
  · rename_i inside
    refine ⟨by simpa using inside, ?_⟩
    obtain ⟨p, ps, pieces⟩ := List.exists_cons_of_ne_nil (splitFrom_ne_nil sep (quoting.next c)
      (if quoting = .outside then depth + nestingStep c else depth) r)
    rw [pieces] at h ⊢
    exact h

/-- Round parentheses are the only brackets that are no square or curly ones. -/
lemma nestingStep_eq_roundStep {c : Char} (h : isBracket c = false) :
    nestingStep c = roundStep c := by
  simp only [isBracket, Bool.or_eq_false_iff, beq_eq_false_iff_ne] at h
  obtain ⟨⟨⟨square, square'⟩, curly⟩, curly'⟩ := h
  simp [nestingStep, roundStep, isOpening, isClosing, square, square', curly, curly']

/-- **A sign in brackets that cuts an expression in two has a square or curly one before it.** -/
lemma holdsBracket_of_operandsFrom {quoting : Quoting} {depth nesting : Int} {sign : Sign}
    {begun t : Text} {ts : List (Sign × Text)}
    (h : operandsFrom quoting depth sign begun t = some ts) (several : 2 ≤ ts.length)
    (single : ∀ sign : Sign, (splitFrom sign.char quoting nesting t).length = 1)
    (level : ¬HoldsBracket .outside begun.reverse → nesting = depth)
    (state : quotingAfter begun.reverse = quoting) :
    HoldsBracket .outside (begun.reverse ++ t) := by
  induction t generalizing quoting depth nesting sign begun ts with
  | nil =>
      rw [operandsFrom] at h
      split at h
      · cases h
      · cases h
        cases several with | step h => cases h
  | cons c r ih =>
      rcases operandsFrom_cons h with ⟨next, us, rfl, rfl, rfl, -, -⟩ | ⟨-, onward⟩
      · by_cases before : HoldsBracket .outside begun.reverse
        · exact holdsBracket_append.2 (.inl before)
        · -- without a bracket before it the sign is at the top level for both scanners
          obtain rfl := level before
          have inside := (separates_of_splitFrom (single next)).1
          cases next <;> exact absurd inside (by decide)
      · have whole : begun.reverse ++ c :: r = (c :: begun).reverse ++ r := by simp
        rw [whole]
        refine ih onward several (fun sign => (separates_of_splitFrom (single sign)).2) ?_ ?_
        · rw [List.reverse_cons, holdsBracket_append, not_or, ← quotingAfter, state]
          rintro ⟨before, here⟩
          rw [level before]
          split
          · rename_i outside
            have plain : isBracket c = false := by simpa [HoldsBracket, outside] using here
            rw [nestingStep_eq_roundStep plain]
          · rfl
        · rw [List.reverse_cons, quotingAfter_concat, state]

/-- A chain whose signs are all in brackets has a square or curly one outside literals. -/
lemma holdsBracket_of_operands? {e : Text} {ts : List (Sign × Text)} (h : operands? e = some ts)
    (nested : ∀ sign : Sign, splitTopLevel sign.char e = [e]) : HoldsBracket .outside e := by
  obtain ⟨read, several⟩ := Option.filter_eq_some_iff.1 h
  have single : ∀ sign : Sign, (splitFrom sign.char .outside 0 e).length = 1 := fun sign =>
    congrArg List.length (nested sign)
  exact holdsBracket_of_operandsFrom read (of_decide_eq_true several) single (fun _ => rfl) rfl

/-! ## Plus signs -/

section Plus

lemma count_unescape_le {quote : Char} {t v : Text} (h : unescape quote t = some v) :
    v.count '+' ≤ t.count '+' := by
  fun_induction unescape quote t generalizing v with
  | case1 =>
      cases h
      exact Nat.le_refl _
  | case2 => cases h
  | case3 c r ih =>
      obtain ⟨w, found, rfl⟩ := Option.map_eq_some_iff.1 h
      have fewer := ih found
      have kept : [if c = 'n' then '\n' else if c = 't' then '\t' else c].count '+' ≤
          [c].count '+' := by
        split_ifs <;> simp
      simp only [List.count_cons, List.count_nil] at kept ⊢
      omega
  | case4 r => cases h
  | case5 c r last pair other ih =>
      obtain ⟨w, found, rfl⟩ := Option.map_eq_some_iff.1 h
      have fewer := ih found
      simp only [List.count_cons]
      omega

lemma count_literal?_le {e v : Text} (h : literal? e = some v) : v.count '+' ≤ e.count '+' := by
  unfold literal? at h
  split at h
  · cases h
  · rename_i quote r
    split at h
    · calc v.count '+' ≤ r.dropLast.count '+' := count_unescape_le h
        _ ≤ r.count '+' := (List.dropLast_sublist r).count_le '+'
        _ ≤ (quote :: r).count '+' := List.count_le_count_cons
    · cases h

lemma plus_not_mem_ofNat (n : Nat) : '+' ∉ ofNat n := fun found =>
  absurd (isDigit_of_mem_ofNat found) (by decide)

lemma plus_not_mem_positional (c : Coefficient) : '+' ∉ c.positional := by
  have digits := plus_not_mem_ofNat c.digits
  unfold Coefficient.positional
  dsimp only
  split
  · rw [List.mem_append, List.mem_cons]
    rintro (whole | point | fraction)
    · exact digits (List.mem_of_mem_take whole)
    · cases point
    · exact digits (List.mem_of_mem_drop fraction)
  · simp only [List.mem_cons, List.mem_append, List.mem_replicate]
    rintro (zero | point | ⟨-, zero⟩ | fraction)
    · cases zero
    · cases point
    · cases zero
    · exact digits fraction

/-- No number that is written has a plus sign. -/
lemma plus_not_mem_sumText (numbers : List (Sign × Number)) : '+' ∉ sumText numbers := by
  have magnitude (b : Binary) : '+' ∉ magnitudeText b := by
    unfold magnitudeText
    split
    · rw [List.mem_append]
      rintro (whole | fraction)
      · exact plus_not_mem_ofNat _ whole
      · revert fraction
        decide
    · exact plus_not_mem_positional _
  unfold sumText Total.text
  split
  · rename_i n _
    cases n with
    | ofNat n => exact plus_not_mem_ofNat n
    | negSucc n =>
        rw [ofInt, List.mem_cons]
        rintro (sign | digits)
        · cases sign
        · exact plus_not_mem_ofNat _ digits
  · unfold ofFloat ofBits
    split
    · decide
    · decide
    · decide
    · exact magnitude _
    · rw [List.mem_cons]
      rintro (sign | digits)
      · cases sign
      · exact magnitude _ digits

/-- The operands of a chain have fewer plus signs than the chain by one for each of them that is
added, the first apart. -/
lemma count_operandsFrom_le {quoting : Quoting} {depth : Int} {sign : Sign} {begun t : Text}
    {ts : List (Sign × Text)} (h : operandsFrom quoting depth sign begun t = some ts) :
    (ts.map fun p => p.2.count '+').sum + (ts.map Prod.fst).count .plus ≤
      begun.count '+' + t.count '+' + [sign].count .plus := by
  have trimmed (begun : Text) : (trim begun.reverse).count '+' ≤ begun.count '+' := by
    rw [← List.count_reverse (l := begun)]
    exact (trim_isInfix _).sublist.count_le '+'
  induction t generalizing quoting depth sign begun ts with
  | nil =>
      have here := trimmed begun
      rw [operandsFrom] at h
      split at h
      · cases h
      · cases h
        simpa using here
  | cons c r ih =>
      rcases operandsFrom_cons h with ⟨next, us, -, -, rfl, rest, rfl⟩ | ⟨-, onward⟩
      · have here := trimmed begun
        have later := ih rest
        have signed : [next.char].count '+' = [next].count .plus := by
          cases next <;> rfl
        simp only [List.map_cons, List.sum_cons, List.count_cons, List.count_nil] at *
        omega
      · have later := ih onward
        simp only [List.count_cons] at *
        omega

/-- A chain that is put together from its values has fewer plus signs than before. -/
lemma count_flatMap_lt {env : Environment} {e : Text} {ts : List (Sign × Text)}
    (h : operands? e = some ts) (added : ∀ p ∈ ts, p.1 = .plus)
    (fewer : ∀ p ∈ ts, (evaluate env p.2).count '+' ≤ p.2.count '+') :
    (ts.flatMap fun p => evaluate env p.2).count '+' < e.count '+' := by
  obtain ⟨read, several⟩ := Option.filter_eq_some_iff.1 h
  have two : 2 ≤ ts.length := of_decide_eq_true several
  have all : (ts.map Prod.fst).count .plus = ts.length := by
    rw [List.count_eq_length.2, List.length_map]
    intro sign member
    obtain ⟨p, inside, rfl⟩ := List.mem_map.1 member
    exact (added p inside).symm
  have operands := count_operandsFrom_le read
  have values : (ts.map fun p => (evaluate env p.2).count '+').sum ≤
      (ts.map fun p => p.2.count '+').sum := List.sum_le_sum fewer
  rw [List.count_flatMap]
  simp only [all, List.count_nil, List.count_singleton_self] at operands
  simp only [Function.comp_def]
  omega

/-- **No value has more plus signs than its expression.** -/
theorem count_evaluate_le {env : Environment} (plain : ∀ x v, env x = some v → '+' ∉ v) (e : Text) :
    (evaluate env e).count '+' ≤ e.count '+' := by
  have trimmed (e : Text) : e.trim.count '+' ≤ e.count '+' :=
    (trim_isInfix e).sublist.count_le '+'
  refine @evaluate_induction env (fun e v => v.count '+' ≤ e.count '+')
    ?literal ?constant ?bound ?unwrapped ?chain ?other e
  case literal => exact fun found => (count_literal?_le found).trans (trimmed _)
  case constant => exact fun _ => trimmed _
  case bound =>
    intro e v found
    rw [List.count_eq_zero.2 (plain _ v found)]
    exact Nat.zero_le _
  case unwrapped =>
    intro e inner v found ih
    have within : inner.count '+' ≤ e.trim.count '+' := by
      rw [eq_of_unwrap? found]
      exact (List.infix_cons (List.prefix_append inner _).isInfix).sublist.count_le '+'
    exact ih.trans (within.trans (trimmed e))
  case other => exact trimmed _
  case chain =>
    intro e ts found fewer
    unfold combine?
    split
    · rw [Option.getD_some, List.count_eq_zero.2 (plus_not_mem_sumText _)]
      exact Nat.zero_le _
    · split
      · rename_i added
        rw [List.all_map, List.all_eq_true] at added
        rw [Option.getD_some, List.flatMap_map]
        exact (count_flatMap_lt found (fun p member => eq_of_beq (added p member)) fewer).le.trans
          (trimmed e)
      · exact trimmed e

end Plus

/-! ## Unknown expressions -/

/-- **An expression that is nothing before it is taken for a chain**: no blanks around it, no
literal, no number or truth value, no bound name, and not in parentheses. -/
structure Unknown (env : Environment) (e : Text) : Prop where
  trimmed : e.trim = e
  unquoted : literal? e = none
  inconstant : isConstant e = false
  unbound : env e = none
  bare : unwrap? e = none

/-- Whether an expression is unknown is evaluated. -/
instance (env : Environment) (e : Text) : Decidable (Unknown env e) :=
  decidable_of_iff (e.trim = e ∧ literal? e = none ∧ isConstant e = false ∧ env e = none ∧
      unwrap? e = none)
    ⟨fun ⟨trimmed, unquoted, inconstant, unbound, bare⟩ =>
      ⟨trimmed, unquoted, inconstant, unbound, bare⟩,
    fun h => ⟨h.trimmed, h.unquoted, h.inconstant, h.unbound, h.bare⟩⟩

section Unknown

variable {env : Environment} {e : Text}

lemma Unknown.evaluate_eq (h : Unknown env e) :
    evaluate env e =
      match operands? e with
      | some ts => (combine? (ts.map fun p => (p.1, evaluate env p.2))).getD e
      | none => e := by
  rw [Expression.evaluate_eq]
  cases found : operands? e with
  | none => simp [h.trimmed, h.unquoted, h.inconstant, h.unbound, h.bare, found]
  | some ts => simp [h.trimmed, h.unquoted, h.inconstant, h.unbound, h.bare, found]

/-- **With its signs in literals and round parentheses it is returned as written.** -/
lemma Unknown.evaluate_of_enclosed (h : Unknown env e) (enclosed : Enclosed .outside 0 e) :
    evaluate env e = e := by
  rw [h.evaluate_eq, operands?_eq_none enclosed]

/-- With its signs in any brackets it is cut at those that are in square or curly ones alone. -/
lemma Unknown.evaluate_of_nested (h : Unknown env e)
    (nested : ∀ sign : Sign, splitTopLevel sign.char e = [e])
    (named : ∀ x, (env x).isSome = true → ∀ c ∈ x, isBracket c = false) :
    evaluate env e =
      match operands? e with
      | some ts =>
        if ts.all fun p => p.1 == .plus then ts.flatMap fun p => evaluate env p.2 else e
      | none => e := by
  rw [h.evaluate_eq]
  split
  · rename_i ts found
    obtain ⟨p, member, bracketed⟩ :=
      exists_operand_of_operands? found (holdsBracket_of_operands? found nested)
    rw [combine?_of_bracket member (exists_bracket_evaluate named bracketed)]
    split <;> rfl
  · rfl

/-- **What becomes of an unknown expression.**  It is returned as written if every sign in it stands
in a literal or in round parentheses.  If signs stand in square or curly brackets too, it is cut at
these: with a minus among them it is returned as written, and otherwise the values of the pieces are
put together without the plus signs, which is never what was written as long as no name stands for
one. -/
theorem evaluate_unknown (unknown : Unknown env e) :
    (Enclosed .outside 0 e → evaluate env e = e) ∧
    ((∀ sign : Sign, splitTopLevel sign.char e = [e]) →
      (∀ x, (env x).isSome = true → ∀ c ∈ x, isBracket c = false) →
      evaluate env e =
          (match operands? e with
          | some ts =>
            if ts.all fun p => p.1 == .plus then ts.flatMap fun p => evaluate env p.2 else e
          | none => e) ∧
        ((∀ x v, env x = some v → '+' ∉ v) →
          (evaluate env e = e ↔
            ∀ ts, operands? e = some ts → ∃ p ∈ ts, p.1 = Sign.minus))) := by
  refine ⟨unknown.evaluate_of_enclosed, fun nested named => ?_⟩
  have value := unknown.evaluate_of_nested nested named
  refine ⟨value, fun plain => ?_⟩
  constructor
  · intro same ts found
    by_contra added
    have signs : ∀ p ∈ ts, p.1 = .plus := by
      intro p member
      cases sign : p.1 with
      | plus => rfl
      | minus => exact absurd ⟨p, member, sign⟩ added
    have fewer := count_flatMap_lt found signs fun p _ => count_evaluate_le plain p.2
    have all : (ts.all fun p => p.1 == .plus) = true :=
      List.all_eq_true.2 fun p member => beq_iff_eq.2 (signs p member)
    simp only [found, all, if_true] at value
    rw [← value, same] at fewer
    exact Nat.lt_irrefl _ fewer
  · intro kept
    rw [value]
    split
    · rename_i ts found
      obtain ⟨p, member, minus⟩ := kept ts found
      rw [if_neg]
      intro all
      have plus := eq_of_beq (List.all_eq_true.1 all p member)
      rw [minus] at plus
      cases plus
    · rfl

/-- The argument of a call stays, and a bound name in an index is replaced. -/
theorem evaluate_unknown_index :
    let env : Environment := fun x => if x = "i" then some "5" else none
    evaluate env "f(i + 1)" = ("f(i + 1)" : Text) ∧
      evaluate env "a[x + i + 1]" = ("a[x51]" : Text) ∧
      evaluate env "a[x + i - 1]" = ("a[x + i - 1]" : Text) := by
  intro env
  have bound : ∀ x v, env x = some v → x = "i" ∧ v = "5" := by
    intro x v found
    simp only [env] at found
    split at found
    · exact ⟨by assumption, (Option.some.inj found).symm⟩
    · cases found
  have named : ∀ x, (env x).isSome = true → ∀ c ∈ x, isBracket c = false := by
    intro x some
    obtain ⟨v, found⟩ := Option.isSome_iff_exists.1 some
    rw [(bound x v found).1]
    simp [isBracket]
  have plain : ∀ x v, env x = some v → '+' ∉ v := by
    intro x v found
    rw [(bound x v found).2]
    decide
  have call := @evaluate_unknown env "f(i + 1)" (by decide)
  have sum := @evaluate_unknown env "a[x + i + 1]" (by decide)
  have difference := @evaluate_unknown env "a[x + i - 1]" (by decide)
  obtain ⟨value, -⟩ := sum.2 (fun sign => by cases sign <;> decide) named
  obtain ⟨-, same⟩ := difference.2 (fun sign => by cases sign <;> decide) named
  refine ⟨call.1 (by decide), ?_, (same plain).2 fun ts found => ?_⟩
  · rw [value]
    decide +kernel
  · have operands : operands? ("a[x + i - 1]" : Text) =
        some [(Sign.plus, ("a[x" : Text)), (Sign.plus, "i"), (Sign.minus, "1]")] := by
      decide
    obtain rfl := Option.some.inj (operands.symm.trans found)
    exact ⟨(Sign.minus, "1]"), by simp, rfl⟩

/-- **A sign in square brackets is lost**, together with the blanks around it: the place of an array
and the elements of a list are no longer what was written. -/
theorem sign_in_brackets_is_lost :
    Unknown .empty "a[i + 1]" ∧
    (∀ sign : Sign, splitTopLevel sign.char "a[i + 1]" = [("a[i + 1]" : Text)]) ∧
    evaluate .empty "a[i + 1]" = ("a[i1]" : Text) ∧
    evaluate .empty "[1 + 2, 3]" = ("[12, 3]" : Text) := by
  refine ⟨by decide, fun sign => ?_, ?_, ?_⟩
  · cases sign <;> decide
  · decide +kernel
  · decide +kernel

end Unknown

end SnippetLab.Expression

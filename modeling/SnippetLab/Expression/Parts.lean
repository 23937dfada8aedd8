import SnippetLab.Source.Splitting
import SnippetLab.Statement.Basic

/-!
# The parts of an expression

How an expression is taken apart: as one string literal, as a parenthesised expression, or as a
chain of operands joined by plus and minus.  Every operand of a chain is shorter than the chain
(`length_lt_of_mem_operands`), which is why evaluation comes to an end.
-/

namespace SnippetLab.Expression

open Source

/-! ## String literals -/

/-- The contents between the quotes of a literal: a backslash makes the next character stand for
itself, or for a line feed or a tab; a bare quote of the same kind makes it no literal. -/
def unescape (quote : Char) : Text → Option Text
  | [] => some []
  | ['\\'] => none
  | '\\' :: c :: r =>
    (unescape quote r).map ((if c = 'n' then '\n' else if c = 't' then '\t' else c) :: ·)
  | c :: r => if c = quote then none else (unescape quote r).map (c :: ·)

/-- **The value of a string literal**, if the text is exactly one. -/
def literal? : Text → Option Text
  | [] => none
  | quote :: r =>
    if Text.isQuote quote && r.getLast? == some quote then unescape quote r.dropLast else none

/-! ## Parentheses -/

/-- Do the parentheses of a text never close more than they opened, and all close in the end?  A
character between two quotes of a kind does not count. -/
def encloses (depth : Nat) (quote : Option Char) : Text → Bool
  | [] => depth == 0
  | c :: r =>
    match quote with
    | some q => encloses depth (if c = q then none else some q) r
    | none =>
      if Text.isQuote c then encloses depth (some c) r
      else if c = '(' then encloses (depth + 1) none r
      else if c = ')' then
        match depth with
        | 0 => false
        | d + 1 => encloses d none r
      else encloses depth none r

/-- What stands inside the parentheses that enclose a whole text. -/
def unwrap? : Text → Option Text
  | '(' :: r =>
    match r.getLast? with
    | some ')' => if encloses 0 none r.dropLast then some r.dropLast else none
    | _ => none
  | _ => none

/-! ## Chains -/

/-- The operands from a state of the scanner on, the first of them signed `sign` and begun by
`begun` (nearest character first).  A minus sign with no operand before it belongs to the operand;
a plus sign with none before it, or a sign with none after it, makes it no chain. -/
def operandsFrom (quoting : Quoting) (depth : Int) (sign : Sign) (begun : Text) :
    Text → Option (List (Sign × Text))
  | [] => if Text.isAllBlank begun then none else some [(sign, Text.trim begun.reverse)]
  | c :: r =>
    let next := if quoting = .outside && depth == 0 then Sign.ofChar? c else none
    match next with
    | some sign' =>
      if Text.isAllBlank begun then
        match sign' with
        | .plus => none
        | .minus => operandsFrom .outside 0 sign (c :: begun) r
      else (operandsFrom .outside 0 sign' [] r).map ((sign, Text.trim begun.reverse) :: ·)
    | none =>
      let depth' :=
        if quoting = .outside then
          if c = '(' then depth + 1 else if c = ')' then depth - 1 else depth
        else depth
      operandsFrom (quoting.next c) depth' sign (c :: begun) r

/-- **The signed operands of a chain**: at least two, joined by plus and minus signs outside
literals and parentheses. -/
def operands? (t : Text) : Option (List (Sign × Text)) :=
  (operandsFrom .outside 0 .plus [] t).filter fun ts => 2 ≤ ts.length

/-! ## Parts are shorter -/

/-- Trimming never lengthens. -/
theorem length_trim_le (t : Text) : t.trim.length ≤ t.length := by
  have ends : (Text.trimStart t).trimEnd.length ≤ (Text.trimStart t).length := by
    simpa [Text.trimEnd, Text.dropEndWhile] using
      (List.dropWhile_sublist (l := (Text.trimStart t).reverse) Text.isBlank).length_le
  exact Nat.le_trans ends (List.dropWhile_sublist _).length_le

/-- What stands inside enclosing parentheses is shorter than the whole. -/
theorem length_lt_of_unwrap? {t inner : Text} (h : unwrap? t = some inner) :
    inner.length < t.length := by
  unfold unwrap? at h
  split at h
  · rename_i r
    split at h
    · split at h
      · cases h
        grind
      · cases h
    · cases h
  · cases h

/-- An operand of a chain, together with a character for each operand but one, fits into the text
the chain was read from. -/
theorem length_add_length_operandsFrom (quoting : Quoting) (depth : Int) (sign : Sign)
    (begun t : Text) (ts : List (Sign × Text))
    (h : operandsFrom quoting depth sign begun t = some ts) :
    ∀ p ∈ ts, p.2.length + ts.length ≤ begun.length + t.length + 1 := by
  induction t generalizing quoting depth sign begun ts with
  | nil =>
    unfold operandsFrom at h
    split at h
    · cases h
    · cases h
      intro p hp
      have only : p = (sign, Text.trim begun.reverse) := List.mem_singleton.1 hp
      have trimmed := length_trim_le begun.reverse
      rw [List.length_reverse] at trimmed
      rw [only]
      exact Nat.succ_le_succ trimmed
  | cons c r ih =>
    unfold operandsFrom at h
    simp only at h
    split at h
    · split at h
      · split at h
        · cases h
        · intro p hp
          have bound := ih _ _ _ _ _ h p hp
          rw [List.length_cons] at bound ⊢
          omega
      · obtain ⟨us, hus, rfl⟩ := Option.map_eq_some_iff.1 h
        have later := ih _ _ _ _ _ hus
        have trimmed := length_trim_le begun.reverse
        rw [List.length_reverse] at trimmed
        rw [List.length_nil] at later
        have few : us.length ≤ r.length + 1 := by
          cases us with
          | nil => exact Nat.zero_le _
          | cons u us =>
            have bound := later u List.mem_cons_self
            omega
        intro p hp
        rw [List.length_cons, List.length_cons]
        cases List.mem_cons.1 hp with
        | inl here =>
          rw [here]
          dsimp only
          omega
        | inr there =>
          have bound := later p there
          omega
    · intro p hp
      have bound := ih _ _ _ _ _ h p hp
      rw [List.length_cons] at bound ⊢
      omega

/-- **Every operand of a chain is shorter than the chain.** -/
theorem length_lt_of_mem_operands {t : Text} {ts : List (Sign × Text)} {p : Sign × Text}
    (h : operands? t = some ts) (hp : p ∈ ts) : p.2.length < t.length := by
  obtain ⟨found, several⟩ := Option.filter_eq_some_iff.1 h
  have bound := length_add_length_operandsFrom _ _ _ _ _ _ found p hp
  have two : 2 ≤ ts.length := of_decide_eq_true several
  rw [List.length_nil] at bound
  omega

end SnippetLab.Expression

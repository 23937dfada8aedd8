import SnippetLab.Proofs.Expression.Number
import SnippetLab.Proofs.Text.Blanks
import SnippetLab.Proofs.Text.Parts

/-!
# How chains are read

A chain is written as an operand and then, again and again, an operator and an operand.  Two
scanners have to take it apart again: the one for enclosing parentheses and the one for operands.

* `Balanced` — texts without quotes in which parentheses match; the scanner for parentheses passes
  them and is afterwards in the state it was in (`encloses_balanced`).
* `closes` — with literals too, the texts that the scanner for operands passes in parentheses
  (`operandsFrom_closes`); balanced texts are such texts (`closes_balanced`).
* `Readable` — texts that are passed as one operand; `IsOperand` — a word, a word behind a minus
  sign, or a balanced text in parentheses, and these are (`IsOperand.readable`).
* `Leads.chainText` — a chain is never taken for a literal or a parenthesised expression, not even
  if it begins with one quote or parenthesis and ends with the other.
* `operands?_chainText` — **the operands read are the operands written**, each with its sign.
-/

namespace SnippetLab.Expression

open Source Text

/-! ## Plain characters -/

/-- Neither a quote nor a parenthesis. -/
def isPlain (c : Char) : Bool := !(isQuote c || c == '(' || c == ')')

/-- Neither of the signs. -/
def isUnsigned (c : Char) : Bool := Sign.ofChar? c == none

lemma of_isPlain {c : Char} (h : isPlain c = true) : isQuote c = false ∧ c ≠ '(' ∧ c ≠ ')' := by
  simpa [isPlain, and_assoc] using h

lemma isPlain_of_isBlank {c : Char} (h : isBlank c = true) : isPlain c = true :=
  of_isBlank (by decide) h

lemma isUnsigned_of_isBlank {c : Char} (h : isBlank c = true) : isUnsigned c = true :=
  of_isBlank (by decide) h

lemma isPlain_of_isWordChar {c : Char} (h : isWordChar c = true) : isPlain c = true := by
  have double := ne_of_isWordChar h (d := '"') (by decide)
  have single := ne_of_isWordChar h (d := '\'') (by decide)
  have opening := ne_of_isWordChar h (d := '(') (by decide)
  have closing := ne_of_isWordChar h (d := ')') (by decide)
  simp [isPlain, isQuote, double, single, opening, closing]

lemma isUnsigned_of_isWordChar {c : Char} (h : isWordChar c = true) : isUnsigned c = true := by
  have plus := ne_of_isWordChar h (d := '+') (by decide)
  have minus := ne_of_isWordChar h (d := '-') (by decide)
  simp [isUnsigned, Sign.ofChar?, plus, minus]

lemma isPlain_char (sign : Sign) : isPlain sign.char = true := by
  cases sign with
  | plus => decide
  | minus => decide

/-! ## Balanced texts -/

/-- No quotes, and every parenthesis has its partner. -/
inductive Balanced : Text → Prop
  | nil : Balanced []
  | plain {c : Char} {r : Text} (here : isPlain c = true) (later : Balanced r) : Balanced (c :: r)
  | group {inner r : Text} (inside : Balanced inner) (later : Balanced r) :
      Balanced ('(' :: (inner ++ ')' :: r))

namespace Balanced

lemma of_forall {t : Text} (h : ∀ c ∈ t, isPlain c = true) : Balanced t := by
  induction t with
  | nil => exact .nil
  | cons c r ih =>
      rw [List.forall_mem_cons] at h
      exact .plain h.1 (ih h.2)

lemma append {t u : Text} (ht : Balanced t) (hu : Balanced u) : Balanced (t ++ u) := by
  induction ht with
  | nil => exact hu
  | plain here _ ih => exact .plain here ih
  | group inside _ _ ih =>
      rw [List.cons_append, List.append_assoc, List.cons_append]
      exact .group inside ih

lemma parenthesized {inner : Text} (h : Balanced inner) : Balanced ('(' :: (inner ++ [')'])) :=
  .group h .nil

lemma isQuote_of_cons {c : Char} {r : Text} (h : Balanced (c :: r)) : isQuote c = false := by
  cases h with
  | plain here _ => exact (of_isPlain here).1
  | group _ _ => decide

end Balanced

/-! ## The scanner for parentheses -/

lemma encloses_plain {c : Char} (h : isPlain c = true) (depth : Nat) (r : Text) :
    encloses depth none (c :: r) = encloses depth none r := by
  obtain ⟨quote, opening, closing⟩ := of_isPlain h
  simp [encloses, quote, opening, closing]

lemma encloses_open (depth : Nat) (r : Text) :
    encloses depth none ('(' :: r) = encloses (depth + 1) none r := rfl

lemma encloses_close (depth : Nat) (r : Text) :
    encloses (depth + 1) none (')' :: r) = encloses depth none r := rfl

/-- **A balanced text leaves the depth as it was.** -/
theorem encloses_balanced {t : Text} (h : Balanced t) (depth : Nat) (r : Text) :
    encloses depth none (t ++ r) = encloses depth none r := by
  induction h generalizing depth r with
  | nil => rfl
  | plain here _ ih => rw [List.cons_append, encloses_plain here, ih]
  | group _ _ inside later =>
      rw [List.cons_append, List.append_assoc, List.cons_append, encloses_open, inside,
        encloses_close, later]

lemma Balanced.encloses {t : Text} (h : Balanced t) : encloses 0 none t = true := by
  have whole := encloses_balanced h 0 []
  rw [List.append_nil] at whole
  exact whole

/-- **Parentheses at both ends are taken off if those between them match.** -/
lemma unwrap?_parenthesized (inner : Text) :
    unwrap? ('(' :: (inner ++ [')'])) = if encloses 0 none inner then some inner else none := by
  simp [unwrap?]

/-- Parentheses that close before the end enclose nothing. -/
lemma unwrap?_group_append {inner r : Text} (h : Balanced inner) (more : r ≠ []) :
    unwrap? ('(' :: (inner ++ ')' :: r)) = none := by
  have closed : encloses 0 none (inner ++ ')' :: r).dropLast = false := by
    rw [List.dropLast_append_of_ne_nil (List.cons_ne_nil _ _),
      List.dropLast_cons_of_ne_nil more, encloses_balanced h]
    rfl
  unfold unwrap?
  split
  · rename_i same
    cases same
    split
    · rw [closed]
      rfl
    · rfl
  · rfl

/-! ## The scanner for operands -/

/-- **A character that is no sign between operands stays with the operand**; unless it is a
parenthesis outside literals, the depth stays too. -/
lemma operandsFrom_onward {quoting : Quoting} {depth : Int} {c : Char}
    (joined : quoting ≠ .outside ∨ depth ≠ 0 ∨ isUnsigned c = true)
    (level : quoting ≠ .outside ∨ c ≠ '(' ∧ c ≠ ')') (sign : Sign) (begun r : Text) :
    operandsFrom quoting depth sign begun (c :: r) =
      operandsFrom (quoting.next c) depth sign (c :: begun) r := by
  have noSign : (if quoting = .outside ∧ depth = 0 then Sign.ofChar? c else none) = none := by
    rcases joined with literal | deep | unsigned
    · simp [literal]
    · simp [deep]
    · rw [eq_of_beq unsigned, ite_self]
  rcases level with literal | ⟨opening, closing⟩
  · simp [operandsFrom, literal]
  · simp [operandsFrom, noSign, opening, closing]

lemma operandsFrom_plain {c : Char} (h : isPlain c = true) {depth : Int}
    (joined : depth ≠ 0 ∨ isUnsigned c = true) (sign : Sign) (begun r : Text) :
    operandsFrom .outside depth sign begun (c :: r) =
      operandsFrom .outside depth sign (c :: begun) r := by
  obtain ⟨quote, opening, closing⟩ := of_isPlain h
  rw [operandsFrom_onward (.inr joined) (.inr ⟨opening, closing⟩)]
  simp [Quoting.next, quote]

lemma operandsFrom_open (depth : Int) (sign : Sign) (begun r : Text) :
    operandsFrom .outside depth sign begun ('(' :: r) =
      operandsFrom .outside (depth + 1) sign ('(' :: begun) r := by
  simp [operandsFrom, Sign.ofChar?, Quoting.next, isQuote]

lemma operandsFrom_close (depth : Int) (sign : Sign) (begun r : Text) :
    operandsFrom .outside depth sign begun (')' :: r) =
      operandsFrom .outside (depth - 1) sign (')' :: begun) r := by
  simp [operandsFrom, Sign.ofChar?, Quoting.next, isQuote]

/-- Plain characters that are no signs stay with the operand. -/
lemma operandsFrom_unsigned {t : Text}
    (h : ∀ c ∈ t, isPlain c = true ∧ isUnsigned c = true) (sign : Sign) (begun r : Text) :
    operandsFrom .outside 0 sign begun (t ++ r) =
      operandsFrom .outside 0 sign (t.reverse ++ begun) r := by
  induction t generalizing begun with
  | nil => rfl
  | cons c t ih =>
      rw [List.forall_mem_cons] at h
      rw [List.cons_append, operandsFrom_plain h.1.1 (.inr h.1.2), ih h.2, List.reverse_cons,
        List.append_assoc, List.singleton_append]

/-- A sign with nothing but blanks before it belongs to the operand if it is a minus. -/
lemma operandsFrom_unary (sign : Sign) {begun : Text} (blank : isAllBlank begun = true) (r : Text) :
    operandsFrom .outside 0 sign begun ('-' :: r) =
      operandsFrom .outside 0 sign ('-' :: begun) r := by
  simp [operandsFrom, Sign.ofChar?, blank]

/-- After an operand a sign is an operator, and the next operand begins. -/
lemma operandsFrom_binary (sign next : Sign) {begun : Text} (full : isAllBlank begun = false)
    (r : Text) :
    operandsFrom .outside 0 sign begun (next.char :: r) =
      (operandsFrom .outside 0 next [] r).map ((sign, trim begun.reverse) :: ·) := by
  cases next with
  | plus => simp [operandsFrom, Sign.char, Sign.ofChar?, full]
  | minus => simp [operandsFrom, Sign.char, Sign.ofChar?, full]

/-! ## Parentheses that belong together -/

/-- **Do the parentheses outside literals belong together**, from a state of the scanner on?  None
of them closes more than is open; in the end all are closed, and so is the last literal. -/
def closes (quoting : Quoting) (depth : Nat) : Text → Bool
  | [] => quoting == .outside && depth == 0
  | c :: r =>
    if quoting = .outside ∧ c = '(' then closes .outside (depth + 1) r
    else if quoting = .outside ∧ c = ')' then
      match depth with
      | 0 => false
      | d + 1 => closes .outside d r
    else closes (quoting.next c) depth r

/-- Where no parenthesis counts the depth stays. -/
lemma stays_level {quoting : Quoting} {c : Char} (noOpening : ¬(quoting = .outside ∧ c = '('))
    (noClosing : ¬(quoting = .outside ∧ c = ')')) : quoting ≠ .outside ∨ c ≠ '(' ∧ c ≠ ')' := by
  tauto

/-- **In parentheses a balanced expression is passed as a whole.** -/
theorem operandsFrom_closes {quoting : Quoting} {depth : Nat} {t : Text}
    (h : closes quoting depth t = true) (sign : Sign) (begun r : Text) :
    operandsFrom quoting (depth + 1 : Nat) sign begun (t ++ r) =
      operandsFrom .outside 1 sign (t.reverse ++ begun) r := by
  fun_induction closes quoting depth t generalizing begun with
  | case1 quoting depth =>
      rw [Bool.and_eq_true, beq_iff_eq, beq_iff_eq] at h
      rw [h.1, h.2]
      rfl
  | case2 quoting depth c t opening ih =>
      obtain ⟨rfl, rfl⟩ := opening
      rw [List.cons_append, operandsFrom_open, ← Int.natCast_succ, ih h]
      simp
  | case3 => cases h
  | case4 quoting c t _ closing d ih =>
      obtain ⟨rfl, rfl⟩ := closing
      rw [List.cons_append, operandsFrom_close, Int.natCast_succ, Int.add_sub_cancel, ih h]
      simp
  | case5 quoting depth c t noOpening noClosing ih =>
      have deep : ((depth + 1 : Nat) : Int) ≠ 0 := by omega
      rw [List.cons_append, operandsFrom_onward (.inr (.inl deep))
        (stays_level noOpening noClosing), ih h]
      simp

/-- In a balanced text they do. -/
lemma closes_balanced {t : Text} (h : Balanced t) (depth : Nat) (r : Text) :
    closes .outside depth (t ++ r) = closes .outside depth r := by
  induction h generalizing depth r with
  | nil => rfl
  | plain here _ ih =>
      obtain ⟨quote, opening, closing⟩ := of_isPlain here
      rw [List.cons_append, ← ih depth r]
      simp [closes, Quoting.next, quote, opening, closing]
  | group _ _ inside later =>
      rw [List.cons_append, List.append_assoc, List.cons_append, ← later depth r]
      exact inside (depth + 1) _

lemma Balanced.closes {t : Text} (h : Balanced t) : closes .outside 0 t = true := by
  have whole := closes_balanced h 0 []
  rw [List.append_nil] at whole
  exact whole

/-! ## Operands -/

/-- **A text that is read as one operand**: wherever an operand can begin, the scanner is behind
the text where the text ends. -/
structure Readable (w : Text) : Prop where
  solid : Solid w
  passed : ∀ (sign : Sign) {begun : Text}, isAllBlank begun = true → ∀ r : Text,
    operandsFrom .outside 0 sign begun (w ++ r) =
      operandsFrom .outside 0 sign (w.reverse ++ begun) r

/-- **A text that a chain can begin with**: with more behind it, it is neither a literal nor a
parenthesised expression. -/
structure Leads (w : Text) : Prop where
  unquoted : ∀ {r : Text}, r ≠ [] → literal? (w ++ r) = none
  ungrouped : ∀ {r : Text}, r ≠ [] → unwrap? (w ++ r) = none

lemma solid_parenthesized (inner : Text) : Solid ('(' :: (inner ++ [')'])) :=
  ⟨⟨'(', inner ++ [')'], rfl, by decide⟩, ⟨'(' :: inner, ')', rfl, by decide⟩⟩

/-- **In parentheses a balanced expression is read as one operand.** -/
theorem readable_parenthesized {e : Text} (h : closes .outside 0 e = true) :
    Readable ('(' :: (e ++ [')'])) where
  solid := solid_parenthesized e
  passed sign begun _ r := by
    rw [List.cons_append, List.append_assoc, List.singleton_append, operandsFrom_open,
      ← Int.natCast_zero, ← Int.natCast_succ, operandsFrom_closes h, operandsFrom_close]
    simp

/-- **The texts that a chain can have for an operand.** -/
inductive IsOperand : Text → Prop
  | word {w : Text} (nonempty : w ≠ []) (word : ∀ c ∈ w, isWordChar c = true) : IsOperand w
  | negative {w : Text} (nonempty : w ≠ []) (word : ∀ c ∈ w, isWordChar c = true) :
      IsOperand ('-' :: w)
  | parenthesized {inner : Text} (inside : Balanced inner) : IsOperand ('(' :: (inner ++ [')']))

namespace IsOperand

lemma balanced {w : Text} (h : IsOperand w) : Balanced w := by
  cases h with
  | word _ word => exact .of_forall fun c hc => isPlain_of_isWordChar (word c hc)
  | negative _ word =>
      exact .plain (by decide) (.of_forall fun c hc => isPlain_of_isWordChar (word c hc))
  | parenthesized inside => exact inside.parenthesized

lemma solid {w : Text} (h : IsOperand w) : Solid w := by
  cases h with
  | word nonempty word => exact .of_forall nonempty fun c hc => isBlank_of_isWordChar (word c hc)
  | @negative w nonempty word =>
      refine .of_forall (List.cons_ne_nil _ _) ?_
      rw [List.forall_mem_cons]
      exact ⟨by decide, fun c hc => isBlank_of_isWordChar (word c hc)⟩
  | @parenthesized inner _ => exact solid_parenthesized inner

/-- **The scanner is at the end of an operand where the operand ends.** -/
theorem passed {w : Text} (h : IsOperand w) (sign : Sign) {begun : Text}
    (blank : isAllBlank begun = true) (r : Text) :
    operandsFrom .outside 0 sign begun (w ++ r) =
      operandsFrom .outside 0 sign (w.reverse ++ begun) r := by
  have words {w : Text} (word : ∀ c ∈ w, isWordChar c = true) :
      ∀ c ∈ w, isPlain c = true ∧ isUnsigned c = true := fun c hc =>
    ⟨isPlain_of_isWordChar (word c hc), isUnsigned_of_isWordChar (word c hc)⟩
  cases h with
  | word _ word => exact operandsFrom_unsigned (words word) sign begun r
  | negative _ word =>
      rw [List.cons_append, operandsFrom_unary sign blank, operandsFrom_unsigned (words word)]
      simp
  | parenthesized inside => exact (readable_parenthesized inside.closes).passed sign blank r

lemma readable {w : Text} (h : IsOperand w) : Readable w := ⟨h.solid, h.passed⟩

/-- An operand with more behind it is neither a literal nor a parenthesised expression. -/
lemma leads {w : Text} (h : IsOperand w) : Leads w where
  unquoted := by
    obtain ⟨c, w, rfl, -⟩ := h.solid.first
    intro r _
    simp [literal?, h.balanced.isQuote_of_cons]
  ungrouped := by
    intro r more
    cases h with
    | word nonempty word =>
        obtain ⟨c, w, rfl⟩ := List.exists_cons_of_ne_nil nonempty
        have first := ne_of_isWordChar (word c List.mem_cons_self) (d := '(') (by decide)
        unfold unwrap?
        split
        · rename_i same
          exact absurd (List.cons.inj same).1 first
        · rfl
    | negative _ _ => rfl
    | parenthesized inside =>
        rw [List.cons_append, List.append_assoc, List.singleton_append]
        exact unwrap?_group_append inside more

end IsOperand

/-! ## Chains -/

/-- An operator: a sign with blanks around it. -/
structure Operator where
  sign : Sign
  before : Text
  after : Text
  blankBefore : isAllBlank before = true
  blankAfter : isAllBlank after = true

/-- An operator as it is written. -/
def Operator.text (op : Operator) : Text := op.before ++ op.sign.char :: op.after

/-- **A chain as it is written**: its first operand, then an operator before each of the others. -/
def chainText (first : Text) (rest : List (Operator × Text)) : Text :=
  first ++ rest.flatMap fun (op, operand) => op.text ++ operand

lemma chainText_cons (first : Text) (op : Operator) (operand : Text)
    (rest : List (Operator × Text)) :
    chainText first ((op, operand) :: rest) = first ++ (op.text ++ chainText operand rest) := by
  simp [chainText]

lemma Operator.balanced (op : Operator) : Balanced op.text := by
  have blanks {t : Text} (h : isAllBlank t = true) : Balanced t :=
    .of_forall fun c hc => isPlain_of_isBlank (List.all_eq_true.1 h c hc)
  exact (blanks op.blankBefore).append (.plain (isPlain_char op.sign) (blanks op.blankAfter))

lemma balanced_chainText {first : Text} {rest : List (Operator × Text)} (h : IsOperand first)
    (hs : ∀ p ∈ rest, IsOperand p.2) : Balanced (chainText first rest) := by
  induction rest generalizing first with
  | nil => simpa [chainText] using h.balanced
  | cons p rest ih =>
      obtain ⟨op, operand⟩ := p
      rw [List.forall_mem_cons] at hs
      rw [chainText_cons]
      exact h.balanced.append (op.balanced.append (ih hs.1 hs.2))

lemma solid_chainText {first : Text} {rest : List (Operator × Text)} (h : Readable first)
    (hs : ∀ p ∈ rest, Readable p.2) : Solid (chainText first rest) := by
  induction rest generalizing first with
  | nil => simpa [chainText] using h.solid
  | cons p rest ih =>
      obtain ⟨op, operand⟩ := p
      rw [List.forall_mem_cons] at hs
      rw [chainText_cons]
      exact h.solid.append (ih hs.1 hs.2) op.text

/-- **A chain is neither a literal nor a parenthesised expression.** -/
theorem Leads.chainText {first : Text} {rest : List (Operator × Text)} (h : Leads first)
    (several : rest ≠ []) :
    literal? (chainText first rest) = none ∧ unwrap? (chainText first rest) = none := by
  obtain ⟨⟨op, operand⟩, rest, rfl⟩ := List.exists_cons_of_ne_nil several
  have more : op.text ++ Expression.chainText operand rest ≠ [] := by simp [Operator.text]
  rw [chainText_cons]
  exact ⟨h.unquoted more, h.ungrouped more⟩

lemma operandsFrom_blanks {t : Text} (blank : isAllBlank t = true) (sign : Sign)
    (begun r : Text) :
    operandsFrom .outside 0 sign begun (t ++ r) =
      operandsFrom .outside 0 sign (t.reverse ++ begun) r := by
  refine operandsFrom_unsigned (fun c hc => ?_) sign begun r
  have here := List.all_eq_true.1 blank c hc
  exact ⟨isPlain_of_isBlank here, isUnsigned_of_isBlank here⟩

/-- The scanner behind an operand that begins after some blanks. -/
lemma operandsFrom_operand {w blanks : Text} (h : Readable w) (blank : isAllBlank blanks = true)
    (sign : Sign) (r : Text) :
    operandsFrom .outside 0 sign [] (blanks ++ (w ++ r)) =
      operandsFrom .outside 0 sign (blanks ++ w).reverse r := by
  have turned : isAllBlank blanks.reverse = true := by simpa [isAllBlank] using blank
  rw [operandsFrom_blanks blank, List.append_nil, h.passed sign turned, List.reverse_append]

lemma isAllBlank_operand {w : Text} (h : Readable w) (before after : Text) :
    isAllBlank (before ++ (w ++ after)).reverse = false := by
  obtain ⟨c, r, rfl, solid⟩ := h.solid.first
  simp [isAllBlank, solid]

/-- Behind an operand the text may end. -/
lemma operandsFrom_end {w blanks : Text} (h : Readable w) (blank : isAllBlank blanks = true)
    (sign : Sign) :
    operandsFrom .outside 0 sign (blanks ++ w).reverse [] = some [(sign, w)] := by
  have begun := isAllBlank_operand h blanks []
  have trimmed : trim (blanks ++ (w ++ [])) = w := h.solid.trim_padded blank rfl
  rw [List.append_nil] at begun trimmed
  rw [operandsFrom, if_neg (ne_true_of_eq_false begun),
    List.reverse_reverse, trimmed]

/-- Behind an operand an operator may follow. -/
lemma operandsFrom_operator {w blanks : Text} (h : Readable w) (blank : isAllBlank blanks = true)
    (sign : Sign) (op : Operator) (r : Text) :
    operandsFrom .outside 0 sign (blanks ++ w).reverse (op.text ++ r) =
      (operandsFrom .outside 0 op.sign [] (op.after ++ r)).map ((sign, w) :: ·) := by
  have begun := isAllBlank_operand h blanks op.before
  have trimmed := h.solid.trim_padded blank op.blankBefore
  have turned : op.before.reverse ++ (blanks ++ w).reverse =
      (blanks ++ (w ++ op.before)).reverse := by simp
  rw [Operator.text, List.append_assoc, List.cons_append, operandsFrom_blanks op.blankBefore,
    turned, operandsFrom_binary sign op.sign begun, List.reverse_reverse, trimmed]

/-- From the blanks before an operand on, the scanner reads the operands that are left. -/
lemma operandsFrom_chainText {first blanks : Text} {rest : List (Operator × Text)}
    (h : Readable first) (hs : ∀ p ∈ rest, Readable p.2) (blank : isAllBlank blanks = true)
    (sign : Sign) :
    operandsFrom .outside 0 sign [] (blanks ++ chainText first rest) =
      some ((sign, first) :: rest.map fun p => (p.1.sign, p.2)) := by
  induction rest generalizing first blanks sign with
  | nil =>
      rw [chainText, List.flatMap_nil, operandsFrom_operand h blank, operandsFrom_end h blank]
      rfl
  | cons p rest ih =>
      obtain ⟨op, operand⟩ := p
      rw [List.forall_mem_cons] at hs
      rw [chainText_cons, operandsFrom_operand h blank, operandsFrom_operator h blank,
        ih hs.1 hs.2 op.blankAfter]
      rfl

/-- **The operands read are the operands written.** -/
theorem operands?_chainText {first : Text} {rest : List (Operator × Text)} (h : Readable first)
    (hs : ∀ p ∈ rest, Readable p.2) (several : rest ≠ []) :
    operands? (chainText first rest) =
      some ((.plus, first) :: rest.map fun p => (p.1.sign, p.2)) := by
  have read : operandsFrom .outside 0 .plus [] ([] ++ chainText first rest) = _ :=
    operandsFrom_chainText h hs rfl .plus
  rw [List.nil_append] at read
  rw [operands?, read]
  refine Option.filter_eq_some_iff.2 ⟨rfl, ?_⟩
  have more := List.length_pos_iff.2 several
  rw [decide_eq_true_iff, List.length_cons, List.length_map]
  omega

/-- One operand is no chain. -/
lemma operands?_single {w : Text} (h : Readable w) : operands? w = none := by
  have read : operandsFrom .outside 0 .plus [] ([] ++ chainText w []) = some [(.plus, w)] :=
    operandsFrom_chainText h (by simp) rfl .plus
  rw [List.nil_append, chainText, List.flatMap_nil, List.append_nil] at read
  rw [operands?, read]
  rfl

end SnippetLab.Expression

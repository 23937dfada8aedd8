import SnippetLab.Proofs.Expression.Operands
import SnippetLab.Proofs.Statement.Names

/-!
# Names, parentheses and chains are evaluated

What evaluation does with a text depends on how the text is read.  A name that is bound stands for
its value (`evaluate_variable`); parentheses that enclose the whole text change nothing
(`evaluate_in_parentheses`); and a chain is combined from the values of its operands
(`evaluate_chain`), whatever the operands are, as long as each is read as one.
-/

namespace SnippetLab

open Decimal Text

namespace Expression

/-! ## Names -/

/-- Names that can stand for a value: identifiers other than the two truth values. -/
def isVariable (x : Text) : Bool := isIdentifier x && x != "true" && x != "false"

lemma isOperand_of_isIdentifier {x : Text} (h : isIdentifier x = true) : IsOperand x := by
  refine .word ?_ (isWordChar_of_isIdentifier h)
  rintro rfl
  cases h

lemma isOperand_of_isVariable {x : Text} (h : isVariable x = true) : IsOperand x := by
  simp only [isVariable, Bool.and_eq_true] at h
  exact isOperand_of_isIdentifier h.1.1

lemma literal?_of_balanced {e : Text} (h : Balanced e) : literal? e = none := by
  cases e with
  | nil => rfl
  | cons c r => simp [literal?, h.isQuote_of_cons]

/-- No name begins with a digit. -/
lemma not_nameStart_of_isDigit {c : Char} (h : c.isDigit = true) :
    (isLetter c || c == '_' || c == '$') = false := by
  have small : c.toNat < 0x80 := by
    have bounds := Char.isDigit_iff_toNat.1 h
    have nine : '9'.toNat = 0x39 := rfl
    omega
  exact of_ascii (p := fun c => c.isDigit = true → (isLetter c || c == '_' || c == '$') = false)
    (by decide) small h

/-- No identifier is a number. -/
lemma isNumeric_of_isIdentifier {x : Text} (h : isIdentifier x = true) : isNumeric x = false := by
  cases x with
  | nil => rfl
  | cons c r =>
      simp only [isIdentifier, Bool.and_eq_true] at h
      cases numeric : isNumeric (c :: r) with
      | false => rfl
      | true =>
          rcases (of_isNumeric_cons numeric).1 with digit | rfl | rfl
          · rw [not_nameStart_of_isDigit digit] at h
            cases h.1
          · exact absurd h.1 (by decide)
          · exact absurd h.1 (by decide)

lemma evaluate_variable {env : Environment} {x v : Text} (h : isVariable x = true)
    (bound : env x = some v) : evaluate env x = v := by
  have operand := isOperand_of_isVariable h
  simp only [isVariable, Bool.and_eq_true, bne_iff_ne] at h
  have constant : isConstant x = false := by
    rw [isConstant, isNumeric_of_isIdentifier h.1.1, beq_false_of_ne h.1.2, beq_false_of_ne h.2]
    rfl
  rw [evaluate, operand.solid.trim_eq, literal?_of_balanced operand.balanced]
  simp [constant, bound]

/-! ## Compound texts -/

/-- A text with a character behind its first that belongs to neither words nor numbers. -/
def IsCompound (e : Text) : Prop :=
  ∃ c r, e = c :: r ∧ ∃ d ∈ r, isWordChar d = false ∧ d ≠ '.'

namespace IsCompound

lemma isConstant_eq_false {e : Text} (h : IsCompound e) : isConstant e = false := by
  obtain ⟨c, r, rfl, d, inside, word, point⟩ := h
  have numeric : isNumeric (c :: r) = false := by
    cases numeric : isNumeric (c :: r) with
    | false => rfl
    | true =>
        rcases (of_isNumeric_cons numeric).2 d inside with digit | rfl
        · rw [isWordChar_of_isDigit digit] at word
          cases word
        · exact absurd rfl point
  have other {w : Text} (words : w.all isWordChar = true) : (c :: r == w) = false := by
    refine beq_false_of_ne ?_
    rintro rfl
    rw [List.all_eq_true.1 words d (List.mem_cons_of_mem c inside)] at word
    cases word
  rw [isConstant, numeric, other (w := "true") rfl, other (w := "false") rfl]
  rfl

lemma unbound {env : Environment} {e : Text} (h : IsCompound e)
    (named : ∀ x, (env x).isSome = true → isIdentifier x = true) : env e = none := by
  obtain ⟨c, r, rfl, d, inside, word, -⟩ := h
  cases bound : env (c :: r) with
  | none => rfl
  | some v =>
      have words := isWordChar_of_isIdentifier (named (c :: r) (by rw [bound]; rfl))
      rw [words d (List.mem_cons_of_mem c inside)] at word
      cases word

end IsCompound

/-- **The six ways to a value**, in the order they are tried in. -/
theorem evaluate_eq (env : Environment) (expression : Text) :
    evaluate env expression =
      let e := expression.trim
      match literal? e with
      | some value => value
      | none =>
        if isConstant e then e
        else
          match env e with
          | some value => value
          | none =>
            match unwrap? e with
            | some inner => evaluate env inner
            | none =>
              match operands? e with
              | some ts => (combine? (ts.map fun p => (p.1, evaluate env p.2))).getD e
              | none => e := by
  rw [evaluate]
  dsimp only
  refine congrArg (fun rest => match literal? expression.trim with
    | some value => value
    | none => rest) ?_
  refine congrArg (fun rest => if isConstant expression.trim then expression.trim else rest) ?_
  refine congrArg (fun rest => match env expression.trim with
    | some value => value
    | none => rest) ?_
  split
  · rename_i unwrapped
    rw [unwrapped]
  · rename_i whole
    rw [whole]
    split
    · rename_i ts chain
      have values : (ts.attach.map fun p => (p.1.1, evaluate env p.1.2)) =
          ts.map fun p => (p.1, evaluate env p.2) :=
        List.attach_map_val (f := fun p : Sign × Text => (p.1, evaluate env p.2))
      rw [chain, values]
    · rename_i single
      rw [single]

/-- A compound text that is neither a literal nor bound is taken apart. -/
lemma evaluate_compound {env : Environment} {e : Text} (h : IsCompound e) (solid : Solid e)
    (unquoted : literal? e = none) (unbound : env e = none) :
    evaluate env e =
      match unwrap? e with
      | some inner => evaluate env inner
      | none =>
        match operands? e with
        | some ts => (combine? (ts.map fun p => (p.1, evaluate env p.2))).getD e
        | none => e := by
  rw [evaluate_eq]
  simp only [solid.trim_eq, unquoted, h.isConstant_eq_false, unbound,
    Bool.false_eq_true, if_false]

lemma isCompound_parenthesized (inner : Text) : IsCompound ('(' :: (inner ++ [')'])) :=
  ⟨'(', inner ++ [')'], rfl, ')', by simp, by decide, by decide⟩

/-- **A text in parentheses has the value of what stands in them if they belong together**, and
otherwise only a chain could give it a value. -/
theorem evaluate_in_parentheses {env : Environment} (inner : Text)
    (unbound : env ('(' :: (inner ++ [')'])) = none) :
    evaluate env ('(' :: (inner ++ [')'])) =
      if encloses 0 none inner then evaluate env inner
      else
        match operands? ('(' :: (inner ++ [')'])) with
        | some ts =>
          (combine? (ts.map fun p => (p.1, evaluate env p.2))).getD ('(' :: (inner ++ [')']))
        | none => '(' :: (inner ++ [')']) := by
  rw [evaluate_compound (isCompound_parenthesized inner) (solid_parenthesized inner) rfl unbound,
    unwrap?_parenthesized]
  cases encloses 0 none inner with
  | true => rfl
  | false => rfl

/-- **Parentheses around an expression change nothing.** -/
theorem evaluate_parenthesized {env : Environment} {inner : Text} (h : Balanced inner)
    (named : ∀ x, (env x).isSome = true → isIdentifier x = true) :
    evaluate env ('(' :: (inner ++ [')'])) = evaluate env inner := by
  rw [evaluate_in_parentheses inner ((isCompound_parenthesized inner).unbound named),
    if_pos h.encloses]

/-! ## Chains -/

lemma isCompound_chainText {first : Text} {rest : List (Operator × Text)} (h : Readable first)
    (several : rest ≠ []) : IsCompound (chainText first rest) := by
  obtain ⟨c, r, rfl, -⟩ := h.solid.first
  obtain ⟨⟨op, operand⟩, rest, rfl⟩ := List.exists_cons_of_ne_nil several
  refine ⟨c, _, rfl, op.sign.char, by simp [Operator.text], ?_⟩
  cases op.sign with
  | plus => decide
  | minus => decide

/-- **A chain is combined from the values of its operands.** -/
theorem evaluate_chain {env : Environment} {first : Text} {rest : List (Operator × Text)}
    (leads : Leads first) (h : Readable first) (hs : ∀ p ∈ rest, Readable p.2)
    (several : rest ≠ []) (unbound : env (chainText first rest) = none) :
    evaluate env (chainText first rest) =
      (combine? ((.plus, evaluate env first) ::
        rest.map fun p => (p.1.sign, evaluate env p.2))).getD (chainText first rest) := by
  obtain ⟨unquoted, ungrouped⟩ := leads.chainText several
  rw [evaluate_compound (isCompound_chainText h several) (solid_chainText h hs) unquoted unbound,
    ungrouped]
  simp only [operands?_chainText h hs several, List.map_cons, List.map_map, Function.comp_def]

end Expression

end SnippetLab

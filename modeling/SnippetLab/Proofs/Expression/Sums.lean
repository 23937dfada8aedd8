import SnippetLab.Proofs.Expression.Chains

/-!
# Integer expressions evaluate to their value

A `Tree` is an integer expression: 64-bit literals and variables, put together to chains of two or
more operands joined by plus and minus.  It is written with any blanks around the operators and
with every compound operand in parentheses (`Tree.render`), and it has a mathematical value
(`Tree.value`).  As long as every partial sum fits into 64 bits (`Tree.InRange`), evaluating the
text gives the decimal of the value (`evaluate_render`).

The induction is on the tree; its step is that a chain is read as the operands it was written from
(`evaluate_chainText`) and that parentheses around it change nothing (`evaluate_parenthesized`).
-/

namespace SnippetLab

open Decimal Text

namespace Expression

/-! ## Trees -/

mutual

/-- **Integer expressions.** -/
inductive Tree where
  /-- A 64-bit integer. -/
  | literal (n : Int) (small : fits n = true)
  /-- A variable. -/
  | name (x : Text) (plain : isVariable x = true)
  /-- A chain of two operands or more. -/
  | chain (first : Tree) (rest : Tail)

/-- What follows the first operand of a chain. -/
inductive Tail where
  /-- The last operand. -/
  | last (op : Operator) (operand : Tree)
  /-- An operand with others behind it. -/
  | more (op : Operator) (operand : Tree) (rest : Tail)

end

mutual

/-- A tree as an operand: chains are put into parentheses. -/
def Tree.operand : Tree → Text
  | .literal n _ => ofInt n
  | .name x _ => x
  | .chain first rest => '(' :: (chainText first.operand rest.operands ++ [')'])

/-- The operators and the operands behind them. -/
def Tail.operands : Tail → List (Operator × Text)
  | .last op t => [(op, t.operand)]
  | .more op t rest => (op, t.operand) :: rest.operands

end

/-- **A tree as it is written.** -/
def Tree.render : Tree → Text
  | .literal n _ => ofInt n
  | .name x _ => x
  | .chain first rest => chainText first.operand rest.operands

mutual

/-- **The value of a tree** when variables stand for integers. -/
def Tree.value (ν : Text → Int) : Tree → Int
  | .literal n _ => n
  | .name x _ => ν x
  | .chain first rest => (rest.values ν).foldl addSigned (first.value ν)

/-- The signed values of the operands that follow. -/
def Tail.values (ν : Text → Int) : Tail → List (Sign × Int)
  | .last op t => [(op.sign, t.value ν)]
  | .more op t rest => (op.sign, t.value ν) :: rest.values ν

end

mutual

/-- **At every chain every partial sum from the left fits into 64 bits.** -/
def Tree.InRange (ν : Text → Int) : Tree → Prop
  | .literal _ _ => True
  | .name _ _ => True
  | .chain first rest =>
    first.InRange ν ∧ rest.InRange ν ∧
      ∀ s ∈ (rest.values ν).scanl addSigned (first.value ν), fits s = true

/-- The same of the operands that follow. -/
def Tail.InRange (ν : Text → Int) : Tail → Prop
  | .last _ t => t.InRange ν
  | .more _ t rest => t.InRange ν ∧ rest.InRange ν

end

mutual

/-- The variables of a tree. -/
def Tree.names : Tree → List Text
  | .literal _ _ => []
  | .name x _ => [x]
  | .chain first rest => first.names ++ rest.names

/-- The variables of the operands that follow. -/
def Tail.names : Tail → List Text
  | .last _ t => t.names
  | .more _ t rest => t.names ++ rest.names

end

/-- The environment binds each of some variables to the decimal of a 64-bit integer. -/
def Binds (env : Environment) (ν : Text → Int) (names : List Text) : Prop :=
  ∀ x ∈ names, fits (ν x) = true ∧ env x = some (ofInt (ν x))

/-! ## The texts of trees -/

lemma isOperand_ofInt (n : Int) : IsOperand (ofInt n) := by
  have digits (k : Nat) : ∀ c ∈ ofNat k, isWordChar c = true := fun c hc =>
    isWordChar_of_isDigit (isDigit_of_mem_ofNat hc)
  cases n with
  | ofNat k => exact .word (ofNat_ne_nil k) (digits k)
  | negSucc k => exact .negative (ofNat_ne_nil (k + 1)) (digits (k + 1))

mutual

/-- **A tree is written as an operand is.** -/
theorem isOperand_operand : ∀ t : Tree, IsOperand t.operand
  | .literal n _ => isOperand_ofInt n
  | .name _ plain => isOperand_of_isVariable plain
  | .chain first rest =>
    .parenthesized (balanced_chainText (isOperand_operand first) (isOperand_of_mem_operands rest))

/-- So are the trees that follow. -/
theorem isOperand_of_mem_operands : ∀ (rest : Tail), ∀ p ∈ rest.operands, IsOperand p.2
  | .last op t => by
      rw [Tail.operands, List.forall_mem_singleton]
      exact isOperand_operand t
  | .more op t rest => by
      rw [Tail.operands, List.forall_mem_cons]
      exact ⟨isOperand_operand t, isOperand_of_mem_operands rest⟩

end

lemma operands_ne_nil (rest : Tail) : rest.operands ≠ [] := by
  cases rest with
  | last _ _ => exact List.cons_ne_nil _ _
  | more _ _ _ => exact List.cons_ne_nil _ _

/-! ## Evaluating atoms -/

lemma evaluate_literal (env : Environment) (n : Int) : evaluate env (ofInt n) = ofInt n := by
  have operand := isOperand_ofInt n
  rw [evaluate, operand.solid.trim_eq, literal?_of_balanced operand.balanced]
  simp [isConstant, isNumeric_ofInt]

/-! ## Evaluating chains -/

/-- **A chain of operands with integer values has their sum for its value.** -/
theorem evaluate_chainText {env : Environment} {first : Text} {rest : List (Operator × Text)}
    {v : Int} {vs : List (Sign × Int)} (h : IsOperand first) (hs : ∀ p ∈ rest, IsOperand p.2)
    (several : rest ≠ []) (named : ∀ x, (env x).isSome = true → isIdentifier x = true)
    (head : evaluate env first = ofInt v)
    (tail : rest.map (fun p => (p.1.sign, evaluate env p.2)) = vs.map fun p => (p.1, ofInt p.2))
    (small : fits v = true ∧ ∀ p ∈ vs, fits p.2 = true)
    (sums : ∀ s ∈ vs.scanl addSigned v, fits s = true) :
    evaluate env (chainText first rest) = ofInt (vs.foldl addSigned v) := by
  have start : addSigned 0 (.plus, v) = v := by simp [addSigned, Sign.unit]
  have sum : combine? (((Sign.plus, v) :: vs).map fun p => (p.1, ofInt p.2)) =
      some (ofInt (vs.foldl addSigned v)) := by
    rw [combine?_ofInt, List.foldl_cons, start]
    · exact List.forall_mem_cons.2 small
    · rw [List.scanl_cons, start]
      exact List.forall_mem_cons.2 ⟨by decide, sums⟩
  rw [List.map_cons] at sum
  have unbound := (isCompound_chainText h.readable several).unbound named
  rw [evaluate_chain h.leads h.readable (fun p hp => (hs p hp).readable) several unbound, head,
    tail, sum]
  rfl

/-! ## Evaluating trees -/

section

variable {env : Environment} {ν : Text → Int}

/-- The value of a tree in range fits: that of a chain is its last partial sum. -/
lemma fits_value (t : Tree) (bound : Binds env ν t.names) (small : t.InRange ν) :
    fits (t.value ν) = true := by
  cases t with
  | literal _ fitting => exact fitting
  | name x _ => exact (bound x List.mem_cons_self).1
  | chain first rest =>
      rw [Tree.value, ← List.getLast_scanl List.scanl_ne_nil]
      rw [Tree.InRange] at small
      exact small.2.2 _ (List.getLast_mem _)

lemma fits_values : ∀ rest : Tail, Binds env ν rest.names → rest.InRange ν →
    ∀ p ∈ rest.values ν, fits p.2 = true
  | .last op t, bound, small => by
      rw [Tail.values, List.forall_mem_singleton]
      exact fits_value t bound small
  | .more op t rest, bound, small => by
      rw [Tail.names, Binds, List.forall_mem_append] at bound
      rw [Tail.InRange] at small
      rw [Tail.values, List.forall_mem_cons]
      exact ⟨fits_value t bound.1 small.1, fits_values rest bound.2 small.2⟩

mutual

/-- **As an operand a tree evaluates to its value.** -/
theorem evaluate_operand (named : ∀ x, (env x).isSome = true → isIdentifier x = true) :
    ∀ t : Tree, Binds env ν t.names → t.InRange ν →
      evaluate env t.operand = ofInt (t.value ν)
  | .literal n _, _, _ => evaluate_literal env n
  | .name x plain, bound, _ => evaluate_variable plain (bound x List.mem_cons_self).2
  | .chain first rest, bound, small => by
      rw [Tree.names, Binds, List.forall_mem_append] at bound
      rw [Tree.InRange] at small
      have operand := isOperand_operand first
      have operands := isOperand_of_mem_operands rest
      rw [Tree.operand, evaluate_parenthesized (balanced_chainText operand operands) named,
        Tree.value]
      exact evaluate_chainText operand operands (operands_ne_nil rest) named
        (evaluate_operand named first bound.1 small.1)
        (evaluate_operands named rest bound.2 small.2.1)
        ⟨fits_value first bound.1 small.1, fits_values rest bound.2 small.2.1⟩ small.2.2

/-- So do the operands that follow. -/
theorem evaluate_operands (named : ∀ x, (env x).isSome = true → isIdentifier x = true) :
    ∀ rest : Tail, Binds env ν rest.names → rest.InRange ν →
      rest.operands.map (fun p => (p.1.sign, evaluate env p.2)) =
        (rest.values ν).map fun p => (p.1, ofInt p.2)
  | .last op t, bound, small => by
      rw [Tail.names] at bound
      rw [Tail.InRange] at small
      rw [Tail.operands, Tail.values, List.map_singleton, List.map_singleton,
        evaluate_operand named t bound small]
  | .more op t rest, bound, small => by
      rw [Tail.names, Binds, List.forall_mem_append] at bound
      rw [Tail.InRange] at small
      rw [Tail.operands, Tail.values, List.map_cons, List.map_cons,
        evaluate_operand named t bound.1 small.1, evaluate_operands named rest bound.2 small.2]

end

end

/-- **Integer expressions evaluate to their value**: in every environment that binds nothing but
identifiers, and the variables of the tree to 64-bit integers, if every partial sum fits. -/
theorem evaluate_render {env : Environment} {ν : Text → Int}
    (named : ∀ x, (env x).isSome = true → isIdentifier x = true) (t : Tree)
    (bound : Binds env ν t.names) (small : t.InRange ν) :
    evaluate env t.render = ofInt (t.value ν) := by
  have whole : evaluate env t.operand = evaluate env t.render := by
    cases t with
    | literal _ _ => rfl
    | name _ _ => rfl
    | chain first rest =>
        exact evaluate_parenthesized
          (balanced_chainText (isOperand_operand first) (isOperand_of_mem_operands rest)) named
  rw [← whole]
  exact evaluate_operand named t bound small

/-- Two parenthesised chains, the second subtracted from the first: the parentheses at the ends do
not belong together, and one minus sign is an operator where the other is part of a literal. -/
theorem evaluate_render_groups :
    evaluate (fun x => if x = ("x" : Text) then some "5" else none) "(x - -3)-  (10 +x)" =
      ("-7" : Text) := by
  let env : Environment := fun x => if x = ("x" : Text) then some "5" else none
  let x : Tree := .name "x" (by decide +kernel)
  let left : Tree := .chain x (.last ⟨.minus, " ", " ", rfl, rfl⟩ (.literal (-3) rfl))
  let right : Tree := .chain (.literal 10 rfl) (.last ⟨.plus, " ", [], rfl, rfl⟩ x)
  let whole : Tree := .chain left (.last ⟨.minus, [], "  ", rfl, rfl⟩ right)
  have named : ∀ x, (env x).isSome = true → isIdentifier x = true := by
    intro y found
    by_cases here : y = ("x" : Text)
    · rw [here]
      decide +kernel
    · dsimp only [env] at found
      rw [if_neg here] at found
      cases found
  have bound : Binds env (fun _ => 5) whole.names := by
    intro y hy
    have only : y = ("x" : Text) := by
      simpa [whole, left, right, x, Tree.names, Tail.names] using hy
    rw [only]
    exact ⟨rfl, rfl⟩
  have small : whole.InRange fun _ => 5 := by
    simp [whole, left, right, x, Tree.InRange, Tail.InRange, Tree.value, Tail.values, addSigned,
      Sign.unit, fits, signedWordBound]
  have written : whole.render = ("(x - -3)-  (10 +x)" : Text) := by decide +kernel
  have evaluated := evaluate_render named whole bound small
  rw [written] at evaluated
  exact evaluated

end Expression

end SnippetLab

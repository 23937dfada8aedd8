import SnippetLab.Proofs.Expression.Literals
import SnippetLab.Session.Apply

/-!
# Where parentheses change nothing

Two scanners read what stands in parentheses.  The one for operands knows that a backslash in a
literal takes the next character's meaning away; the one that takes parentheses off ends a literal
at the next quote, escaped or not.  An expression with a quote escaped in one of its literals can
thus be balanced for the first (`closes`) and not for the second (`encloses`), and is then not
evaluated in parentheses at all.

* `encloses_of_closes` — where no quote is escaped both agree.
* `value_in_parentheses` — **in parentheses a balanced expression keeps its value or is no
  expression at all, and the compound assignment of one evaluates accordingly**.
-/

namespace SnippetLab

open Source Text

namespace Expression

/-! ## What both scanners read alike -/

/-- **Is no quote escaped in a literal between quotes of its kind?** -/
def keepsQuotes (quoting : Quoting) : Text → Bool
  | [] => true
  | c :: r => quoting != .escaped c && keepsQuotes (quoting.next c) r

/-- The kind of quotes that the scanner is between. -/
def quote? : Quoting → Option Char
  | .outside => none
  | .inside q => some q
  | .escaped q => some q

/-- The scanner for parentheses goes on where the one for operands does. -/
lemma encloses_onward {quoting : Quoting} {c : Char} (depth : Nat) (r : Text)
    (quotes : (quote? quoting).all isQuote = true) (kept : quoting ≠ .escaped c)
    (onward : quoting ≠ .outside ∨ c ≠ '(' ∧ c ≠ ')') :
    encloses depth (quote? quoting) (c :: r) = encloses depth (quote? (quoting.next c)) r := by
  cases quoting with
  | outside =>
      obtain ⟨opening, closing⟩ := onward.resolve_left fun no => no rfl
      cases quote : isQuote c with
      | true => simp [encloses, quote?, Quoting.next, quote]
      | false => simp [encloses, quote?, Quoting.next, quote, opening, closing]
  | inside q =>
      by_cases backslash : c = '\\'
      · subst backslash
        -- a backslash is no quote, so neither scanner leaves the literal
        have other : '\\' ≠ q := by
          rintro rfl
          cases quotes
        simp [encloses, quote?, Quoting.next, other]
      · by_cases same : c = q
        · subst same
          simp [encloses, quote?, Quoting.next, backslash]
        · simp [encloses, quote?, Quoting.next, backslash, same]
  | escaped q =>
      have other : c ≠ q := fun same => kept (congrArg Quoting.escaped same.symm)
      simp [encloses, quote?, Quoting.next, other]

/-- The scanner is between quotes of one of the two kinds. -/
lemma quotes_next {quoting : Quoting} (quotes : (quote? quoting).all isQuote = true) (c : Char) :
    (quote? (quoting.next c)).all isQuote = true := by
  cases quoting with
  | outside =>
      cases quote : isQuote c with
      | true => simp [Quoting.next, quote?, quote]
      | false => simp [Quoting.next, quote?, quote]
  | inside q =>
      simp only [Quoting.next]
      split_ifs
      · exact quotes
      · rfl
      · exact quotes
  | escaped q => exact quotes

/-- **Where no quote is escaped both scanners agree.** -/
theorem encloses_of_closes {quoting : Quoting} {depth : Nat} {t : Text}
    (quotes : (quote? quoting).all isQuote = true) (h : closes quoting depth t = true)
    (kept : keepsQuotes quoting t = true) : encloses depth (quote? quoting) t = true := by
  fun_induction closes quoting depth t with
  | case1 quoting depth =>
      rw [Bool.and_eq_true] at h
      simpa [encloses] using h.2
  | case2 quoting depth c t opening ih =>
      obtain ⟨rfl, rfl⟩ := opening
      exact ih quotes h kept
  | case3 => cases h
  | case4 quoting c t _ closing d ih =>
      obtain ⟨rfl, rfl⟩ := closing
      exact ih quotes h kept
  | case5 quoting depth c t noOpening noClosing ih =>
      simp only [keepsQuotes, Bool.and_eq_true, bne_iff_ne] at kept
      rw [encloses_onward depth t quotes kept.1 (stays_level noOpening noClosing)]
      exact ih (quotes_next quotes c) h kept.2

/-! ## Evaluating in parentheses -/

section

variable {env : Environment} {e : Text}

/-- In parentheses a balanced expression keeps its value, or is no expression at all. -/
lemma evaluate_closed (named : ∀ x, (env x).isSome = true → isIdentifier x = true)
    (h : closes .outside 0 e = true) :
    evaluate env ('(' :: (e ++ [')'])) =
      if encloses 0 none e then evaluate env e else '(' :: (e ++ [')']) := by
  rw [evaluate_in_parentheses e ((isCompound_parenthesized e).unbound named),
    operands?_single (readable_parenthesized h)]

lemma assignedExpr_eq_chainText (x e : Text) (sign : Sign) :
    Session.assignedExpr x (some sign) e =
      chainText x [(⟨sign, " ", " ", rfl, rfl⟩, '(' :: (e ++ [')']))] := by
  simp [Session.assignedExpr, chainText, Operator.text]

/-- A compound assignment combines the value of the variable with that of the right side in
parentheses, if the whole is not bound itself. -/
lemma evaluate_assignedExpr_of_unbound (h : closes .outside 0 e = true) {x : Text}
    (name : isIdentifier x = true) {sign : Sign}
    (unbound : env (Session.assignedExpr x (some sign) e) = none) :
    evaluate env (Session.assignedExpr x (some sign) e) =
      (combine? [(.plus, evaluate env x), (sign, evaluate env ('(' :: (e ++ [')'])))]).getD
        (Session.assignedExpr x (some sign) e) := by
  have operand := isOperand_of_isIdentifier name
  rw [assignedExpr_eq_chainText] at unbound ⊢
  rw [evaluate_chain operand.leads operand.readable
    (List.forall_mem_singleton.2 (readable_parenthesized h)) (List.cons_ne_nil _ _) unbound]
  rfl

lemma isCompound_assignedExpr {x : Text} (name : isIdentifier x = true) (sign : Sign) (e : Text) :
    IsCompound (Session.assignedExpr x (some sign) e) := by
  rw [assignedExpr_eq_chainText]
  exact isCompound_chainText (isOperand_of_isIdentifier name).readable (List.cons_ne_nil _ _)

lemma evaluate_assignedExpr (named : ∀ x, (env x).isSome = true → isIdentifier x = true)
    (h : closes .outside 0 e = true) {x : Text} (name : isIdentifier x = true) (sign : Sign) :
    evaluate env (Session.assignedExpr x (some sign) e) =
      (combine? [(.plus, evaluate env x), (sign, evaluate env ('(' :: (e ++ [')'])))]).getD
        (Session.assignedExpr x (some sign) e) :=
  evaluate_assignedExpr_of_unbound h name ((isCompound_assignedExpr name sign e).unbound named)

end

/-- **What parentheses around a balanced expression do.**  In an environment that binds nothing but
identifiers the expression keeps its value in them, provided that it is balanced for the scanner
that takes them off, as it is if none of its literals escapes a quote of its own kind; and
otherwise the whole stays as it is written.  So does the right side of a compound assignment, which
is evaluated in parentheses. -/
theorem value_in_parentheses {env : Environment} {e : Text}
    (named : ∀ x, (env x).isSome = true → isIdentifier x = true)
    (balanced : closes .outside 0 e = true) :
    (keepsQuotes .outside e = true → encloses 0 none e = true) ∧
    evaluate env ('(' :: (e ++ [')'])) =
      (if encloses 0 none e then evaluate env e else '(' :: (e ++ [')'])) ∧
    ∀ (x : Text) (sign : Sign), isIdentifier x = true →
      evaluate env (Session.assignedExpr x (some sign) e) =
        (combine? [(.plus, evaluate env x), (sign,
          if encloses 0 none e then evaluate env e else '(' :: (e ++ [')']))]).getD
            (Session.assignedExpr x (some sign) e) := by
  have value := evaluate_closed named balanced
  refine ⟨fun kept => ?_, value, ?_⟩
  · have agree : encloses 0 (quote? .outside) e = true := encloses_of_closes rfl balanced kept
    exact agree
  · intro x sign name
    rw [evaluate_assignedExpr named balanced name sign, value]

lemma isIdentifier_of_empty (x : Text) (h : (Environment.empty x).isSome = true) :
    isIdentifier x = true := nomatch h

/-- Parentheses in literals do not count. -/
theorem value_in_parentheses_bracket :
    evaluate .empty "(\"(\" + 'it')" = evaluate .empty "\"(\" + 'it'" :=
  (value_in_parentheses isIdentifier_of_empty (e := "\"(\" + 'it'")
    (by decide +kernel)).2.1.trans (if_pos (by decide +kernel))

/-- **A literal with a quote escaped and a parenthesis behind it** is balanced and has a value, but
not in parentheses. -/
theorem escaped_quote_spoils_parentheses :
    closes .outside 0 (Batch.literal "\")") = true ∧
    evaluate .empty (Batch.literal "\")") = ("\")" : Text) ∧
    evaluate .empty ('(' :: (Batch.literal "\")" ++ [')'])) ≠
      evaluate .empty (Batch.literal "\")") := by
  have balanced : closes .outside 0 (Batch.literal "\")") = true := by decide +kernel
  have value := Batch.evaluate_literal_input .empty "\")"
  refine ⟨balanced, value, ?_⟩
  rw [value, evaluate_closed isIdentifier_of_empty balanced]
  decide +kernel

end Expression

end SnippetLab

import SnippetLab.Batch.Interpret
import SnippetLab.Proofs.Expression.Chains

/-!
# Literals and their concatenation

A text is written as a literal with a backslash before each of its backslashes and double quotes.
Three readers have to agree with that, whatever the text holds: the one that takes the backslashes
out again, the one for operands, which must not see the signs and parentheses in the literal, and
the one for enclosing parentheses.

* `unescape_escape_append` — reading a literal undoes writing it, and goes on with what follows.
* `readable_literal` — a literal is passed as one operand.
* `Denotes` — a literal and its text, or a variable and its value.
* `concatenation_is_exact` — **literals evaluate to their texts, and a sum of such operands to their
  values one behind the other** unless all of them are numbers.
-/

namespace SnippetLab.Batch

open Expression Source Text

/-! ## Reading back what was written -/

lemma escape_cons (c : Char) (r : Text) :
    escape (c :: r) = (if c = '\\' ∨ c = '"' then ['\\', c] else [c]) ++ escape r :=
  List.flatMap_cons

/-- **Reading a literal undoes writing it**, and then goes on with what follows. -/
lemma unescape_escape_append (input rest : Text) :
    unescape '"' (escape input ++ rest) = (unescape '"' rest).map (input ++ ·) := by
  induction input with
  | nil => simp [escape]
  | cons c r ih =>
      rw [escape_cons, List.append_assoc]
      by_cases special : c = '\\' ∨ c = '"'
      · -- the character behind a backslash stands for itself: it is neither `n` nor `t`
        have plain : c ≠ 'n' ∧ c ≠ 't' := by rcases special with rfl | rfl <;> decide
        rw [if_pos special]
        show (unescape '"' (escape r ++ rest)).map _ = _
        rw [ih, if_neg plain.1, if_neg plain.2, Option.map_map]
        rfl
      · rw [if_neg special]
        rw [not_or] at special
        rw [List.singleton_append, unescape, if_neg special.2, ih, Option.map_map]
        · rfl
        · exact fun same _ => special.1 same
        · exact fun _ _ same _ => special.1 same

lemma literal_eq (input : Text) : literal input = '"' :: (escape input ++ ['"']) := rfl

lemma solid_literal (input : Text) : Solid (literal input) :=
  ⟨⟨'"', _, rfl, by decide⟩, ⟨_, '"', rfl, by decide⟩⟩

lemma literal?_literal (input : Text) : literal? (literal input) = some input := by
  have read := unescape_escape_append input []
  rw [List.append_nil] at read
  rw [literal_eq, literal?]
  simp [isQuote, read, unescape]

/-- **The literal of an input evaluates to the input**, whatever names stand for. -/
theorem evaluate_literal_input (env : Environment) (input : Text) :
    evaluate env (literal input) = input := by
  rw [evaluate, (solid_literal input).trim_eq, literal?_literal]

/-! ## A literal as an operand -/

/-- The scanner for operands passes what is escaped. -/
lemma operandsFrom_escape (depth : Int) (sign : Sign) (begun input rest : Text) :
    operandsFrom (.inside '"') depth sign begun (escape input ++ rest) =
      operandsFrom (.inside '"') depth sign ((escape input).reverse ++ begun) rest := by
  induction input generalizing begun with
  | nil => rfl
  | cons c r ih =>
      have onward {quoting : Quoting} (literal : quoting ≠ .outside) (begun : Text) (d : Char)
          (rest : Text) : operandsFrom quoting depth sign begun (d :: rest) =
            operandsFrom (quoting.next d) depth sign (d :: begun) rest :=
        operandsFrom_onward (.inl literal) (.inl literal) sign begun rest
      rw [escape_cons]
      by_cases special : c = '\\' ∨ c = '"'
      · rw [if_pos special]
        show operandsFrom _ _ _ _ ('\\' :: c :: (escape r ++ rest)) = _
        rw [onward (by simp), onward (by simp [Quoting.next])]
        simp only [Quoting.next, if_true]
        rw [ih]
        simp
      · rw [if_neg special]
        rw [not_or] at special
        rw [List.append_assoc, List.singleton_append, onward (by simp)]
        simp only [Quoting.next, if_neg special.1, if_neg special.2]
        rw [ih]
        simp

/-- **A literal is read as one operand**, whatever signs and parentheses it holds. -/
theorem readable_literal (input : Text) : Readable (literal input) where
  solid := solid_literal input
  passed sign begun _ r := by
    have opening : operandsFrom .outside 0 sign begun ('"' :: (escape input ++ '"' :: r)) =
        operandsFrom (.inside '"') 0 sign ('"' :: begun) (escape input ++ '"' :: r) :=
      operandsFrom_onward (.inr (.inr (by decide))) (.inr (by decide)) sign begun _
    have closing (begun : Text) : operandsFrom (.inside '"') 0 sign begun ('"' :: r) =
        operandsFrom .outside 0 sign ('"' :: begun) r :=
      operandsFrom_onward (.inl (by simp)) (.inl (by simp)) sign begun r
    rw [literal_eq, List.cons_append, List.append_assoc, List.singleton_append, opening,
      operandsFrom_escape, closing]
    simp

/-- With more behind it a literal is none any longer: its closing quote stands inside. -/
lemma leads_literal (input : Text) : Leads (literal input) where
  unquoted := by
    intro rest more
    have inside : ((escape input ++ ['"']) ++ rest).dropLast =
        escape input ++ '"' :: rest.dropLast := by
      rw [List.dropLast_append_of_ne_nil more, List.append_assoc, List.singleton_append]
    have bare : unescape '"' ('"' :: rest.dropLast) = none := by
      rw [unescape, if_pos rfl]
      · exact fun same _ => absurd same (by decide)
      · exact fun _ _ same _ => absurd same (by decide)
    rw [literal_eq, List.cons_append, literal?, inside, unescape_escape_append, bare]
    exact ite_self _
  ungrouped := fun _ => rfl

end SnippetLab.Batch

namespace SnippetLab

open Text

namespace Expression

/-! ## Concatenations -/

/-- **An operand and its value**: a literal, or a variable that is bound. -/
inductive Denotes (env : Environment) : Text → Text → Prop
  | literal (s : Text) : Denotes env (Batch.literal s) s
  | name {x v : Text} (plain : isVariable x = true) (bound : env x = some v) : Denotes env x v

namespace Denotes

variable {env : Environment} {w v : Text}

lemma readable (h : Denotes env w v) : Readable w := by
  cases h with
  | literal => exact Batch.readable_literal _
  | name plain _ => exact (isOperand_of_isVariable plain).readable

lemma evaluate_eq (h : Denotes env w v) : evaluate env w = v := by
  cases h with
  | literal => exact Batch.evaluate_literal_input env _
  | name plain bound => exact evaluate_variable plain bound

lemma leads (h : Denotes env w v) : Leads w := by
  cases h with
  | literal => exact Batch.leads_literal _
  | name plain _ => exact (isOperand_of_isVariable plain).leads

end Denotes

/-- A plus sign between blanks. -/
def plus : Operator := ⟨.plus, " ", " ", rfl, rfl⟩

lemma join_eq_chainText (first : Text) (rest : List Text) :
    Text.join " + " (first :: rest) = chainText first (rest.map fun w => (plus, w)) := by
  rw [join_cons, chainText, List.flatMap_map]
  rfl

/-- A sum of operands is combined from their values. -/
lemma evaluate_join {env : Environment} {operands : List (Text × Text)}
    (named : ∀ x, (env x).isSome = true → isIdentifier x = true) (several : 2 ≤ operands.length)
    (denote : ∀ p ∈ operands, Denotes env p.1 p.2) :
    evaluate env (Text.join " + " (operands.map Prod.fst)) =
      (combine? ((operands.map Prod.snd).map fun v => (.plus, v))).getD
        (Text.join " + " (operands.map Prod.fst)) := by
  obtain ⟨first, rest, rfl⟩ := List.exists_cons_of_length_pos (l := operands) (by omega)
  obtain ⟨here, later⟩ := List.forall_mem_cons.1 denote
  have more : (rest.map Prod.fst).map (fun w => (plus, w)) ≠ [] := by
    cases rest with
    | nil => exact absurd several (Nat.not_le.2 Nat.one_lt_two)
    | cons p rest => exact List.cons_ne_nil _ _
  have readable : ∀ p ∈ (rest.map Prod.fst).map (fun w => (plus, w)), Readable p.2 := by
    simp only [List.map_map, List.forall_mem_map]
    exact fun p hp => (later p hp).readable
  have values : (Sign.plus, evaluate env first.1) ::
      ((rest.map Prod.fst).map fun w => (plus, w)).map (fun p => (p.1.sign, evaluate env p.2)) =
        ((first :: rest).map Prod.snd).map fun v => (Sign.plus, v) := by
    rw [List.map_cons, List.map_cons, here.evaluate_eq, List.map_map, List.map_map, List.map_map]
    exact congrArg _ (List.map_congr_left fun p hp => congrArg _ (later p hp).evaluate_eq)
  have unbound := (isCompound_chainText here.readable more).unbound named
  rw [List.map_cons, join_eq_chainText,
    evaluate_chain here.leads here.readable readable more unbound, values]

/-- **Literals and their concatenation are exact.**  A literal evaluates to its text.  Two or more
operands, each a literal or a variable that is bound, joined by plus signs evaluate to their values
one behind the other, unless all of these are decimals. -/
theorem concatenation_is_exact :
    (∀ (env : Environment) (s : Text), evaluate env (Batch.literal s) = s) ∧
    ∀ (env : Environment), (∀ x, (env x).isSome = true → isIdentifier x = true) →
      ∀ operands : List (Text × Text), 2 ≤ operands.length →
        (∀ p ∈ operands, Denotes env p.1 p.2) → (∃ p ∈ operands, ¬ IsDecimal p.2) →
        evaluate env (Text.join " + " (operands.map Prod.fst)) =
          (operands.map Prod.snd).flatten := by
  refine ⟨Batch.evaluate_literal_input, ?_⟩
  rintro env named operands several denote ⟨p, hp, other⟩
  rw [evaluate_join named several denote, combine?_texts ⟨p.2, List.mem_map_of_mem hp, other⟩]
  rfl

/-- A literal that holds what ends literals, chains and parentheses, with a number behind it. -/
theorem concatenation_is_exact_marks :
    evaluate (fun x => if x = ("n" : Text) then some "3" else none) "\"\\\"(+\\\\)\" + n" =
      ("\"(+\\)3" : Text) := by
  let env : Environment := fun x => if x = ("n" : Text) then some "3" else none
  have named : ∀ x, (env x).isSome = true → isIdentifier x = true := by
    intro x found
    by_cases here : x = ("n" : Text)
    · rw [here]
      decide +kernel
    · dsimp only [env] at found
      rw [if_neg here] at found
      cases found
  have denote : ∀ p ∈ [(Batch.literal "\"(+\\)", ("\"(+\\)" : Text)), ("n", "3")],
      Denotes env p.1 p.2 := by
    rw [List.forall_mem_cons, List.forall_mem_singleton]
    exact ⟨.literal _, .name (by decide +kernel) rfl⟩
  have other : ∃ p ∈ [(Batch.literal "\"(+\\)", ("\"(+\\)" : Text)), ("n", "3")],
      ¬ IsDecimal p.2 := by
    refine ⟨_, List.mem_cons_self, ?_⟩
    rw [← isNumeric_iff]
    decide +kernel
  exact concatenation_is_exact.2 env named _ (by decide) denote other

end Expression

end SnippetLab

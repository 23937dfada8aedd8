import SnippetLab.Proofs.Expression.Parentheses
import SnippetLab.Proofs.Expression.Sums
import SnippetLab.Proofs.Session.Records

/-!
# Stepping and adding one

A step reads the integer that a variable holds, adds one to it or takes one off, and writes it back.
A compound assignment of one puts together an expression, which is taken apart again, evaluated and
summed up.  **Both come to the same as long as the next integer is one of 64 bits**
(`step_is_assignment_of_one`), unless a part of that expression is bound itself; where lines alone
have made the session, nothing but identifiers is (`environment_feedAll`).

At the limits they part, and both on purpose: a step beyond them is an error, while a sum that is no
longer an integer of 64 bits goes on as a double.  Both ways the sum is one of two doubles
(`beyondLimit`), so what becomes of the variable can be told there too.
-/

namespace SnippetLab

open Decimal Expression

namespace Expression

/-- A number that is read as an integer is whole. -/
lemma ofText?_of_signedWord? {t : Text} {n : Int} (numeric : isNumeric t = true)
    (whole : signedWord? t = some n) : Number.ofText? t = some (.int n) := by
  obtain ⟨parts, magnitude⟩ := Option.isSome_iff_exists.1 numeric
  simp only [Number.ofText?, magnitude, whole]

/-- What is read as an integer is one of 64 bits. -/
lemma fits_of_signedWord? {t : Text} {n : Int} (h : signedWord? t = some n) : fits n = true :=
  (Option.filter_eq_some_iff.1 h).2

lemma fits_iff {n : Int} :
    fits n = true ↔ -9223372036854775808 ≤ n ∧ n < 9223372036854775808 := by
  rw [fits, Bool.and_eq_true, decide_eq_true_iff, decide_eq_true_iff]
  rfl

/-- The last integer of 64 bits in a direction. -/
def limit : Sign → Int
  | .plus => 9223372036854775807
  | .minus => -9223372036854775808

/-- **What is written for a sum beyond the limit**: the double next to it. -/
def beyondLimit : Sign → Text
  | .plus => "9223372036854775808.0"
  | .minus => "-9223372036854775808.0"

/-- Only at the limit does the next integer not fit. -/
lemma eq_limit {n : Int} {sign : Sign} (small : fits n = true)
    (beyond : ¬fits (n + sign.unit) = true) : n = limit sign := by
  rw [fits_iff] at small beyond
  cases sign with
  | plus =>
      simp only [Sign.unit, limit] at beyond ⊢
      omega
  | minus =>
      simp only [Sign.unit, limit] at beyond ⊢
      omega

/-- A sum that has left the integers goes on as a double. -/
lemma sumText_limit (sign : Sign) :
    sumText [(.plus, .int (limit sign)), (sign, .int 1)] = beyondLimit sign := by
  cases sign with
  | plus => decide +kernel
  | minus => decide +kernel

/-- The sum of two integers is an integer if it fits. -/
lemma sumText_of_fits {n : Int} {sign : Sign} (small : fits n = true)
    (within : fits (n + sign.unit) = true) :
    sumText [(.plus, .int n), (sign, .int 1)] = ofInt (n + sign.unit) := by
  have first : (Total.zero.add .plus (.int n)).exact = some n := by
    simp [Total.add, Total.zero, Number.toInt?, Sign.unit, small]
  have second (total : Total) (exact : total.exact = some n) :
      (total.add sign (.int 1)).exact = some (n + sign.unit) := by
    simp [Total.add, exact, Number.toInt?, within]
  simp only [sumText, List.foldl_cons, List.foldl_nil, Total.text, second _ first]

/-- **One more or less than an integer** is the next integer, or beyond the limit a double. -/
theorem combine?_one {t : Text} {n : Int} (sign : Sign) (numeric : isNumeric t = true)
    (whole : signedWord? t = some n) :
    combine? [(.plus, t), (sign, ofInt 1)] =
      some (if fits (n + sign.unit) then ofInt (n + sign.unit) else beyondLimit sign) := by
  have small := fits_of_signedWord? whole
  have sum : combine? [(.plus, t), (sign, ofInt 1)] =
      some (sumText [(.plus, .int n), (sign, .int 1)]) := by
    simp [combine?, ofText?_of_signedWord? numeric whole, ofText?_ofInt (n := 1) rfl]
  rw [sum]
  by_cases within : fits (n + sign.unit) = true
  · rw [if_pos within, sumText_of_fits small within]
  · rw [if_neg within, eq_limit small within, sumText_limit]

end Expression

namespace Session

variable {s : Session} {x : Text} {b : Binding} {n : Int}

/-- The next value, as an integer or beyond the limit, is not the one before. -/
lemma next_ne {value : Text} (whole : signedWord? value = some n) (sign : Sign) :
    (if fits (n + sign.unit) then ofInt (n + sign.unit) else beyondLimit sign) ≠ value := by
  split
  case isTrue within => exact ofInt_next_ne whole within
  case isFalse =>
    rintro rfl
    cases sign with
    | plus => cases whole
    | minus => cases whole

/-- In parentheses one is one. -/
lemma evaluate_one {env : Environment} (free : env ('(' :: (ofInt 1 ++ [')'])) = none) :
    evaluate env ('(' :: (ofInt 1 ++ [')'])) = ofInt 1 := by
  rw [evaluate_in_parentheses (ofInt 1) free, if_pos (isOperand_ofInt 1).balanced.encloses,
    evaluate_literal]

/-- **What a compound assignment of one evaluates to.** -/
lemma evaluate_assignedOne (found : s.binding? x = some b) (plain : isVariable x = true)
    (numeric : isNumeric b.value = true) (whole : signedWord? b.value = some n) {sign : Sign}
    (sum : s.environment (assignedExpr x (some sign) (ofInt 1)) = none)
    (one : s.environment ('(' :: (ofInt 1 ++ [')'])) = none) :
    evaluate s.environment (assignedExpr x (some sign) (ofInt 1)) =
      if fits (n + sign.unit) then ofInt (n + sign.unit) else beyondLimit sign := by
  have name : isIdentifier x = true := by
    simp only [isVariable, Bool.and_eq_true] at plain
    exact plain.1.1
  rw [evaluate_assignedExpr_of_unbound (by decide +kernel) name sum,
    evaluate_variable plain (environment_eq found), evaluate_one one,
    combine?_one sign numeric whole]
  rfl

/-- In a session that lines lead to nothing but identifiers is bound. -/
lemma environment_feedAll (language : Language) (settings : Settings) (inputs : List Input)
    {y : Text} (other : isIdentifier y = false) :
    ((start language settings).feedAll inputs).environment y = none := by
  rw [environment, Option.map_eq_none_iff, Option.eq_none_iff_forall_ne_some]
  intro b found
  rw [(recorded_feedAll language settings inputs found).identifier] at other
  cases other

/-- **A step and a compound assignment of one are the same statement** for a variable that holds an
integer of 64 bits, where the expression that the assignment puts together is not bound itself, nor
is its right side: they come to the same effect and the same session as long as the next integer has
64 bits too.  Beyond the limit the step fails, and the assignment gives the variable the limit as a
double. -/
theorem step_is_assignment_of_one (found : s.binding? x = some b)
    (name : isIdentifier x = true) (plain : x ≠ "true" ∧ x ≠ "false")
    (numeric : isNumeric b.value = true) (whole : signedWord? b.value = some n)
    (line : Nat) (sign : Sign) (sum : s.environment (assignedExpr x (some sign) "1") = none)
    (one : s.environment "(1)" = none) :
    let stepped := s.apply line (.step x sign)
    let assigned := s.apply line (.assign x (some sign) "1")
    let holding value := s.setVariable (updated b value line)
    if fits (n + sign.unit) then
      stepped = assigned ∧ assigned = .ok (.variable x, holding (ofInt (n + sign.unit)))
    else
      stepped = .error (.overflow x) ∧
        assigned = .ok (.variable x, holding (beyondLimit sign)) := by
  intro stepped assigned holding
  have readable : isVariable x = true := by
    rw [isVariable, name, bne_iff_ne.2 plain.1, bne_iff_ne.2 plain.2]
    rfl
  have other := next_ne whole sign
  have value := evaluate_assignedOne found readable numeric whole sum one
  have taken : assigned = .ok (.variable x,
      holding (if fits (n + sign.unit) then ofInt (n + sign.unit) else beyondLimit sign)) := by
    show s.apply line (.assign x (some sign) (ofInt 1)) = _
    simp only [apply, value, applyAssign, found, assign?_of_ne found other]
    rfl
  by_cases within : fits (n + sign.unit) = true
  · rw [if_pos within] at taken other ⊢
    refine ⟨Eq.trans ?_ taken.symm, taken⟩
    simp only [stepped, apply, applyStep, found, Option.bind_some, whole, within, if_true,
      assign?_of_ne found other, Option.getD_some]
    rfl
  · rw [if_neg within] at taken ⊢
    refine ⟨?_, taken⟩
    simp only [stepped, apply, applyStep, found, Option.bind_some, whole, within]
    rfl

/-- At the largest integer, written with zeros in front: one step down is an assignment, one up is
not. -/
theorem step_is_assignment_of_one_down :
    let s := (start .java .standard).performAll [.line "long x = 009223372036854775807;" 1]
    s.apply 2 (.step "x" .minus) = s.apply 2 (.assign "x" (some .minus) "1") ∧
      s.apply 2 (.step "x" .plus) = .error (.overflow "x") := by
  intro s
  let b : Binding := .declare "x" "long" "009223372036854775807" 1
  have found : s.binding? "x" = some b := by decide +kernel
  have free {y : Text} : isIdentifier y = false → s.environment y = none :=
    environment_feedAll .java .standard [.line "long x = 009223372036854775807;" 1]
  have numeric : isNumeric b.value = true := by decide +kernel
  have whole : signedWord? b.value = some (limit .plus) := by decide +kernel
  have plain : ("x" : Text) ≠ "true" ∧ ("x" : Text) ≠ "false" := by decide +kernel
  have down := step_is_assignment_of_one found (by decide +kernel) plain numeric whole 2
    .minus (free (by decide +kernel)) (free (by decide +kernel))
  have up := step_is_assignment_of_one found (by decide +kernel) plain numeric whole 2
    .plus (free (by decide +kernel)) (free (by decide +kernel))
  exact ⟨down.1, up.1⟩

/-- The value of a variable after a statement, unless that fails. -/
def valueAfter (name : Text) (r : Except StatementError (Effect × Session)) : Option Text :=
  r.toOption.bind fun result => result.2.environment name

/-- A step and an assignment of one differ if they give a variable different values. -/
lemma step_ne_of_value {line : Nat} {sign : Sign}
    (h : valueAfter x (s.apply line (.step x sign)) ≠
      valueAfter x (s.apply line (.assign x (some sign) "1"))) :
    s.apply line (.step x sign) ≠ s.apply line (.assign x (some sign) "1") :=
  fun same => h (congrArg (valueAfter x) same)

/-- **A step need not be an assignment of one.**  At the largest integer the step fails and the
assignment does not.  And where something else than an identifier is bound, the assignment may come
upon that: upon the whole expression, upon its right side, or upon a variable that reads as a
number. -/
theorem step_is_no_assignment_of_one :
    let run := (start .java .standard).performAll
    let parts (s : Session) (x : Text) : Prop :=
      ((s.environment x).filter fun v => isNumeric v && (signedWord? v).isSome).isSome = true ∧
        s.apply 3 (.step x .plus) ≠ s.apply 3 (.assign x (some .plus) "1")
    parts (run [.line "long x = 9223372036854775807;" 1]) "x" ∧
      parts (run [.declare (.declare "x + (1)" "int" "7" 1), .line "int x = 5;" 2]) "x" ∧
      parts (run [.declare (.declare "(1)" "int" "7" 1), .line "int x = 5;" 2]) "x" ∧
      parts (run [.declare (.declare "3" "int" "5" 1)]) "3" := by
  intro run parts
  refine ⟨⟨by decide +kernel, step_ne_of_value ?_⟩, ⟨by decide +kernel, step_ne_of_value ?_⟩,
    ⟨by decide +kernel, step_ne_of_value ?_⟩, ⟨by decide +kernel, step_ne_of_value ?_⟩⟩
  · decide +kernel
  · decide +kernel
  · decide +kernel
  · decide +kernel

end Session

end SnippetLab

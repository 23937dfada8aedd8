import SnippetLab.Expression.Number
import SnippetLab.Expression.Parts

/-!
# Evaluating expressions

Values are texts, and evaluating an expression gives one.  Tried in order are: a string literal, a
number or truth value, a bound name, a parenthesised expression, and a chain of operands.  A chain
of numbers is summed; any other chain of plus signs is concatenated.  **Nothing is an error**: what
is none of these comes back as written.
-/

namespace SnippetLab

/-- What names stand for. -/
abbrev Environment := Text → Option Text

/-- The environment that binds nothing. -/
def Environment.empty : Environment := fun _ => none

namespace Expression

/-- The value of a chain from the values of its operands: their sum if all are numbers, their
concatenation if all are added. -/
def combine? (values : List (Sign × Text)) : Option Text :=
  match values.mapM fun (sign, v) => (Number.ofText? v).map fun n => (sign, n) with
  | some numbers => some (sumText numbers)
  | none =>
    if values.all fun (sign, _) => sign == .plus then some (values.flatMap (·.2)) else none

/-- Values that stand for themselves: numbers and the two truth values. -/
def isConstant (t : Text) : Bool := isNumeric t || t == "true" || t == "false"

end Expression

open Expression in
/-- **The value of an expression.** -/
def evaluate (env : Environment) (expression : Text) : Text :=
  let e := expression.trim
  match literal? e with
  | some value => value
  | none =>
    if isConstant e then e
    else
      match env e with
      | some value => value
      | none =>
        match _unwrapped : unwrap? e with
        | some inner => evaluate env inner
        | none =>
          match _chain : operands? e with
          | some ts =>
            let values := ts.attach.map fun ⟨(sign, operand), _⟩ => (sign, evaluate env operand)
            (combine? values).getD e
          | none => e
termination_by expression.length
decreasing_by
  · exact Nat.lt_of_lt_of_le (length_lt_of_unwrap? _unwrapped) (length_trim_le _)
  · rename_i member
    exact Nat.lt_of_lt_of_le (length_lt_of_mem_operands _chain member) (length_trim_le _)

end SnippetLab

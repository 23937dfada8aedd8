import SnippetLab.Session.Basic
import SnippetLab.Statement.Classify

/-!
# What a statement does to a session

`Session.apply` either fails, and then there is no new session, or says in one word what has
changed: nothing, one variable, the output, or the call stack.
-/

namespace SnippetLab

/-- Why a statement cannot be applied. -/
inductive StatementError where
  /-- An assignment or declaration without a value. -/
  | missingValue (name : Text)
  /-- A step beyond the largest or smallest 64-bit integer. -/
  | overflow (name : Text)
  deriving Repr, DecidableEq

/-- The wording of a statement's error. -/
def StatementError.message : StatementError → Text
  | .missingValue name => "missing value in assignment to `" ++ name ++ "`"
  | .overflow name => "integer overflow updating `" ++ name ++ "`"

/-- What applying a statement has changed. -/
inductive Effect where
  | none
  /-- A variable was declared or took a new value. -/
  | variable (name : Text)
  /-- Something was written. -/
  | output (text : Text)
  /-- A call was made or left. -/
  | callStack
  deriving Repr, DecidableEq

namespace Session

/-- A declaration with the value it gives. -/
def applyDeclare (s : Session) (line : Nat) (typeTag name value : Text) : Effect × Session :=
  (.variable name, s.declare (.declare name typeTag value line))

/-- The expression an assignment evaluates: its right side, or the variable and the operator in
front of it in parentheses. -/
def assignedExpr (name : Text) (op : Option Sign) (expr : Text) : Text :=
  match op with
  | none => expr
  | some sign => name ++ ' ' :: sign.char :: ' ' :: '(' :: expr ++ ")"

/-- An assignment of a value.  A name that is not declared yet is declared by it in Python and
ignored elsewhere. -/
def applyAssign (s : Session) (line : Nat) (name value : Text) : Effect × Session :=
  match s.binding? name with
  | none =>
    if s.language = .python then s.applyDeclare line "var" name value else (.none, s)
  | some _ =>
    match s.assign? name value line with
    | some s' => (.variable name, s')
    | none => (.none, s)

/-- A step of a variable that holds an integer; any other is left alone. -/
def applyStep (s : Session) (line : Nat) (name : Text) (direction : Sign) :
    Except StatementError (Effect × Session) :=
  match (s.binding? name).bind fun b => Decimal.signedWord? b.value with
  | none => .ok (.none, s)
  | some n =>
    let next := n + direction.unit
    if Decimal.fits next then
      .ok (.variable name, (s.assign? name (Decimal.ofInt next) line).getD s)
    else .error (.overflow name)

/-- What a print statement writes: the values of its arguments with blanks between them. -/
def printed (s : Session) (args : List Text) (newline : Bool) : Text :=
  Text.join " " (args.map (evaluate s.environment)) ++ if newline then "\n" else ""

/-- **Apply a statement** that stands at a line. -/
def apply (s : Session) (line : Nat) : Statement → Except StatementError (Effect × Session)
  | .blank | .comment | .unrecognized => .ok (.none, s)
  | .declare typeTag name init =>
    if init.isEmpty then .error (.missingValue name)
    else .ok (s.applyDeclare line typeTag name (evaluate s.environment init))
  | .declareDefault typeTag name => .ok (s.applyDeclare line typeTag name (defaultValue typeTag))
  | .assign name op expr =>
    if expr.isEmpty then .error (.missingValue name)
    else .ok (s.applyAssign line name (evaluate s.environment (assignedExpr name op expr)))
  | .step name direction => s.applyStep line name direction
  | .print args newline =>
    let text := s.printed args newline
    .ok (.output text, s.write text)
  | .leave =>
    match s.popFrame? with
    | some (_, s') => .ok (.callStack, s')
    | none => .ok (.none, s)
  | .call method => .ok (.callStack, s.pushFrame method line)

/-- Apply the statement a line is. -/
def applyLine (s : Session) (text : Text) (line : Nat) :
    Except StatementError (Effect × Session) :=
  s.apply line (classify s.language text)

end Session

end SnippetLab

import SnippetLab.Batch.Report

/-!
# Running a program from its first line to its last

`interpret` applies every statement in turn.  The first that fails ends the run, and so does the
end of the time allowed: since a line takes next to none, **only a run that is allowed no time at
all runs out of it**, before its first line.

`inject` is how a test's input reaches a program: each of the calls that read a line becomes a
string literal.
-/

namespace SnippetLab.Batch

/-- The time a run is allowed: unlimited, or so many milliseconds. -/
abbrev Allowance := Option Nat

/-- Is an allowance used up at once? -/
def exhausted (allowance : Allowance) : Bool := allowance == some 0

/-- Apply the statements of some rows, one after another. -/
def applyRows (s : Session) : List Row → Except RunError Session
  | [] => .ok s
  | row :: rest =>
    match s.apply row.number row.statement with
    | .error e => .error (.failed row.number e)
    | .ok (_, s') => applyRows s' rest

/-- **What a program writes**, without blanks at its end. -/
def interpret (settings : Settings) (allowance : Allowance) (p : Program) : Except RunError Text :=
  if exhausted allowance && !p.rows.isEmpty then .error (.timeout 0)
  else (applyRows (.start p.language settings) p.rows).map fun s => Text.trimEnd s.output.text

/-! ## Input -/

/-- The characters of a text between double quotes, as a literal holds them: backslashes and double
quotes are escaped. -/
def escape (input : Text) : Text :=
  input.flatMap fun c => if c = '\\' ∨ c = '"' then ['\\', c] else [c]

/-- A text as a string literal. -/
def literal (input : Text) : Text := '"' :: escape input ++ "\""

/-- **The code with its calls for input replaced** by a literal of the input, one kind of call
after another. -/
def inject (language : Language) (input code : Text) : Text :=
  language.inputCalls.foldl (fun code call => Text.replaceAll call (literal input) code) code

end SnippetLab.Batch

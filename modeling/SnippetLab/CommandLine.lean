import SnippetLab.Console.Session
import SnippetLab.Host.Server

/-!
# The command line

What the arguments ask for, and what the program then writes and returns: the protocol for a host,
one run of a file with its report, or the step prompt for a file.
-/

namespace SnippetLab.CommandLine

/-- How the program is called. -/
def usage : Text :=
  "usage: snippet-debugger [--host] [--language <java|python|javascript>] [--timeout-ms <n>] " ++
    "[--run] <file>"

/-- What the arguments ask for. -/
structure Options where
  host : Bool
  run : Bool
  language : Option Language
  settings : Settings
  file : Option Text
  deriving Repr, DecidableEq

/-- Nothing asked for. -/
def Options.none : Options := ⟨false, false, .none, .standard, .none⟩

/-- A flag that is followed by a value. -/
inductive ValueFlag where
  | language
  | timeout
  deriving Repr, DecidableEq

/-- How a flag is written. -/
def ValueFlag.text : ValueFlag → Text
  | .language => "--language"
  | .timeout => "--timeout-ms"

/-- Options read so far, and the flag whose value comes next. -/
structure Reading where
  options : Options
  awaited : Option ValueFlag
  deriving Repr, DecidableEq

/-- Take the value of a flag. -/
def takeValue (o : Options) (flag : ValueFlag) (value : Text) : Except Text Options :=
  match flag with
  | .language => .ok { o with language := some (.ofTag value) }
  | .timeout =>
    match Decimal.word? value with
    | some ms => .ok { o with settings := { o.settings with timeoutMs := ms } }
    | Option.none => .error ("invalid timeout: " ++ value)

/-- Take one argument. -/
def takeArgument (reading : Reading) (argument : Text) : Except Text Reading :=
  let o := reading.options
  match reading.awaited with
  | some flag => (takeValue o flag argument).map fun o => ⟨o, .none⟩
  | Option.none =>
    if argument = "--host" then .ok ⟨{ o with host := true }, .none⟩
    else if argument = "--run" then .ok ⟨{ o with run := true }, .none⟩
    else if argument = ValueFlag.language.text then .ok ⟨o, some .language⟩
    else if argument = ValueFlag.timeout.text then .ok ⟨o, some .timeout⟩
    else if argument = "-h" ∨ argument = "--help" then .error usage
    else if argument.startsWith "--" then
      .error ("unknown flag " ++ argument ++ "\n" ++ usage)
    else .ok ⟨{ o with file := some argument }, .none⟩

/-- **Read the arguments**; a failure is what is told to the user. -/
def Options.ofArguments (arguments : List Text) : Except Text Options := do
  let reading ← arguments.foldlM takeArgument ⟨.none, .none⟩
  match reading.awaited with
  | some flag => throw (flag.text ++ " needs a value")
  | Option.none => pure reading.options

/-- The language of a file, by what follows the last point of its path. -/
def languageOfPath (path : Text) : Language :=
  match (Text.splitOn (· == '.') path).getLast? with
  | some ending =>
    if ending = "py" then .python else if ending = "js" then .javaScript else .java
  | Option.none => .java

/-! ## Tasks -/

/-- What is to be done. -/
inductive Task where
  /-- Serve a host. -/
  | host (settings : Settings)
  /-- Run a file and report. -/
  | run (settings : Settings) (language : Language) (path : Text)
  /-- Step through a file. -/
  | step (settings : Settings) (language : Language) (path : Text)
  /-- Say why nothing is done. -/
  | refuse (message : Text)
  deriving Repr, DecidableEq

/-- What the options ask for. -/
def Options.task (o : Options) : Task :=
  if o.host then .host o.settings
  else
    match o.file with
    | Option.none => .refuse usage
    | some path =>
      let language := o.language.getD (languageOfPath path)
      if o.run then .run o.settings language path else .step o.settings language path

/-- **What the arguments ask for.** -/
def Task.ofArguments (arguments : List Text) : Task :=
  match Options.ofArguments arguments with
  | .ok options => options.task
  | .error message => .refuse message

/-! ## Outcomes -/

/-- What a run of the program leaves behind. -/
structure Outcome where
  exitCode : Nat
  stdout : Text
  stderr : Text
  deriving Repr, DecidableEq

/-- Nothing was done. -/
def refused (message : Text) : Outcome := ⟨2, [], message ++ "\n"⟩

/-- Something could not be read. -/
def failed (stdout message : Text) : Outcome := ⟨1, stdout, "error: " ++ message ++ "\n"⟩

/-- The report of a run, as it is printed. -/
def reportText (report : Batch.Report) (elapsedMs : Nat) : Text :=
  Json.writeSpread (report.members elapsedMs) ++ "\n"

/-- Run a snippet and report. -/
def runOutcome (settings : Settings) (language : Language) (code : Text) (elapsedMs : Nat) :
    Outcome :=
  let report := ((Batch.Engine.new settings).execute language code settings.timeoutMs).1
  ⟨if report.success then 0 else 1, reportText report elapsedMs, []⟩

/-- A stepper for a snippet. -/
def stepperFor (settings : Settings) (language : Language) (code : Text) : Stepper :=
  (Stepper.new settings).load language code

/-- Serve a host until its input ends. -/
def hostOutcome (settings : Settings) (input : Host.Bytes) : Outcome :=
  let (messages, error) := Host.serve settings input
  let stdout := messages.flatMap Host.Message.framed
  match error with
  | Option.none => ⟨0, stdout, []⟩
  | some e => failed stdout e.message

/-- **What the program does**, given how files are read and the whole of its standard input.  The
step prompt is written to the standard error. -/
def outcome (arguments : List Text) (fileText : Text → Except Text Text) (stdin : Host.Bytes)
    (elapsedMs : Nat) : Outcome :=
  match Task.ofArguments arguments with
  | .refuse message => refused message
  | .host settings => hostOutcome settings stdin
  | .run settings language path =>
    match fileText path with
    | .error message => failed [] message
    | .ok code => runOutcome settings language code elapsedMs
  | .step settings language path =>
    match fileText path with
    | .error message => failed [] message
    | .ok code =>
      match Host.decodeText? stdin with
      | Option.none => failed [] Host.FrameError.badText.message
      | some input => ⟨0, [], (Console.run (stepperFor settings language code) input).1⟩

end SnippetLab.CommandLine

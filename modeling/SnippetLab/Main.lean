import SnippetLab.CommandLine

/-!
# The program

Reads arguments, files and standard input, and leaves every decision to the command line, the step
prompt and the host server.
-/

namespace SnippetLab.Main

open CommandLine

/-- Write a text to a stream at once. -/
def put (stream : IO.FS.Stream) (t : Text) : IO Unit := do
  stream.putStr (String.ofList t)
  stream.flush

/-- What is said about an error of the system. -/
def systemMessage : IO.Error → Text
  | .noFileOrDirectory .. => "No such file or directory (os error 2)"
  | .permissionDenied .. => "Permission denied (os error 13)"
  | .inappropriateType .. => "Is a directory (os error 21)"
  | other => (toString other).toList

/-- The text of a file, or what is said about it. -/
def fileText (path : Text) : IO (Except Text Text) := do
  try
    let bytes ← IO.FS.readBinFile (String.ofList path)
    match Host.decodeText? bytes.toList with
    | some t => pure (.ok t)
    | none => pure (.error Host.FrameError.badText.message)
  catch e => pure (.error (systemMessage e))

/-- Write an outcome and return its exit code. -/
def conclude (outcome : Outcome) : IO UInt32 := do
  put (← IO.getStdout) outcome.stdout
  put (← IO.getStderr) outcome.stderr
  pure (UInt32.ofNat outcome.exitCode)

/-! ## The host -/

/-- A host's connection: where its input has come to, and what it acts on. -/
structure Connection where
  reader : Host.Reader
  server : Host.Server

/-- Serve a payload; says whether more is read. -/
def servePayload (c : Connection) (payload : Option Host.Bytes) : IO (Connection × Bool) := do
  match payload with
  | none => pure (c, true)
  | some bytes =>
    let (server, messages, goesOn) := c.server.receive bytes
    put (← IO.getStdout) (messages.flatMap Host.Message.framed)
    pure ({ c with server }, goesOn)

/-- Serve some bytes of input; says how the connection stands after them, or how it ended. -/
def serveBytes (c : Connection) : Host.Bytes → IO (Except (Option Host.FrameError) Connection)
  | [] => pure (.ok c)
  | byte :: rest =>
    match c.reader.next byte with
    | .error e => pure (.error (some e))
    | .ok (reader, payload) => do
      let (c, goesOn) ← servePayload { c with reader } payload
      if goesOn then serveBytes c rest else pure (.error none)

/-- How many bytes can be read without waiting for more than the frame needs. -/
def wanted : Host.Reader → Nat
  | .header .. => 1
  | .payload missing _ => min missing 65536

/-- The exit code of a connection that has ended. -/
def concludeHost (error : Option Host.FrameError) : IO UInt32 :=
  match error with
  | none => pure 0
  | some e => conclude (failed [] e.message)

/-- Serve the rest of the standard input. -/
partial def serveHost (c : Connection) : IO UInt32 := do
  let chunk ← (← IO.getStdin).read (USize.ofNat (wanted c.reader))
  if chunk.isEmpty then
    let (payload, error) := c.reader.finish
    let (_, goesOn) ← servePayload c payload
    concludeHost (if goesOn then error else none)
  else
    match ← serveBytes c chunk.toList with
    | .ok c => serveHost c
    | .error ending => concludeHost ending

/-! ## The step prompt -/

/-- Prompt for commands until there are no more. -/
partial def stepThrough (s : Stepper) : IO UInt32 := do
  let stderr ← IO.getStderr
  put stderr (Console.prompt s)
  let line ← (← IO.getStdin).getLine
  if line.isEmpty then pure 0
  else
    let response := Console.respond s (.ofLine line.toList)
    put stderr response.shown
    if response.goesOn then stepThrough response.stepper else pure 0

/-! ## Tasks -/

/-- Do something with the text of a file. -/
def withFile (path : Text) (act : Text → IO UInt32) : IO UInt32 := do
  match ← fileText path with
  | .ok code => act code
  | .error message => conclude (failed [] message)

/-- Run a snippet and report, with the time it took. -/
def runFile (settings : Settings) (language : Language) (code : Text) : IO UInt32 := do
  let begun ← IO.monoMsNow
  let report := ((Batch.Engine.new settings).execute language code settings.timeoutMs).1
  let exitCode : UInt32 := if report.success then 0 else 1
  let ended ← IO.monoMsNow
  put (← IO.getStdout) (reportText report (ended - begun))
  pure exitCode

/-- Do what the arguments ask for. -/
def perform : Task → IO UInt32
  | .refuse message => conclude (refused message)
  | .host settings => serveHost ⟨.start, .start settings⟩
  | .run settings language path => withFile path (runFile settings language)
  | .step settings language path =>
    withFile path fun code => do
      let s := stepperFor settings language code
      put (← IO.getStderr) (Console.greeting s)
      stepThrough s

end SnippetLab.Main

/-- The program. -/
def main (arguments : List String) : IO UInt32 :=
  SnippetLab.Main.perform (.ofArguments (arguments.map String.toList))

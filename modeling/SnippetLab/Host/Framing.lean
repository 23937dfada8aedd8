import SnippetLab.Decimal.Numeral
import SnippetLab.Text.Classes

/-!
# Frames

Payloads travel as bytes behind a header of lines, one of which tells their length:
`Content-Length: n`.  A blank line ends the header; before a length is known blank lines mean
nothing.  The reader takes one byte at a time, so it serves a growing input and a finished one
alike.

* `Reader.next` — take a byte.
* `readAll` — the payloads of a whole input, and how it ends.
-/

namespace SnippetLab.Host

/-- A sequence of bytes. -/
abbrev Bytes := List UInt8

/-- Why reading stops before the end. -/
inductive FrameError where
  /-- A length that is no word. -/
  | badLength
  /-- A header line that is no text. -/
  | badText
  /-- The input ends inside a payload. -/
  | truncated
  deriving Repr, DecidableEq

/-- The wording of a frame error. -/
def FrameError.message : FrameError → Text
  | .badLength => "bad Content-Length header"
  | .badText => "stream did not contain valid UTF-8"
  | .truncated => "failed to fill whole buffer"

/-- The text that some bytes spell in UTF-8. -/
def decodeText? (bytes : Bytes) : Option Text :=
  (String.fromUTF8? ⟨bytes.toArray⟩).map String.toList

/-- A text in UTF-8. -/
def encodeText (t : Text) : Bytes := t.flatMap String.utf8EncodeChar

/-- Where a reader stands. -/
inductive Reader where
  /-- In a header; the length if it is known, and the line so far, nearest byte first. -/
  | header (length : Option Nat) (line : Bytes)
  /-- In a payload; how many bytes are missing, and those read, nearest byte first. -/
  | payload (missing : Nat) (read : Bytes)
  deriving Repr, DecidableEq

/-- At the beginning of the input, or after a frame. -/
def Reader.start : Reader := .header none []

/-- What a header line says. -/
inductive HeaderLine where
  | blank
  | length (n : Nat)
  | other
  deriving Repr, DecidableEq

/-- The field that tells the length. -/
def lengthField : Text := "Content-Length:"

/-- The end of a line: a line feed, or a carriage return and a line feed. -/
def isLineEnd (c : Char) : Bool := c == '\r' || c == '\n'

/-- **What a header line says**, given nearest byte first. -/
def HeaderLine.read (line : Bytes) : Except FrameError HeaderLine :=
  match decodeText? line.reverse with
  | none => .error .badText
  | some t =>
    let t := t.dropEndWhile isLineEnd
    if t.isEmpty then .ok .blank
    else
      match Text.dropStart? t lengthField with
      | none => .ok .other
      | some value =>
        match Decimal.word? (Text.trim value) with
        | some n => .ok (.length n)
        | none => .error .badLength

namespace Reader

/-- The reader after a header line, and the payload that is complete with it: an empty one. -/
def afterLine (length : Option Nat) : HeaderLine → Reader × Option Bytes
  | .length n => (.header (some n) [], none)
  | .other => (.header length [], none)
  | .blank =>
    match length with
    | none => (.header none [], none)
    | some 0 => (.start, some [])
    | some (n + 1) => (.payload (n + 1) [], none)

/-- **Take one byte**: the reader after it, and a payload if it completes one. -/
def next (byte : UInt8) : Reader → Except FrameError (Reader × Option Bytes)
  | .header length line =>
    if byte = 10 then (HeaderLine.read (byte :: line)).map (afterLine length)
    else .ok (.header length (byte :: line), none)
  | .payload missing read =>
    if missing ≤ 1 then .ok (.start, some (byte :: read).reverse)
    else .ok (.payload (missing - 1) (byte :: read), none)

/-- The end of the input: a payload if the last line completes one, and the error if it comes too
early.  A header that is not complete is none. -/
def finish : Reader → Option Bytes × Option FrameError
  | .payload .. => (none, some .truncated)
  | .header length line =>
    if line.isEmpty then (none, none)
    else
      match HeaderLine.read line with
      | .error e => (none, some e)
      | .ok said =>
        match afterLine length said with
        | (.payload .., complete) => (complete, some .truncated)
        | (.header .., complete) => (complete, none)

end Reader

/-- The payloads of the rest of an input, and the error that ends it if one does. -/
def readFrom (reader : Reader) : Bytes → List Bytes × Option FrameError
  | [] =>
    let (payload, error) := reader.finish
    (payload.toList, error)
  | byte :: rest =>
    match reader.next byte with
    | .error e => ([], some e)
    | .ok (reader', payload) =>
      let (later, error) := readFrom reader' rest
      (payload.toList ++ later, error)

/-- **The payloads of an input**, and the error that ends it if one does. -/
def readAll (input : Bytes) : List Bytes × Option FrameError := readFrom .start input

/-- The header of a payload of so many bytes. -/
def header (length : Nat) : Text := lengthField ++ ' ' :: Decimal.ofNat length ++ "\r\n\r\n"

/-- **A payload in its frame.** -/
def frame (payload : Bytes) : Bytes := encodeText (header payload.length) ++ payload

/-- A text in its frame; the header counts its bytes. -/
def frameText (t : Text) : Text := header (encodeText t).length ++ t

end SnippetLab.Host

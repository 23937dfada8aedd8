import SnippetLab.Json.Number

/-!
# The tokens of a JSON text

A text is read character by character into marks, strings, numbers and the three constants.  Where
a number or a constant ends is known from the character after it, which is then read again as the
beginning of something else.
-/

namespace SnippetLab.Json

/-- A token. -/
inductive Token where
  | openObject
  | closeObject
  | openArray
  | closeArray
  | comma
  | colon
  | string (t : Text)
  /-- A number or a constant. -/
  | scalar (value : Json)

/-- What is being read. -/
inductive Reading where
  /-- Nothing yet. -/
  | between
  /-- A string; what has been read of it, nearest character first. -/
  | string (read : Text)
  /-- A string, just after a backslash. -/
  | escape (read : Text)
  /-- A string, after `\u` and `count` hexadecimal digits with the value `code`.  If the character
  before was the first half of a pair, `high` is that half. -/
  | unicode (read : Text) (high : Option Nat) (count code : Nat)
  /-- A string, after the first half of a pair. -/
  | pair (read : Text) (high : Nat)
  /-- A string, after the first half of a pair and a backslash. -/
  | pairEscape (read : Text) (high : Nat)
  /-- A number, nearest character first. -/
  | number (read : Text)
  /-- A constant, nearest character first. -/
  | word (read : Text)

/-- White space between tokens. -/
def isSpace (c : Char) : Bool := c == ' ' || c == '\t' || c == '\n' || c == '\r'

/-- The characters numbers are made of. -/
def isNumberChar (c : Char) : Bool :=
  c.isDigit || c == '-' || c == '+' || c == '.' || c == 'e' || c == 'E'

/-- The constant a word names. -/
def constant? (word : Text) : Option Json :=
  if word = "true" then some (.bool true)
  else if word = "false" then some (.bool false)
  else if word = "null" then some .null
  else none

/-- The character an escape letter stands for. -/
def escaped? (c : Char) : Option Char :=
  match c with
  | '"' | '\\' | '/' => some c
  | 'b' => some '\x08'
  | 'f' => some '\x0c'
  | 'n' => some '\n'
  | 'r' => some '\r'
  | 't' => some '\t'
  | _ => none

/-- The value of a hexadecimal digit. -/
def hexDigit? (c : Char) : Option Nat :=
  if c.isDigit then some (c.toNat - 48)
  else if 'a' ≤ c ∧ c ≤ 'f' then some (c.toNat - 87)
  else if 'A' ≤ c ∧ c ≤ 'F' then some (c.toNat - 55)
  else none

/-- A first half of a pair. -/
def isHighHalf (n : Nat) : Bool := 0xD800 ≤ n && n < 0xDC00

/-- A second half of a pair. -/
def isLowHalf (n : Nat) : Bool := 0xDC00 ≤ n && n < 0xE000

/-- What follows an escape by number that is complete. -/
def unicodeDone (read : Text) (high : Option Nat) (code : Nat) : Option Reading :=
  match high with
  | some high =>
    if isLowHalf code then
      some (.string (Char.ofNat (0x10000 + (high - 0xD800) * 0x400 + (code - 0xDC00)) :: read))
    else none
  | none =>
    if isHighHalf code then some (.pair read code)
    else if isLowHalf code then none
    else some (.string (Char.ofNat code :: read))

/-- Read a character that begins something, or is a mark by itself. -/
def begin? (c : Char) : Option (Reading × List Token) :=
  match c with
  | '\x7b' => some (.between, [.openObject])
  | '\x7d' => some (.between, [.closeObject])
  | '[' => some (.between, [.openArray])
  | ']' => some (.between, [.closeArray])
  | ',' => some (.between, [.comma])
  | ':' => some (.between, [.colon])
  | '"' => some (.string [], [])
  | _ =>
    if isSpace c then some (.between, [])
    else if c.isDigit || c == '-' then some (.number [c], [])
    else if c.isAlpha then some (.word [c], [])
    else none

/-- Read a character after some token that is complete. -/
def beginAfter? (value : Option Json) (c : Char) : Option (Reading × List Token) :=
  match value, begin? c with
  | some value, some (reading, tokens) => some (reading, .scalar value :: tokens)
  | _, _ => none

/-- **Read one character.** -/
def Reading.next? (c : Char) : Reading → Option (Reading × List Token)
  | .between => begin? c
  | .string read =>
    if c = '"' then some (.between, [.string read.reverse])
    else if c = '\\' then some (.escape read, [])
    else if c.toNat < 0x20 then none
    else some (.string (c :: read), [])
  | .escape read =>
    if c = 'u' then some (.unicode read none 0 0, [])
    else (escaped? c).map fun e => (.string (e :: read), [])
  | .unicode read high count code =>
    match hexDigit? c with
    | none => none
    | some d =>
      if count < 3 then some (.unicode read high (count + 1) (code * 16 + d), [])
      else (unicodeDone read high (code * 16 + d)).map fun reading => (reading, [])
  | .pair read high => if c = '\\' then some (.pairEscape read high, []) else none
  | .pairEscape read high => if c = 'u' then some (.unicode read (some high) 0 0, []) else none
  | .number read =>
    if isNumberChar c then some (.number (c :: read), [])
    else beginAfter? (number? read.reverse) c
  | .word read =>
    if c.isAlpha then some (.word (c :: read), []) else beginAfter? (constant? read.reverse) c

/-- The tokens still owed at the end of a text. -/
def Reading.finish? : Reading → Option (List Token)
  | .between => some []
  | .number read => (number? read.reverse).map fun value => [.scalar value]
  | .word read => (constant? read.reverse).map fun value => [.scalar value]
  | _ => none

/-- The tokens of the rest of a text. -/
def tokensFrom? (reading : Reading) : Text → Option (List Token)
  | [] => reading.finish?
  | c :: r =>
    match reading.next? c with
    | none => none
    | some (reading', tokens) => (tokensFrom? reading' r).map (tokens ++ ·)

/-- **The tokens of a text.** -/
def tokens? (t : Text) : Option (List Token) := tokensFrom? .between t

end SnippetLab.Json

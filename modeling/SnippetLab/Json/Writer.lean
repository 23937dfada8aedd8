import SnippetLab.Json.Number

/-!
# Writing JSON

Values are written without any white space, members in the order they have.  In strings only what
must be escaped is: quotes, backslashes and control characters.
-/

namespace SnippetLab.Json

/-- A digit of a hexadecimal number. -/
def hexDigit (n : Nat) : Char := Nat.digitChar n

/-- A character as it stands in a string. -/
def escapeChar (c : Char) : Text :=
  match c with
  | '"' => ['\\', '"']
  | '\\' => ['\\', '\\']
  | '\x08' => ['\\', 'b']
  | '\x0c' => ['\\', 'f']
  | '\n' => ['\\', 'n']
  | '\r' => ['\\', 'r']
  | '\t' => ['\\', 't']
  | _ =>
    if c.toNat < 0x20 then
      ['\\', 'u', '0', '0', hexDigit (c.toNat / 16), hexDigit (c.toNat % 16)]
    else [c]

/-- **A text as a string.** -/
def quote (t : Text) : Text := '"' :: (t.flatMap escapeChar ++ "\"")

/-- A member's name and value, written. -/
def member (name value : Text) : Text := quote name ++ ':' :: value

/-- Members that are written already, between braces. -/
def braced (members : List Text) : Text := '\x7b' :: (Text.join "," members ++ ['\x7d'])

mutual

/-- **A value as text.** -/
def write : Json → Text
  | .null => "null"
  | .bool true => "true"
  | .bool false => "false"
  | .int n => Decimal.ofInt n
  | .double bits => doubleText bits
  | .str t => quote t
  | .arr items => '[' :: (Text.join "," (writeItems items) ++ "]")
  | .obj members => braced (writeMembers members)

/-- The items of an array, written. -/
def writeItems : List Json → List Text
  | [] => []
  | item :: rest => write item :: writeItems rest

/-- The members of an object, written. -/
def writeMembers : List (Text × Json) → List Text
  | [] => []
  | (name, value) :: rest => member name (write value) :: writeMembers rest

end

/-- An object spread over lines, its members indented, for a reader.  Members are written in the
order given and their values without white space. -/
def writeSpread (members : List (Text × Json)) : Text :=
  let lines := members.map fun (name, value) => "  " ++ quote name ++ ": " ++ write value
  "\x7b\n" ++ Text.join ",\n" lines ++ "\n\x7d"

end SnippetLab.Json

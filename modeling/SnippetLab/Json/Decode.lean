import SnippetLab.Json.Writer
import SnippetLab.Text.Classes

/-!
# Reading records from JSON

What a record's field has to be, and the wording when a value is something else.  An object's
members are looked at in their order and the first that does not fit is reported, whatever is
missing elsewhere; members that no field is named for are passed over.  An array is a record too:
its items are the fields in the order the record declares them.

* `record` — the fields of a record from either form.
* `DecodeError.message` — the wording of every failure.
-/

namespace SnippetLab.Json

/-! ## Failures -/

/-- Why a value does not fit. -/
inductive DecodeError where
  /-- The value is of another kind. -/
  | wrongType (found : Json) (expected : Text)
  /-- The number is out of range. -/
  | wrongValue (found : Int) (expected : Text)
  /-- A member is missing. -/
  | missing (field : Text)
  /-- An array is too short, or too long, for its record. -/
  | wrongLength (length : Nat) (expected : Text)
  deriving Repr

/-- A number in hexadecimal digits. -/
def hexDigits (n : Nat) : Text := Nat.toDigits 16 n

/-- A character as a quotation shows it: by its number if it has no shape of its own. -/
def quotedChar (c : Char) : Text :=
  match c with
  | '\x00' => ['\\', '0']
  | '\t' => ['\\', 't']
  | '\r' => ['\\', 'r']
  | '\n' => ['\\', 'n']
  | '\\' => ['\\', '\\']
  | '"' => ['\\', '"']
  | _ =>
    if Text.extendsGrapheme c || Text.isInvisible c then
      '\\' :: 'u' :: '\x7b' :: (hexDigits c.toNat ++ ['\x7d'])
    else [c]

/-- A text in quotation marks, for a message. -/
def quotation (t : Text) : Text := '"' :: (t.flatMap quotedChar ++ "\"")

/-- What a value is, in a message. -/
def describe : Json → Text
  | .null => "null"
  | .bool b => "boolean `" ++ (if b then "true" else "false") ++ "`"
  | .int n => "integer `" ++ Decimal.ofInt n ++ "`"
  | .double bits => "floating point `" ++ doubleText bits ++ "`"
  | .str t => "string " ++ quotation t
  | .arr _ => "sequence"
  | .obj _ => "map"

/-- **The wording of a failure.** -/
def DecodeError.message : DecodeError → Text
  | .wrongType found expected => "invalid type: " ++ describe found ++ ", expected " ++ expected
  | .wrongValue found expected =>
    "invalid value: integer `" ++ Decimal.ofInt found ++ "`, expected " ++ expected
  | .missing field => "missing field `" ++ field ++ "`"
  | .wrongLength length expected =>
    "invalid length " ++ Decimal.ofNat length ++ ", expected " ++ expected

/-! ## Fields -/

/-- A field that is a string. -/
def toText : Json → Except DecodeError Text
  | .str t => .ok t
  | j => .error (.wrongType j "a string")

/-- A field that is a truth value. -/
def toBool : Json → Except DecodeError Bool
  | .bool b => .ok b
  | j => .error (.wrongType j "a boolean")

/-- A field that is a number of 64 bits without a sign; `kind` is what it is called. -/
def toWord (kind : Text) : Json → Except DecodeError Nat
  | .int n => if n < 0 then .error (.wrongValue n kind) else .ok n.toNat
  | j => .error (.wrongType j kind)

/-- A field that may be null. -/
def toOption {α : Type} (decode : Json → Except DecodeError α) : Json → Except DecodeError (Option α)
  | .null => .ok none
  | j => (decode j).map some

/-- A field that is a list. -/
def toList {α : Type} (decode : Json → Except DecodeError α) : Json → Except DecodeError (List α)
  | .arr items => items.mapM decode
  | j => .error (.wrongType j "a sequence")

/-! ## Records -/

/-- A record's name and fields, in the order it declares them; `required` are those it cannot do
without. -/
structure Shape where
  name : Text
  fields : List Text
  required : List Text

/-- What an array is expected to be when it is too short for a record. -/
def Shape.asArray (shape : Shape) : Text :=
  "struct " ++ shape.name ++ " with " ++ Decimal.ofNat shape.fields.length ++ " elements"

/-- The first required field that some members do not give. -/
def Shape.firstMissing? (shape : Shape) (members : List (Text × Json)) : Option Text :=
  shape.required.find? fun field => !(members.map (·.1)).contains field

/-- **Read a record** by putting its fields, one by one, into an empty one. -/
def record {α : Type} (shape : Shape) (empty : α)
    (put : α → Text → Json → Except DecodeError α) (j : Json) : Except DecodeError α :=
  let fill (members : List (Text × Json)) :=
    members.foldlM (fun a (name, value) => put a name value) empty
  match j with
  | .obj members => do
    let filled ← fill members
    match shape.firstMissing? members with
    | some field => throw (.missing field)
    | none => pure filled
  | .arr items => do
    let members := shape.fields.zip items
    let filled ← fill members
    match shape.firstMissing? members with
    | some field => throw (.wrongLength (shape.fields.idxOf field) shape.asArray)
    | none =>
      if shape.fields.length < items.length then
        throw (.wrongLength items.length "fewer elements in array")
      else pure filled
  | _ => throw (.wrongType j ("struct " ++ shape.name))

end SnippetLab.Json

/-!
# JSON values and their compact text

A JSON value keeps a number as it is written, and the members of an object in their order,
repeated names included. A string is the text it denotes; its escapes can also fail to denote a
text, when halves of a surrogate pair stand alone, and then there is none.

`Json.render` writes a value without white space.
-/

namespace Postulate

/-- A JSON value. -/
inductive Json where
  | null
  | bool (value : Bool)
  /-- A number, as written. -/
  | number (written : List Char)
  /-- The text of a string, if its escapes denote one. -/
  | string (text : Option String)
  | array (items : List Json)
  | object (members : List (Option String × Json))
deriving Inhabited

namespace Json

/-- The value of a text. -/
def ofString (text : String) : Json := .string (some text)

/-- The value of a text, or null. -/
def ofString? (text : Option String) : Json := text.elim .null ofString

/-- The value of a natural number. -/
def ofNat (n : Nat) : Json := .number (Nat.toDigits 10 n)

/-- An object with the given members. -/
def ofMembers (members : List (String × Json)) : Json :=
  .object (members.map fun (name, value) => (some name, value))

/-! ## Writing -/

/-- A character inside a written string: quote, backslash and control characters are escaped. -/
def escape (c : Char) : List Char :=
  match c with
  | '"' => ['\\', '"']
  | '\\' => ['\\', '\\']
  | '\x08' => ['\\', 'b']
  | '\t' => ['\\', 't']
  | '\n' => ['\\', 'n']
  | '\x0c' => ['\\', 'f']
  | '\r' => ['\\', 'r']
  | c =>
    if c.toNat < 0x20 then
      ['\\', 'u', '0', '0', Nat.digitChar (c.toNat / 16), Nat.digitChar (c.toNat % 16)]
    else [c]

/-- A text as a JSON string. -/
def quote (text : List Char) : List Char := ['"'] ++ text.flatMap escape ++ ['"']

/-- The parts with a comma between every two. -/
def joined : List (List Char) → List Char
  | [] => []
  | [part] => part
  | part :: others => part ++ ',' :: joined others

mutual

/-- The compact text of a value. A string without a text is written as the empty one. -/
def render : Json → List Char
  | null => "null".toList
  | bool value => (if value then "true" else "false").toList
  | number written => written
  | string text => quote (text.getD "").toList
  | array items => '[' :: joined (renderItems items) ++ [']']
  | object members => '\x7b' :: joined (renderMembers members) ++ ['\x7d']

/-- The texts of the items of an array. -/
def renderItems : List Json → List (List Char)
  | [] => []
  | item :: items => render item :: renderItems items

/-- The texts of the members of an object. -/
def renderMembers : List (Option String × Json) → List (List Char)
  | [] => []
  | (name, value) :: members =>
    (quote (name.getD "").toList ++ ':' :: render value) :: renderMembers members

end

/-- The compact text of a value, as a string. -/
def text (j : Json) : String := String.ofList j.render

end Json

end Postulate

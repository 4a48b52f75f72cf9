import Postulate.Json.Basic
import Postulate.Json.Token

/-!
# Values that can be written

Not every value has a text: the escapes of a string or of a name may denote none, and what is kept
of a number may be no number. `Json.text?` writes a value if it can be written.
-/

namespace Postulate.Json

mutual

/-- Has the value a text? -/
def hasText : Json → Bool
  | null | bool _ => true
  | number written => Token.isNumber written
  | string text => text.isSome
  | array items => haveText items
  | object members => membersHaveText members

/-- Have all the items of an array a text? -/
def haveText : List Json → Bool
  | [] => true
  | item :: items => item.hasText && haveText items

/-- Have all the members of an object a text? -/
def membersHaveText : List (Option String × Json) → Bool
  | [] => true
  | (name, value) :: members => name.isSome && value.hasText && membersHaveText members

end

/-- The compact text of a value, if it can be written. -/
def text? (j : Json) : Option String := if j.hasText then some j.text else none

end Postulate.Json

import Postulate.Json.Basic
import Postulate.Json.Token

/-!
# Reading JSON

The tokens are put together to a value by a machine that keeps the arrays and objects that are
still open on a stack, so that nesting has no limit. `Json.ofText?` reads a whole text.
-/

namespace Postulate.Json

/-- An array or object that is not closed yet, its parts so far in reverse order. -/
inductive Open where
  | array (items : List Json)
  | object (members : List (Option String × Json))
  /-- An object whose next member has got its name. -/
  | member (members : List (Option String × Json)) (name : Option String)

/-- What the reader waits for. -/
inductive Reader where
  /-- A value. -/
  | value (stack : List Open)
  /-- The first item of an array, or its end. -/
  | firstItem (stack : List Open)
  /-- The name of the first member of an object, or its end. -/
  | firstName (members : List (Option String × Json)) (stack : List Open)
  /-- The name of a further member. -/
  | nextName (members : List (Option String × Json)) (stack : List Open)
  /-- The colon after a name. -/
  | colon (members : List (Option String × Json)) (name : Option String) (stack : List Open)
  /-- A comma, or the end of the innermost array or object. -/
  | next (stack : List Open)
  /-- Nothing: the value is complete. -/
  | done (value : Json)

namespace Reader

/-- Puts a complete value into the innermost open array or object. -/
def complete (v : Json) : List Open → Option Reader
  | [] => some (.done v)
  | .array items :: stack => some (.next (.array (v :: items) :: stack))
  | .member members name :: stack => some (.next (.object ((name, v) :: members) :: stack))
  | .object _ :: _ => none

/-- The text of a string token, if it denotes one. -/
def stringText (units : List StringUnit) : Option String := (textOfUnits? units).map String.ofList

/-- A token where a value is wanted. -/
def startValue (stack : List Open) : Token → Option Reader
  | .openBrace => some (.firstName [] stack)
  | .openBracket => some (.firstItem stack)
  | .string units => complete (.string (stringText units)) stack
  | .number written => complete (.number written) stack
  | .true => complete (.bool true) stack
  | .false => complete (.bool false) stack
  | .null => complete .null stack
  | .closeBrace | .closeBracket | .colon | .comma => none

/-- A token. -/
def step : Reader → Token → Option Reader
  | .value stack, token => startValue stack token
  | .firstItem stack, .closeBracket => complete (.array []) stack
  | .firstItem stack, token => startValue (.array [] :: stack) token
  | .firstName members stack, .closeBrace => complete (.object members.reverse) stack
  | .firstName members stack, .string units => some (.colon members (stringText units) stack)
  | .nextName members stack, .string units => some (.colon members (stringText units) stack)
  | .colon members name stack, .colon => some (.value (.member members name :: stack))
  | .next (.array items :: stack), .comma => some (.value (.array items :: stack))
  | .next (.array items :: stack), .closeBracket => complete (.array items.reverse) stack
  | .next (.object members :: stack), .comma => some (.nextName members stack)
  | .next (.object members :: stack), .closeBrace => complete (.object members.reverse) stack
  | _, _ => none

/-- Reads on through a list of tokens. -/
def run : Reader → List Token → Option Reader
  | reader, [] => some reader
  | reader, token :: tokens => (reader.step token).bind fun reader => run reader tokens

/-- The value, when it is complete. -/
def result? : Reader → Option Json
  | .done v => some v
  | _ => none

end Reader

/-- The value that a list of tokens forms. -/
def ofTokens? (tokens : List Token) : Option Json :=
  ((Reader.value []).run tokens).bind Reader.result?

/-- The value of a whole text. -/
def ofText? (text : List Char) : Option Json := (Token.ofText? text).bind ofTokens?

end Postulate.Json

import Postulate.Json.Tree
import Postulate.Log.Logger
import Postulate.Text.WhiteSpace
import Postulate.Theory.Error

/-!
# Configurations

A configuration gives a theory its name and says what it logs. It is read from a JSON object with
the optional members `name`, `logging_enabled` and `log_severity`, each at most once, other
members being ignored; or from an array of the same values in that order, whose missing tail takes
the defaults.
-/

namespace Postulate

open Log (Severity Logger)

/-- The configuration of a theory. -/
structure Config where
  name : Option String := none
  loggingEnabled : Bool := false
  logSeverity : Severity := .info
deriving Repr, DecidableEq, Inhabited

/-- Why a configuration cannot be used. -/
inductive ConfigFault where
  /-- The file cannot be read as text. -/
  | unreadable
  /-- The text is no JSON of the right shape. -/
  | malformed
  | blankName
deriving Repr, DecidableEq

namespace ConfigFault

/-- The reason in words. What a file system or a reader of JSON would add after the colon is left
out. -/
def reason : ConfigFault → String
  | unreadable => "Failed to read config: "
  | malformed => "Invalid config JSON: "
  | blankName => "name must not be blank"

end ConfigFault

namespace Config

/-- The logger that the configuration describes. -/
def logger (c : Config) : Logger :=
  if c.loggingEnabled then .atLeast c.logSeverity else .disabled

/-- Checks that the name, where there is one, is not blank. -/
def validate (c : Config) : Except ConfigFault Config :=
  if c.name.any fun name => Text.isBlank name.toList then .error .blankName else .ok c

/-! ## Reading -/

/-- The members of a configuration. -/
inductive Member where
  | name
  | loggingEnabled
  | logSeverity
deriving Repr, DecidableEq

/-- The members in the order of an array. -/
def Member.all : List Member := [.name, .loggingEnabled, .logSeverity]

/-- The name of a member. -/
def Member.key : Member → String
  | name => "name"
  | loggingEnabled => "logging_enabled"
  | logSeverity => "log_severity"

/-- A severity is given by its name, or by an object with its name as the only member and null. -/
def severity? : Json → Option Severity
  | .string (some name) => Severity.ofName? name
  | .object [(some name, .null)] => Severity.ofName? name
  | _ => none

/-- Sets a member to a value, if the value is of the right kind. -/
def set (c : Config) (member : Member) (value : Json) : Option Config :=
  match member, value with
  | .name, .null => some { c with name := none }
  | .name, .string (some name) => some { c with name := some name }
  | .loggingEnabled, .bool enabled => some { c with loggingEnabled := enabled }
  | .logSeverity, value => (severity? value).map fun severity => { c with logSeverity := severity }
  | _, _ => none

/-- Reads the members of an object. The members that have been met already must not come again,
and the name of every member must denote a text. -/
def ofMembers? (c : Config) (met : List Member) : List (Option String × Json) → Option Config
  | [] => some c
  | (none, _) :: _ => none
  | (some key, value) :: rest =>
    match Member.all.find? fun member => member.key = key with
    | none => ofMembers? c met rest
    | some member =>
      if member ∈ met then none
      else (c.set member value).bind fun c => ofMembers? c (member :: met) rest

/-- Reads the items of an array as the members in their order. -/
def ofItems? (c : Config) : List Member → List Json → Option Config
  | _, [] => some c
  | [], _ :: _ => none
  | member :: members, value :: values =>
    (c.set member value).bind fun c => ofItems? c members values

/-- Reads a JSON value as a configuration, whether it can be used or not. -/
def ofJson? : Json → Option Config
  | .object members => ofMembers? {} [] members
  | .array items => ofItems? {} Member.all items
  | _ => none

/-- Reads a JSON text as a configuration that can be used. -/
def ofText (text : String) : Except ConfigFault Config :=
  match (Json.ofText? text.toList).bind ofJson? with
  | none => .error .malformed
  | some c => c.validate

/-- Reads the content of a file, which must be there and be text in UTF-8. -/
def ofFile (content : Option ByteArray) : Except ConfigFault Config :=
  match content.bind String.fromUTF8? with
  | none => .error .unreadable
  | some text => ofText text

/-! ## Writing -/

/-- The configuration as JSON. -/
def json (c : Config) : Json :=
  .ofMembers [
    (Member.name.key, .ofString? c.name),
    (Member.loggingEnabled.key, .bool c.loggingEnabled),
    (Member.logSeverity.key, .ofString c.logSeverity.name)]

end Config

end Postulate

import SessionKeeper.Json.Printer
import SessionKeeper.Text.Blank

/-! # Error bodies

What the body of a failed answer says, whichever of its ways the backend chose to say it: one message
for the whole request, a message for each of several fields, text that is no JSON object, or nothing. -/

namespace SessionKeeper

/-- Messages by field name. -/
abbrev FieldErrors := Dictionary String

/-- The meaning of the body of a failed answer. -/
inductive ErrorBody where
  | empty
  | general (message : String)
  | fields (messages : FieldErrors)
  | text (s : String)
deriving DecidableEq

namespace ErrorBody

/-- How much of a body is passed on, in characters. -/
def maxChars : Nat := 200

/-- The body trimmed and cut to length; a stand-in if it is blank. -/
def sanitize (raw : String) : String :=
  match Text.trimChars raw.toList with
  | [] => "Request failed."
  | cs => String.ofList (cs.take maxChars)

/-- The message in a member: a text as it is, the first message of an array, the compact text of any
other value; null has none. -/
def fieldMessage? : Json → Option String
  | .text s => some s
  | .array (x :: _) => fieldMessage? x
  | .array [] => none
  | .null => none
  | v => some v.compact

/-- The members that have a message. -/
def flatten (members : List (String × Json)) : FieldErrors :=
  .ofList (members.filterMap fun m => (fieldMessage? m.2).map (m.1, ·))

/-- The meaning of the members of an object. Details that have messages come first, then a text under
`error`, then one under `detail`, then whatever members have messages. -/
def ofMembers (members : List (String × Json)) : ErrorBody :=
  let details := match lookupKey "details" members with
    | some (.object ms) => flatten ms
    | _ => .empty
  if !details.isEmpty then .fields details
  else match lookupKey "error" members, lookupKey "detail" members with
    | some (.text m), _ => .general m
    | _, some (.text m) => .general m
    | _, _ =>
      let all := flatten members
      if all.isEmpty then .empty else .fields all

/-- The meaning of a body. -/
def parse (raw : String) : ErrorBody :=
  let trimmed := Text.trim raw
  if trimmed.isEmpty then .empty
  else match Json.read? trimmed with
    | some (.object members) => ofMembers members
    | _ => .text (sanitize trimmed)

end ErrorBody

end SessionKeeper

import SessionKeeper.Json.Printer
import SessionKeeper.Text.Quoted

/-! # Decoding records

How a JSON text becomes a record. A record is written as an object, members in any order and unknown
ones ignored, or as an array of its fields in order. The first offence in document order is the error;
what is missing is reported after everything present has been looked at, in the order of the fields. A
text that is no JSON value at all has the one error `malformed`, whatever else is wrong with it. -/

namespace SessionKeeper.Json

/-- What a decoder met, as an error describes it. -/
inductive Found where
  | null
  | bool (b : Bool)
  | int (n : Int)
  | float (x : Binary64)
  | text (s : String)
  | sequence
  | map
deriving DecidableEq

/-- What a decoder wanted, as an error describes it. -/
inductive Wanted where
  | integer
  | text
  | flag
  | unit
  | dictionary
  | record (name : String)
deriving DecidableEq

/-- Why a text does not decode. -/
inductive DecodeError where
  | malformed
  | wrongType (found : Found) (wanted : Wanted)
  | outOfRange (n : Int)
  | unknownVariant (name : String)
  | missing (field : String)
  | repeated (field : String)
  | tooShort (length : Nat) (record : String) (fields : Nat)
  | trailing
  | noValue
deriving DecidableEq

/-- The description of what was met. -/
def Found.message : Found → String
  | .null => "null"
  | .bool b => "boolean `" ++ (if b then "true" else "false") ++ "`"
  | .int n => "integer `" ++ String.ofList (intChars n) ++ "`"
  | .float x => "floating point `" ++ floatLayout.render x ++ "`"
  | .text s => "string " ++ Text.quoted s
  | .sequence => "sequence"
  | .map => "map"

/-- The description of what was wanted. -/
def Wanted.message : Wanted → String
  | .integer => "i64"
  | .text => "a string"
  | .flag => "a boolean"
  | .unit => "unit"
  | .dictionary => "a map"
  | .record name => "struct " ++ name

/-- The text of a decoding error. -/
def DecodeError.message : DecodeError → String
  | .malformed => "<syntax>"
  | .wrongType found wanted => "invalid type: " ++ found.message ++ ", expected " ++ wanted.message
  | .outOfRange n =>
    "invalid value: " ++ (Found.int n).message ++ ", expected " ++ Wanted.integer.message
  | .unknownVariant name => "unknown variant `" ++ name ++ "`, expected `faculty` or `student`"
  | .missing field => "missing field `" ++ field ++ "`"
  | .repeated field => "duplicate field `" ++ field ++ "`"
  | .tooShort length record fields =>
    "invalid length " ++ toString length ++ ", expected struct " ++ record ++ " with " ++
      toString fields ++ (if fields = 1 then " element" else " elements")
  | .trailing => "trailing characters"
  | .noValue => "expected value"

/-- A reading of trees as values of a type. -/
abbrev Decoder (α : Type) := Tree → Except DecodeError α

/-- The description of a tree that is not what was wanted. -/
def Tree.found? : Tree → Option Found
  | .null => some .null
  | .bool b => some (.bool b)
  | .number n =>
    match n.value? with
    | some (.int n) => some (.int n)
    | some (.float x) => some (.float x)
    | _ => none
  | .text s => s.map .text
  | .array _ => some .sequence
  | .object _ => some .map

/-- The tree is not what was wanted. -/
def Tree.mismatch (t : Tree) (wanted : Wanted) : Except DecodeError α :=
  .error <| match t.found? with
    | some found => .wrongType found wanted
    | none => .malformed

namespace Decoder

/-- A text. -/
def text : Decoder String
  | .text (some s) => .ok s
  | t => t.mismatch .text

/-- A truth value. -/
def flag : Decoder Bool
  | .bool b => .ok b
  | t => t.mismatch .flag

/-- A 64-bit signed integer. -/
def integer : Decoder Int64 := fun t =>
  match t.found? with
  | some (.int n) =>
    if Int64.minValue.toInt ≤ n ∧ n ≤ Int64.maxValue.toInt then .ok (Int64.ofInt n) else .error (.outOfRange n)
  | _ => t.mismatch .integer

/-- Null, read as nothing, or what the decoder reads. -/
def nullable (dec : Decoder α) : Decoder (Option α)
  | .null => .ok none
  | t => (dec t).map some

/-- The entries that the members make, in document order, on top of those already there; of several
with one key the last counts. -/
def insertMembers (dec : Decoder α) (d : Dictionary α) :
    List (Option String × Tree) → Except DecodeError (Dictionary α)
  | [] => .ok d
  | (none, _) :: _ => .error .malformed
  | (some k, t) :: ms =>
    match dec t with
    | .error e => .error e
    | .ok v => dec.insertMembers (d.insert k v) ms

/-- An object whose values the decoder reads. -/
def dictionary (dec : Decoder α) : Decoder (Dictionary α)
  | .object ms => dec.insertMembers .empty ms
  | t => t.mismatch .dictionary

/-- Only the outcome, not the value. -/
def check (dec : Decoder α) : Decoder Unit := fun t => (dec t).map fun _ => ()

end Decoder

/-- A field of a record: its name, the further names it goes by, what may stand there, and whether it
may be left out of an object or off the end of an array. -/
structure Field where
  name : String
  aliases : List String
  check : Decoder Unit
  maybeAbsent : Bool
  maybeCutOff : Bool

namespace Field

/-- A field that must be there. -/
def required (name : String) (dec : Decoder α) : Field := ⟨name, [], dec.check, false, false⟩

/-- A field that has a default value. -/
def defaulted (name : String) (dec : Decoder α) (aliases : List String) : Field :=
  ⟨name, aliases, dec.check, true, true⟩

/-- A field without which an object, but not an array, is complete. -/
def omissible (name : String) (dec : Decoder α) : Field := ⟨name, [], dec.check, true, false⟩

/-- The field goes by that name. -/
def answersTo (f : Field) (k : String) : Bool := f.name == k || f.aliases.contains k

end Field

/-- The layout of a record. -/
structure Layout where
  name : String
  fields : List Field

namespace Layout

/-- The checked fields of an object, in document order after those already `seen`. -/
def fromMembers (l : Layout) (seen : List (String × Tree)) :
    List (Option String × Tree) → Except DecodeError (List (String × Tree))
  | [] => .ok seen
  | (none, _) :: _ => .error .malformed
  | (some k, t) :: ms =>
    match l.fields.find? (·.answersTo k) with
    | none => l.fromMembers seen ms
    | some f =>
      if (lookupKey f.name seen).isSome then .error (.repeated f.name)
      else match f.check t with
        | .error e => .error e
        | .ok () => l.fromMembers (seen ++ [(f.name, t)]) ms

/-- The first field, in the order of the layout, that is missing and must not be. -/
def firstMissing? (l : Layout) (seen : List (String × Tree)) : Option String :=
  (l.fields.find? fun f => !f.maybeAbsent && (lookupKey f.name seen).isNone).map (·.name)

/-- The checked fields of an array; `i` counts the fields passed. -/
def fromItems (l : Layout) (i : Nat) : List Field → List Tree →
    Except DecodeError (List (String × Tree))
  | [], [] => .ok []
  | [], _ :: _ => .error .trailing
  | f :: fs, [] =>
    if f.maybeCutOff then l.fromItems (i + 1) fs []
    else .error (.tooShort i l.name l.fields.length)
  | f :: fs, t :: ts =>
    match f.check t with
    | .error e => .error e
    | .ok () => (l.fromItems (i + 1) fs ts).map ((f.name, t) :: ·)

/-- The fields that the tree gives, each under its first name and with what stands there. -/
def read (l : Layout) : Tree → Except DecodeError (List (String × Tree))
  | .object ms =>
    match l.fromMembers [] ms with
    | .error e => .error e
    | .ok seen =>
      match l.firstMissing? seen with
      | some f => .error (.missing f)
      | none => .ok seen
  | .array ts => l.fromItems 0 l.fields ts
  | t => t.mismatch (.record l.name)

end Layout

/-- The value of a field that must be there. -/
def need (seen : List (String × Tree)) (name : String) (dec : Decoder α) : Except DecodeError α :=
  match lookupKey name seen with
  | some t => dec t
  | none => .error (.missing name)

/-- The value of a field, or its default. -/
def orElse (seen : List (String × Tree)) (name : String) (dec : Decoder α) (default : α) :
    Except DecodeError α :=
  match lookupKey name seen with
  | some t => dec t
  | none => .ok default

/-- Decodes a text. An error counts as it is only if the text is a JSON value. -/
def decode (dec : Decoder α) (raw : String) : Except DecodeError α :=
  match Tree.read? raw with
  | none => .error .malformed
  | some t =>
    match dec t with
    | .ok a => .ok a
    | .error e => .error (if t.value?.isSome then e else .malformed)

end SessionKeeper.Json

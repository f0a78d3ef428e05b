import SessionKeeper.Text.Blank
import SessionKeeper.Text.EscapedTable

/-! # Quoted text for inspection

The form in which a text is shown inside a record when the record itself is shown: in double quotes,
with short escapes for the quote, the backslash, tab, line feed, carriage return and NUL, and with the
code point in braces for every other character that has no printed form of its own. A single quote
stands as it is. -/

namespace SessionKeeper.Text

/-- The lower-case hexadecimal digits of a number, without leading zeros. -/
def hexDigits (n : Nat) : List Char := Nat.toDigits 16 n

/-- The written form of one character between quotes. -/
def quoteChar (c : Char) : List Char :=
  match c with
  | '"' => ['\\', '"']
  | '\\' => ['\\', '\\']
  | '\n' => ['\\', 'n']
  | '\r' => ['\\', 'r']
  | '\t' => ['\\', 't']
  | '\x00' => ['\\', '0']
  | c =>
    if inRanges escapedRanges c.toNat then
      '\\' :: 'u' :: '\x7b' :: (hexDigits c.toNat ++ ['\x7d'])
    else [c]

/-- The text in double quotes, with everything unprintable escaped. -/
def quoted (s : String) : String :=
  String.ofList ('"' :: (s.toList.flatMap quoteChar ++ ['"']))

/-- A record as its name and its fields, each field already in its shown form. -/
def inspectRecord (name : String) (fields : List (String × String)) : String :=
  name ++ " \x7b " ++ ", ".intercalate (fields.map fun f => f.1 ++ ": " ++ f.2) ++ " \x7d"

/-- What stands in place of a secret. -/
def redacted : String := quoted "[REDACTED]"

end SessionKeeper.Text

import SessionKeeper.Json.Value

/-! # Writing JSON

The compact form, without white space. A text escapes the quote, the backslash and the control
characters below the space, by a single letter where one exists; everything else stands as it is. -/

namespace SessionKeeper.Json

/-- A lower-case hexadecimal digit. -/
def hexChar (n : Nat) : Char := Nat.digitChar n

/-- The written form of one character of a text. -/
def escapeChar (c : Char) : List Char :=
  match c with
  | '"' => ['\\', '"']
  | '\\' => ['\\', '\\']
  | '\x08' => ['\\', 'b']
  | '\x0c' => ['\\', 'f']
  | '\n' => ['\\', 'n']
  | '\r' => ['\\', 'r']
  | '\t' => ['\\', 't']
  | c =>
    if c.toNat < 0x20 then
      ['\\', 'u', '0', '0', hexChar (c.toNat / 16), hexChar (c.toNat % 16)]
    else [c]

/-- A text between quotes. -/
def textChars (s : String) : List Char := '"' :: (s.toList.flatMap escapeChar ++ ['"'])

/-- An integer in decimal notation. -/
def intChars (n : Int) : List Char :=
  if n < 0 then '-' :: Nat.toDigits 10 n.natAbs else Nat.toDigits 10 n.natAbs

/-- Doubles are positional from `1e-5` up to, and not including, `1e16`. -/
def floatLayout : DecimalLayout := ⟨-5, 15⟩

mutual

/-- The compact form of a value. -/
def chars : Json → List Char
  | .null => ['n', 'u', 'l', 'l']
  | .bool true => ['t', 'r', 'u', 'e']
  | .bool false => ['f', 'a', 'l', 's', 'e']
  | .int n => intChars n
  | .float x => (floatLayout.render x).toList
  | .text s => textChars s
  | .array [] => ['[', ']']
  | .array (x :: xs) => '[' :: (chars x ++ itemChars xs)
  | .object [] => ['\x7b', '\x7d']
  | .object ((k, x) :: ms) => '\x7b' :: (textChars k ++ ':' :: (chars x ++ memberChars ms))

/-- The rest of an array after its first item. -/
def itemChars : List Json → List Char
  | [] => [']']
  | x :: xs => ',' :: (chars x ++ itemChars xs)

/-- The rest of an object after its first member. -/
def memberChars : List (String × Json) → List Char
  | [] => ['\x7d']
  | (k, x) :: ms => ',' :: (textChars k ++ ':' :: (chars x ++ memberChars ms))

end

/-- The compact text of a value. -/
def compact (v : Json) : String := String.ofList v.chars

/-- The compact text of an object whose members stand in the order given. -/
def record (members : List (String × Json)) : String := compact (.object members)

/-- A text-valued dictionary spread over lines, two spaces of indentation, one entry a line. -/
def prettyDictionary (d : Dictionary String) : String :=
  match d.toList with
  | [] => String.ofList ['\x7b', '\x7d']
  | es =>
    let line (e : String × String) : List Char :=
      ' ' :: ' ' :: (textChars e.1 ++ ':' :: ' ' :: textChars e.2)
    String.ofList
      ('\x7b' :: '\n' :: ([',', '\n'].intercalate (es.map line) ++ ['\n', '\x7d']))

end SessionKeeper.Json

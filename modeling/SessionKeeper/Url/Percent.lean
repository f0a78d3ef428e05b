import SessionKeeper.Text.Utf8

/-! # Percent-encoding

The sets of characters that the parts of a URL cannot hold as they are, and the writing of such a
character as its UTF-8 bytes, each as a percent sign and two digits. Control characters and everything
beyond ASCII belong to every set; the percent sign belongs to none, so text that is already encoded
stays as it is. -/

namespace SessionKeeper.Url

/-- An upper-case hexadecimal digit. -/
def hexUpper (n : Nat) : Char := (Nat.digitChar n).toUpper

/-- A byte as a percent sign and two digits. -/
def percentByte (b : UInt8) : List Char := ['%', hexUpper (b.toNat / 16), hexUpper (b.toNat % 16)]

/-- A character as its encoded bytes. -/
def percentChar (c : Char) : List Char :=
  (String.ofList [c]).toUTF8.toList.flatMap percentByte

/-- Characters that belong to every set. -/
def isAlwaysEncoded (c : Char) : Bool := c.toNat < 0x20 || 0x7e < c.toNat

/-- Encodes the characters that belong to the set given by its printable members. -/
def percentEncode (members : List Char) (cs : List Char) : List Char :=
  cs.flatMap fun c => if isAlwaysEncoded c || members.contains c then percentChar c else [c]

/-- Not allowed in a fragment. -/
def fragmentSet : List Char := [' ', '"', '<', '>', '`']

/-- Not allowed in a path. -/
def pathSet : List Char := fragmentSet ++ ['#', '?', '\x7b', '\x7d']

/-- Not allowed in a user name or password. -/
def userinfoSet : List Char := pathSet ++ ['/', ':', ';', '=', '@', '[', '\\', ']', '^', '|']

/-- Not allowed in a query. -/
def querySet : List Char := [' ', '"', '#', '<', '>']

/-- Not allowed in the query of a web address. -/
def specialQuerySet : List Char := querySet ++ ['\'']

/-- The bytes of a text in which escapes stand for bytes; a percent sign without two digits stands for
itself. -/
def percentDecode : List Char → List UInt8
  | [] => []
  | '%' :: a :: b :: cs =>
    match Text.hexValue a, Text.hexValue b with
    | some hi, some lo => UInt8.ofNat (hi * 16 + lo) :: percentDecode cs
    | _, _ => 0x25 :: percentDecode (a :: b :: cs)
  | c :: cs => (String.ofList [c]).toUTF8.toList ++ percentDecode cs

end SessionKeeper.Url

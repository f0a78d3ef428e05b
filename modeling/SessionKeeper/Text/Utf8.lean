/-! # UTF-8

The encoding of characters as bytes and two ways back. Strict reading accepts well-formed text only.
Lenient reading replaces each maximal ill-formed piece by one replacement character: a piece is the
longest beginning of a well-formed sequence, or a single byte if no sequence begins there. -/

namespace SessionKeeper.Text

/-- The character that stands for bytes that are no text. -/
def replacement : Char := '\uFFFD'

/-- A continuation byte. -/
def isTail (b : UInt8) : Bool := 0x80 ≤ b && b ≤ 0xbf

/-- The number of continuation bytes a first byte announces and the range of the first of them;
`none` for a byte that starts no character of more than one byte. -/
def leadRange (b : UInt8) : Option (Nat × UInt8 × UInt8) :=
  if 0xc2 ≤ b && b ≤ 0xdf then some (1, 0x80, 0xbf)
  else if b == 0xe0 then some (2, 0xa0, 0xbf)
  else if b == 0xed then some (2, 0x80, 0x9f)
  else if 0xe1 ≤ b && b ≤ 0xef then some (2, 0x80, 0xbf)
  else if b == 0xf0 then some (3, 0x90, 0xbf)
  else if 0xf1 ≤ b && b ≤ 0xf3 then some (3, 0x80, 0xbf)
  else if b == 0xf4 then some (3, 0x80, 0x8f)
  else none

/-- The payload of the first byte of a sequence with `k` continuation bytes. -/
def leadBits (k : Nat) (b : UInt8) : Nat :=
  b.toNat % (match k with | 1 => 0x20 | 2 => 0x10 | _ => 0x08)

/-- What is missing from the character being read: the number of continuation bytes still expected,
the bounds of the next one, and the bits read so far. -/
structure Pending where
  missing : Nat
  low : UInt8
  high : UInt8
  bits : Nat

/-- Starts a character at a byte: a whole character, the beginning of one, or neither. -/
def startByte (b : UInt8) : Sum Char Pending :=
  if b < 0x80 then .inl (Char.ofNat b.toNat)
  else match leadRange b with
    | some (k, lo, hi) => .inr ⟨k, lo, hi, leadBits k b⟩
    | none => .inl replacement

/-- The characters of the bytes, ill-formed pieces replaced; `p` is the character begun before. -/
def lenientFrom : Option Pending → List UInt8 → List Char
  | none, [] => []
  | some _, [] => [replacement]
  | none, b :: bs =>
    match startByte b with
    | .inl c => c :: lenientFrom none bs
    | .inr p => lenientFrom (some p) bs
  | some p, b :: bs =>
    if p.low ≤ b && b ≤ p.high then
      let bits := p.bits * 0x40 + b.toNat % 0x40
      if p.missing ≤ 1 then Char.ofNat bits :: lenientFrom none bs
      else lenientFrom (some ⟨p.missing - 1, 0x80, 0xbf, bits⟩) bs
    else replacement :: match startByte b with
      | .inl c => c :: lenientFrom none bs
      | .inr p => lenientFrom (some p) bs

/-- The text of the bytes, each maximal ill-formed piece replaced by one replacement character. -/
def lenient (bytes : ByteArray) : String := String.ofList (lenientFrom none bytes.toList)

/-- The text of the bytes, a byte order mark at the start left out and ill-formed pieces replaced. -/
def lenientWithoutMark (bytes : ByteArray) : String :=
  match lenientFrom none bytes.toList with
  | '\uFEFF' :: cs => String.ofList cs
  | cs => String.ofList cs

/-- The two digits of a byte written in hexadecimal. -/
def hexValue (c : Char) : Option Nat :=
  if '0' ≤ c && c ≤ '9' then some (c.toNat - '0'.toNat)
  else if 'a' ≤ c && c ≤ 'f' then some (c.toNat - 'a'.toNat + 10)
  else if 'A' ≤ c && c ≤ 'F' then some (c.toNat - 'A'.toNat + 10)
  else none

/-- The bytes of a text of hexadecimal digit pairs, `none` if it is none. -/
def bytesOfHex : List Char → Option (List UInt8)
  | [] => some []
  | a :: b :: cs => do
    let hi ← hexValue a
    let lo ← hexValue b
    return UInt8.ofNat (hi * 16 + lo) :: (← bytesOfHex cs)
  | [_] => none

end SessionKeeper.Text

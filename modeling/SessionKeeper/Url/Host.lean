import SessionKeeper.Url.Domain

/-! # Hosts

The machine that a URL names: a domain, an address of four bytes or one of eight pieces. A domain whose
last label looks like a number is an address or an error. Addresses of four bytes may be written with
fewer than four parts, the last one filling up, and each part in base 8, 10 or 16. -/

namespace SessionKeeper.Url

/-- Why a text is no URL. -/
inductive UrlError where
  | relative
  | emptyHost
  | invalidPort
  | invalidIpv4
  | invalidIpv6
  | invalidDomain
  | invalidCharacter
deriving DecidableEq

/-- The text of a URL error. -/
def UrlError.message : UrlError → String
  | .relative => "relative URL without a base"
  | .emptyHost => "empty host"
  | .invalidPort => "invalid port number"
  | .invalidIpv4 => "invalid IPv4 address"
  | .invalidIpv6 => "invalid IPv6 address"
  | .invalidDomain => "invalid international domain name"
  | .invalidCharacter => "invalid domain character"

/-- The host of a URL. -/
inductive Host where
  | domain (name : List Char)
  | ipv4 (address : Nat)
  | ipv6 (pieces : List Nat)
deriving DecidableEq

/-! ## Addresses of four bytes -/

/-- The parts of a text between the separators. -/
def splitOn (sep : Char) : List Char → List (List Char)
  | [] => [[]]
  | c :: cs =>
    if c = sep then [] :: splitOn sep cs
    else match splitOn sep cs with
      | [] => [[c]]
      | p :: ps => (c :: p) :: ps

/-- The number that digits of a base denote, if they are such digits. -/
def digitsIn (base : Nat) (cs : List Char) : Option Nat :=
  cs.foldl
    (fun n c => do
      let n ← n
      let d ← Text.hexValue c
      if d < base then return n * base + d else none)
    (some 0)

/-- One part of an address: base 16 after `0x`, base 8 after another zero, else base 10. -/
def ipv4Part? : List Char → Option Nat
  | [] => none
  | '0' :: 'x' :: cs => digitsIn 16 cs
  | '0' :: 'X' :: cs => digitsIn 16 cs
  | '0' :: c :: cs => digitsIn 8 (c :: cs)
  | cs => digitsIn 10 cs

/-- The last label, one empty label at the end left aside, is a number of digits or a part of an
address. -/
def endsInNumber (domain : List Char) : Bool :=
  let last? := match (splitOn '.' domain).reverse with
    | [] :: p :: _ => some p
    | [[]] => none
    | p :: _ => some p
    | [] => none
  match last? with
  | none => false
  | some p => (!p.isEmpty && p.all (fun c => '0' ≤ c && c ≤ '9')) || (ipv4Part? p).isSome

/-- The address that the parts make: every part but the last is a byte, the last fills the rest. -/
def ipv4OfParts (parts : List Nat) : Option Nat :=
  match parts.reverse with
  | [] => none
  | last :: front =>
    let front := front.reverse
    if parts.length ≤ 4 && front.all (· ≤ 255) && last < Nat.pow 256 (5 - parts.length) then
      some (front.zipIdx.foldl (fun n (b, i) => n + b * Nat.pow 256 (3 - i)) last)
    else none

/-- The address that a domain ending in a number must be. -/
def parseIpv4 (domain : List Char) : Except UrlError Host :=
  let parts := match (splitOn '.' domain).reverse with
    | [] :: ps => ps.reverse
    | ps => ps.reverse
  match (parts.mapM ipv4Part?).bind ipv4OfParts with
  | some n => .ok (.ipv4 n)
  | none => .error .invalidIpv4

/-- Four bytes in decimal, separated by points. -/
def ipv4Chars (n : Nat) : List Char :=
  ['.'].intercalate ([n / 0x1000000, n / 0x10000 % 0x100, n / 0x100 % 0x100, n % 0x100].map
    (Nat.toDigits 10 ·))

/-! ## Addresses of eight pieces -/

/-- Up to four hexadecimal digits. -/
def ipv6Piece? (cs : List Char) : Option Nat :=
  if cs.isEmpty || 4 < cs.length then none else digitsIn 16 cs

/-- A byte in decimal without leading zeros. -/
def byte? (cs : List Char) : Option Nat :=
  if cs.isEmpty || 3 < cs.length || (cs.head? == some '0' && cs.length ≠ 1) then none
  else (digitsIn 10 cs).bind fun n => if n ≤ 255 then some n else none

/-- The pieces of one side of the gap; the last of the whole address may be four bytes. -/
def ipv6Side? (mayEndInBytes : Bool) (cs : List Char) : Option (List Nat) :=
  if cs.isEmpty then some []
  else
    let parts := splitOn ':' cs
    match parts.reverse with
    | last :: front =>
      if mayEndInBytes && last.contains '.' then do
        let bytes ← (splitOn '.' last).mapM byte?
        let front ← front.reverse.mapM ipv6Piece?
        match bytes with
        | [a, b, c, d] => return front ++ [a * 256 + b, c * 256 + d]
        | _ => none
      else parts.mapM ipv6Piece?
    | [] => none

/-- Splits at the first pair of colons. -/
def splitGap : List Char → Option (List Char × List Char)
  | [] => none
  | ':' :: ':' :: cs => some ([], cs)
  | c :: cs => (splitGap cs).map fun (a, b) => (c :: a, b)

/-- Eight pieces, or fewer around one gap that stands for at least one zero piece. -/
def ipv6Pieces? (cs : List Char) : Option (List Nat) :=
  match splitGap cs with
  | none => do
    let ps ← ipv6Side? true cs
    if ps.length = 8 then return ps else none
  | some (a, b) => do
    let xs ← ipv6Side? false a
    let ys ← ipv6Side? true b
    if xs.length + ys.length < 8 then
      return xs ++ List.replicate (8 - xs.length - ys.length) 0 ++ ys
    else none

/-- The length of the run of zeros at the start. -/
def zeroRun (ps : List Nat) : Nat := (ps.takeWhile (· == 0)).length

/-- The start and length of the first longest run of at least two zeros. -/
def longestGap (i : Nat) : List Nat → Option (Nat × Nat)
  | [] => none
  | p :: ps =>
    let here := zeroRun (p :: ps)
    match longestGap (i + 1) ps with
    | some (j, n) => if n ≤ here then some (i, here) else some (j, n)
    | none => if 2 ≤ here then some (i, here) else none

/-- Pieces in hexadecimal, separated by colons. -/
def piecesChars (ps : List Nat) : List Char := [':'].intercalate (ps.map (Nat.toDigits 16 ·))

/-- The address with its longest gap left out. -/
def ipv6Chars (ps : List Nat) : List Char :=
  match longestGap 0 ps with
  | some (i, n) => piecesChars (ps.take i) ++ ':' :: ':' :: piecesChars (ps.drop (i + n))
  | none => piecesChars ps

/-! ## Hosts -/

/-- The host between brackets, or the domain, of a web address. -/
def Host.parse (cs : List Char) : Except UrlError Host :=
  match cs with
  | '[' :: r =>
    match r.reverse with
    | ']' :: inner =>
      match ipv6Pieces? inner.reverse with
      | some ps => .ok (.ipv6 ps)
      | none => .error .invalidIpv6
    | _ => .error .invalidIpv6
  | _ =>
    match domainToAscii? (Text.lenientFrom none (percentDecode cs)) with
    | none => .error .invalidDomain
    | some [] => .error .emptyHost
    | some d => if endsInNumber d then parseIpv4 d else .ok (.domain d)

/-- Characters that no host of another scheme contains. -/
def forbiddenHostChars : List Char :=
  ['\x00', '\t', '\n', '\r', ' ', '#', '/', ':', '<', '>', '?', '@', '[', '\\', ']', '^', '|']

/-- The host of an address of another scheme: between brackets, or any text without those
characters. -/
def Host.parseOther (cs : List Char) : Except UrlError Host :=
  match cs with
  | '[' :: _ => Host.parse cs
  | _ =>
    if cs.any forbiddenHostChars.contains then .error .invalidCharacter
    else .ok (.domain (percentEncode [] cs))

/-- The text of the host. -/
def Host.chars : Host → List Char
  | .domain d => d
  | .ipv4 n => ipv4Chars n
  | .ipv6 ps => '[' :: (ipv6Chars ps ++ [']'])

end SessionKeeper.Url

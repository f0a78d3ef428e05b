import SessionKeeper.Text.Case
import SessionKeeper.Url.ExcludedTable
import SessionKeeper.Url.Percent
import SessionKeeper.Url.Punycode

/-! # Domain names

The ASCII form of a domain name: letters in lower case, characters that leave no trace dropped, the
ideographic full stops read as points, and every label that is not ASCII then written in punycode behind
a prefix. A label that comes with the prefix has to be the form of some label. -/

namespace SessionKeeper.Url

/-- What marks a label as punycode. -/
def acePrefix : List Char := ['x', 'n', '-', '-']

/-- Printable characters that no domain contains. -/
def forbiddenDomainChars : List Char :=
  ['%', ' ', '#', '/', ':', '<', '>', '?', '@', '[', '\\', ']', '^', '|']

/-- No domain contains the character. -/
def isForbiddenInDomain (c : Char) : Bool :=
  c.toNat < 0x20 || c.toNat = 0x7f || forbiddenDomainChars.contains c ||
    (0x80 ≤ c.toNat && (Text.isBlank c || Text.inRanges excludedRanges c.toNat))

/-- Characters that a domain name is written without. -/
def invisibleRanges : List (Nat × Nat) := [
  (0xad, 0xad), (0x34f, 0x34f), (0x115f, 0x1160), (0x17b4, 0x17b5), (0x180b, 0x180f),
  (0x200b, 0x200b), (0x2060, 0x2064), (0x206a, 0x206f), (0x3164, 0x3164), (0xfe00, 0xfe0f),
  (0xfeff, 0xfeff), (0xffa0, 0xffa0), (0x1bca0, 0x1bca3), (0x1d173, 0x1d17a), (0xe0100, 0xe01ef)]

/-- The form of a character inside a domain name. -/
def domainChar (c : Char) : List Char :=
  if Text.inRanges invisibleRanges c.toNat then []
  else if c.toNat = 0x3002 || c.toNat = 0xff0e || c.toNat = 0xff61 then ['.']
  else if 0xff01 ≤ c.toNat && c.toNat ≤ 0xff5e then Text.lowerChar (Char.ofNat (c.toNat - 0xfee0))
  else Text.lowerChar c

/-- The parts between the points. -/
def labels : List Char → List (List Char)
  | [] => [[]]
  | '.' :: cs => [] :: labels cs
  | c :: cs =>
    match labels cs with
    | [] => [[c]]
    | p :: ps => (c :: p) :: ps

/-- The ASCII form of a label. -/
def labelToAscii? (label : List Char) : Option (List Char) :=
  if acePrefix.isPrefixOf label then
    match Punycode.decode? (label.drop acePrefix.length) with
    | some cs =>
      if !cs.all (·.toNat < 0x80) && cs.flatMap domainChar == cs && !cs.any isForbiddenInDomain then
        some label
      else none
    | none => none
  else if label.all (·.toNat < 0x80) then some label
  else some (acePrefix ++ Punycode.encode label)

/-- The ASCII form of a domain name. -/
def domainToAscii? (domain : List Char) : Option (List Char) := do
  let mapped := domain.flatMap domainChar
  if mapped.any isForbiddenInDomain then none
  else return ['.'].intercalate (← (labels mapped).mapM labelToAscii?)

end SessionKeeper.Url

import SessionKeeper.Text.Blank
import SessionKeeper.Text.CaseTable

/-! # Case mapping

The full, language-independent case mappings: a character may become several (the sharp s becomes two
letters in upper case), and a capital sigma becomes the final form of the small sigma where it ends a
word, that is, where a cased letter stands before it and none after it, characters that casing ignores
left aside. -/

namespace SessionKeeper.Text

/-- The image of the code point under the runs; a code point in no run stays as it is. -/
def shifted (runs : List Run) (n : Nat) : Nat :=
  match runs.find? fun r => r.first ≤ n && n ≤ r.last && (n - r.first) % r.stride == 0 with
  | some r => (n + r.shift).toNat
  | none => n

/-- The image of a character, listed expansions first. -/
def mapped (expansions : List (Nat × List Nat)) (runs : List Run) (c : Char) : List Char :=
  match expansions.lookup c.toNat with
  | some cs => cs.map Char.ofNat
  | none => [Char.ofNat (shifted runs c.toNat)]

/-- The full lower-case mapping of one character, sigma taken as non-final. -/
def lowerChar (c : Char) : List Char := mapped lowerExpansions lowerRuns c

/-- The full upper-case mapping of one character. -/
def upperChar (c : Char) : List Char := mapped upperExpansions upperRuns c

/-- A cased character comes first once the characters that casing ignores are skipped. -/
def meetsCased (cs : List Char) : Bool :=
  match cs.dropWhile fun c => inRanges caseIgnorableRanges c.toNat with
  | c :: _ => inRanges casedRanges c.toNat
  | [] => false

/-- The lower-case text; `before` holds the characters already passed, last one first. -/
def lowerFrom (before : List Char) : List Char → List Char
  | [] => []
  | c :: cs =>
    (if c = 'Σ' then
      [if meetsCased before && !meetsCased cs then 'ς' else 'σ']
    else lowerChar c) ++ lowerFrom (c :: before) cs

/-- The text in lower case. -/
def toLower (s : String) : String := String.ofList (lowerFrom [] s.toList)

/-- The text in upper case. -/
def toUpper (s : String) : String := String.ofList (s.toList.flatMap upperChar)

example : toLower "ΑΣ Σ STRASSEẞ" = "ας σ strasseß" := by decide +kernel
example : toUpper "straße ﬁ ŉ" = "STRASSE FI ʼN" := by decide +kernel

end SessionKeeper.Text

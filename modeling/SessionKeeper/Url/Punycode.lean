import SessionKeeper.Text.Utf8

/-! # Punycode

The writing of a label of a domain name in ASCII: its ASCII characters, a hyphen, and the other
characters in ascending order as distances from one to the next, each distance in a base-36 notation of
variable length whose thresholds adapt to the distances seen. -/

namespace SessionKeeper.Url.Punycode

/-- The digit of a value below 36: letters, then decimal digits. -/
def digit (n : Nat) : Char :=
  if n < 26 then Char.ofNat (0x61 + n) else Char.ofNat (0x30 + (n - 26))

/-- The value of a digit. -/
def digitValue? (c : Char) : Option Nat :=
  if 'a' ≤ c && c ≤ 'z' then some (c.toNat - 0x61)
  else if 'A' ≤ c && c ≤ 'Z' then some (c.toNat - 0x41)
  else if '0' ≤ c && c ≤ '9' then some (c.toNat - 0x30 + 26)
  else none

/-- The threshold of the digit at place `k`. -/
def threshold (k bias : Nat) : Nat := max 1 (min 26 (k - bias))

/-- Divides by 35 while the distance is large; counts the places. -/
def spread (delta k : Nat) : Nat × Nat :=
  if 455 < delta then spread (delta / 35) (k + 36) else (delta, k)
termination_by delta

/-- The bias after a distance, `count` characters being placed by then. -/
def adapt (delta count : Nat) (first : Bool) : Nat :=
  let delta := if first then delta / 700 else delta / 2
  let (delta, k) := spread (delta + delta / count) 0
  k + 36 * delta / (delta + 38)

/-- A distance as digits, from place `k` on. -/
def encodeDistance (bias k q : Nat) : List Char :=
  let t := threshold k bias
  if q < t then [digit q]
  else digit (t + (q - t) % (36 - t)) :: encodeDistance bias (k + 36) ((q - t) / (36 - t))
termination_by q
decreasing_by
  have : 1 ≤ threshold k bias := Nat.le_max_left ..
  exact Nat.lt_of_le_of_lt (Nat.div_le_self ..) (by omega)

/-- The state of the encoder. -/
structure Encoder where
  delta : Nat
  bias : Nat
  placed : Nat
  out : List Char

/-- One pass over the label for the character `m`, of `basic` ASCII characters. -/
def encodePass (basic m : Nat) (label : List Char) (e : Encoder) : Encoder :=
  label.foldl
    (fun e c =>
      if c.toNat < m then { e with delta := e.delta + 1 }
      else if c.toNat = m then
        { delta := 0, bias := adapt e.delta (e.placed + 1) (e.placed = basic),
          placed := e.placed + 1, out := e.out ++ encodeDistance e.bias 36 e.delta }
      else e)
    e

/-- Numbers in ascending order, each once. -/
def insertNat (n : Nat) : List Nat → List Nat
  | [] => [n]
  | m :: ms => if n < m then n :: m :: ms else if n = m then m :: ms else m :: insertNat n ms

/-- The label in ASCII, without the prefix that marks it. -/
def encode (label : List Char) : List Char :=
  let basic := label.filter (·.toNat < 0x80)
  let others := (label.filter (0x80 ≤ ·.toNat)).foldl (fun ns c => insertNat c.toNat ns) []
  let start : Encoder :=
    ⟨0, 72, basic.length, if basic.isEmpty then [] else basic ++ ['-']⟩
  let step (s : Encoder × Nat) (m : Nat) : Encoder × Nat :=
    let e := { s.1 with delta := s.1.delta + (m - s.2) * (s.1.placed + 1) }
    let e := encodePass basic.length m label e
    ({ e with delta := e.delta + 1 }, m + 1)
  (others.foldl step (start, 0x80)).1.out

/-- A distance read from digits at place `k` with weight `w`, added to `i`. -/
def decodeDistance (bias : Nat) : (k w i : Nat) → List Char → Option (Nat × List Char)
  | _, _, _, [] => none
  | k, w, i, c :: cs => do
    let d ← digitValue? c
    let t := threshold k bias
    if d < t then return (i + d * w, cs)
    else decodeDistance bias (k + 36) (w * (36 - t)) (i + d * w) cs

/-- The largest code point. -/
def maxCode : Nat := 0x10ffff

/-- Places the characters that the digits describe; each distance uses up fuel. -/
def decodeInto : Nat → (n i bias : Nat) → List Char → List Char → Option (List Char)
  | _, _, _, _, out, [] => some out
  | 0, _, _, _, _, _ => none
  | fuel + 1, n, i, bias, out, cs => do
    let (j, rest) ← decodeDistance bias 36 1 i cs
    let count := out.length + 1
    let m := n + j / count
    let place := j % count
    if maxCode < m || (0xd800 ≤ m && m ≤ 0xdfff) then none
    else
      decodeInto fuel m (place + 1) (adapt (j - i) count (i = 0))
        (out.take place ++ Char.ofNat m :: out.drop place) rest

/-- The label of an ASCII form without its prefix. -/
def decode? (cs : List Char) : Option (List Char) :=
  let (basic, rest) := match cs.reverse.dropWhile (· != '-') with
    | [] => ([], cs)
    | _ :: before => (before.reverse, (cs.reverse.takeWhile (· != '-')).reverse)
  if basic.all (·.toNat < 0x80) then decodeInto rest.length 0x80 0 72 basic rest else none

end SessionKeeper.Url.Punycode

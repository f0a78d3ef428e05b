import SessionKeeper.Decimal.Shortest

/-! # The syntax of JSON texts

`Tree` is what a JSON text says before anything is decided about it: numerals keep their digits, an
object keeps its members in order and with repetitions, and a text that contains an escape for half of a
surrogate pair is present without a value, since no character sequence could be its value. `Tree.read?`
accepts exactly the texts of the JSON grammar, to any depth; what a reader wants beyond that (a bound on
the depth, finite numbers, proper texts) is a property of the tree. -/

namespace SessionKeeper.Json

/-- The parts of a number as written. -/
structure Numeral where
  negative : Bool
  /-- The digits before the point. -/
  whole : List Char
  /-- The digits after the point, if there is one. -/
  fraction : Option (List Char)
  /-- The sign and the digits of the exponent, if there is one. -/
  power : Option (Bool × List Char)
deriving DecidableEq

/-- The syntax tree of a JSON text. A `none` among texts and keys is an ill-formed one. -/
inductive Tree where
  | null
  | bool (b : Bool)
  | number (n : Numeral)
  | text (s : Option String)
  | array (items : List Tree)
  | object (members : List (Option String × Tree))

/-! ## Characters -/

/-- The white space of the JSON grammar. -/
def isSpace (c : Char) : Bool := c == ' ' || c == '\t' || c == '\n' || c == '\r'

/-- The characters from the first one on that is not white space. -/
def skipSpace (cs : List Char) : List Char := cs.dropWhile isSpace

/-- A decimal digit. -/
def isDigit (c : Char) : Bool := '0' ≤ c && c ≤ '9'

/-- The value of a hexadecimal digit. -/
def hexDigit? (c : Char) : Option Nat :=
  if '0' ≤ c && c ≤ '9' then some (c.toNat - 48)
  else if 'a' ≤ c && c ≤ 'f' then some (c.toNat - 87)
  else if 'A' ≤ c && c ≤ 'F' then some (c.toNat - 55)
  else none

/-- The character that a single-letter escape stands for. -/
def escape? : Char → Option Char
  | '"' => some '"'
  | '\\' => some '\\'
  | '/' => some '/'
  | 'b' => some '\x08'
  | 'f' => some '\x0c'
  | 'n' => some '\n'
  | 'r' => some '\r'
  | 't' => some '\t'
  | _ => none

/-! ## Texts -/

/-- A piece of a text: a character, or a 16-bit unit written as an escape. -/
inductive Piece where
  | char (c : Char)
  | unit (n : Nat)
deriving DecidableEq

/-- The pieces up to the closing quote, and what follows it. -/
def pieces : List Char → Option (List Piece × List Char)
  | [] => none
  | '"' :: r => some ([], r)
  | '\\' :: 'u' :: a :: b :: c :: d :: r => do
    let a ← hexDigit? a
    let b ← hexDigit? b
    let c ← hexDigit? c
    let d ← hexDigit? d
    let (ps, t) ← pieces r
    return (.unit (((a * 16 + b) * 16 + c) * 16 + d) :: ps, t)
  | '\\' :: e :: r => do
    let c ← escape? e
    let (ps, t) ← pieces r
    return (.char c :: ps, t)
  | '\\' :: [] => none
  | c :: r =>
    if c.toNat < 0x20 then none
    else do
      let (ps, t) ← pieces r
      return (.char c :: ps, t)

/-- The first half of a surrogate pair. -/
def isHighSurrogate (n : Nat) : Bool := 0xd800 ≤ n && n ≤ 0xdbff

/-- The second half of a surrogate pair. -/
def isLowSurrogate (n : Nat) : Bool := 0xdc00 ≤ n && n ≤ 0xdfff

/-- The characters of the pieces, two halves of a surrogate pair in succession making one character;
`none` if a half stands alone. -/
def joinPieces : List Piece → Option (List Char)
  | [] => some []
  | .char c :: ps => (joinPieces ps).map (c :: ·)
  | .unit n :: .unit m :: ps =>
    if isHighSurrogate n then
      if isLowSurrogate m then
        (joinPieces ps).map
          (Char.ofNat (0x10000 + (n - 0xd800) * 0x400 + (m - 0xdc00)) :: ·)
      else none
    else if isLowSurrogate n then none
    else (joinPieces (.unit m :: ps)).map (Char.ofNat n :: ·)
  | .unit n :: ps =>
    if isHighSurrogate n || isLowSurrogate n then none
    else (joinPieces ps).map (Char.ofNat n :: ·)

/-- A text after its opening quote, and what follows it. -/
def textBody (cs : List Char) : Option (Option String × List Char) :=
  (pieces cs).map fun (ps, r) => ((joinPieces ps).map String.ofList, r)

/-! ## Numbers -/

/-- A run of at least one digit, and what follows it. -/
def digits? (cs : List Char) : Option (List Char × List Char) :=
  match cs.takeWhile isDigit with
  | [] => none
  | ds => some (ds, cs.dropWhile isDigit)

/-- The digits before the point: a single zero, or digits that do not start with a zero. -/
def whole? : List Char → Option (List Char × List Char)
  | '0' :: r => some (['0'], r)
  | cs => digits? cs

/-- The fraction, if one follows; a point without digits is an error. -/
def fraction? : List Char → Option (Option (List Char) × List Char)
  | '.' :: r => (digits? r).map fun (ds, t) => (some ds, t)
  | cs => some (none, cs)

/-- The exponent, if one follows; a mark without digits is an error. -/
def power? : List Char → Option (Option (Bool × List Char) × List Char)
  | c :: r =>
    if c == 'e' || c == 'E' then
      match r with
      | '-' :: r => (digits? r).map fun (ds, t) => (some (true, ds), t)
      | '+' :: r => (digits? r).map fun (ds, t) => (some (false, ds), t)
      | r => (digits? r).map fun (ds, t) => (some (false, ds), t)
    else some (none, c :: r)
  | [] => some (none, [])

/-- A number without its sign. -/
def unsigned? (negative : Bool) (cs : List Char) : Option (Numeral × List Char) := do
  let (whole, r) ← whole? cs
  let (fraction, r) ← fraction? r
  let (power, r) ← power? r
  return (⟨negative, whole, fraction, power⟩, r)

/-- A number, and what follows it. -/
def numeral? : List Char → Option (Numeral × List Char)
  | '-' :: r => unsigned? true r
  | cs => unsigned? false cs

/-! ## Values -/

mutual

/-- A value at the start of the characters, and what follows it. Each level of the grammar uses up one
unit of fuel. -/
def value? : Nat → List Char → Option (Tree × List Char)
  | 0, _ => none
  | fuel + 1, cs =>
    match cs with
    | 'n' :: 'u' :: 'l' :: 'l' :: r => some (.null, r)
    | 't' :: 'r' :: 'u' :: 'e' :: r => some (.bool true, r)
    | 'f' :: 'a' :: 'l' :: 's' :: 'e' :: r => some (.bool false, r)
    | '"' :: r => (textBody r).map fun (s, t) => (.text s, t)
    | '[' :: r =>
      match skipSpace r with
      | ']' :: t => some (.array [], t)
      | r => (items? fuel r).map fun (xs, t) => (.array xs, t)
    | '\x7b' :: r =>
      match skipSpace r with
      | '\x7d' :: t => some (.object [], t)
      | r => (members? fuel r).map fun (ms, t) => (.object ms, t)
    | cs => (numeral? cs).map fun (n, t) => (.number n, t)

/-- At least one value, separated by commas, up to the closing bracket. -/
def items? : Nat → List Char → Option (List Tree × List Char)
  | 0, _ => none
  | fuel + 1, cs =>
    match value? fuel cs with
    | none => none
    | some (v, r) =>
      match skipSpace r with
      | ',' :: r => (items? fuel (skipSpace r)).map fun (vs, t) => (v :: vs, t)
      | ']' :: t => some ([v], t)
      | _ => none

/-- At least one member, separated by commas, up to the closing brace. -/
def members? : Nat → List Char → Option (List (Option String × Tree) × List Char)
  | 0, _ => none
  | fuel + 1, cs =>
    match cs with
    | '"' :: r =>
      match textBody r with
      | none => none
      | some (k, r) =>
        match skipSpace r with
        | ':' :: r =>
          match value? fuel (skipSpace r) with
          | none => none
          | some (v, r) =>
            match skipSpace r with
            | ',' :: r => (members? fuel (skipSpace r)).map fun (ms, t) => ((k, v) :: ms, t)
            | '\x7d' :: t => some ([(k, v)], t)
            | _ => none
        | _ => none
    | _ => none

end

/-- Fuel that no text of that length exhausts: a level either reads a character or hands on to one that
does. -/
def fuelFor (cs : List Char) : Nat := 2 * cs.length + 2

/-- The tree of the characters, if they are one JSON value with white space around it. -/
def Tree.ofChars? (cs : List Char) : Option Tree :=
  match value? (fuelFor cs) (skipSpace cs) with
  | some (v, r) => if (skipSpace r).isEmpty then some v else none
  | none => none

/-- The tree of a JSON text. -/
def Tree.read? (s : String) : Option Tree := Tree.ofChars? s.toList

end SessionKeeper.Json

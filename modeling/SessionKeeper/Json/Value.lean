import SessionKeeper.Dictionary
import SessionKeeper.Json.Tree

/-! # JSON values

`Json` is the value of a JSON text: a number is an integer if it is written as one and fits 64 bits,
signed or not, and otherwise the nearest double; an object has its keys in ascending order, the last of
several members with one key counting. A text has a value if all its texts are well-formed, all its
numbers finite and at most `maxNesting` arrays and objects lie inside one another. -/

namespace SessionKeeper

/-- A JSON value; the members of an object stand in ascending key order. -/
inductive Json where
  | null
  | bool (b : Bool)
  | int (n : Int)
  | float (x : Binary64)
  | text (s : String)
  | array (items : List Json)
  | object (members : List (String × Json))
deriving Inhabited

namespace Json

/-- The depth to which arrays and objects may be nested. -/
def maxNesting : Nat := 127

/-- The number that digits denote. -/
def digitsValue (ds : List Char) : Nat := ds.foldl (fun n c => n * 10 + (c.toNat - 48)) 0

/-- The value of a numeral: an integer, a double, or nothing if it is too large for a double. Minus zero
is a double. -/
def Numeral.value? (n : Numeral) : Option Json :=
  let whole := digitsValue n.whole
  match n.fraction, n.power with
  | none, none =>
    if !n.negative && whole < UInt64.size then some (.int whole)
    else if n.negative && whole ≠ 0 && whole ≤ UInt64.size / 2 then some (.int (-whole))
    else (Binary64.ofDecimal n.negative whole 0).map .float
  | fraction, power =>
    let ds := fraction.getD []
    let e : Int := match power with
      | some (true, es) => -(digitsValue es)
      | some (false, es) => digitsValue es
      | none => 0
    (Binary64.ofDecimal n.negative (digitsValue (n.whole ++ ds)) (e - ds.length)).map .float

mutual

/-- How deep arrays and objects are nested in the tree. -/
def Tree.nesting : Tree → Nat
  | .array xs => nestingItems xs + 1
  | .object ms => nestingMembers ms + 1
  | _ => 0

/-- The deepest nesting among the items. -/
def Tree.nestingItems : List Tree → Nat
  | [] => 0
  | x :: xs => max x.nesting (nestingItems xs)

/-- The deepest nesting among the members. -/
def Tree.nestingMembers : List (Option String × Tree) → Nat
  | [] => 0
  | (_, x) :: ms => max x.nesting (nestingMembers ms)

end

mutual

/-- The value of the tree, whatever its depth. -/
def Tree.evaluate? : Tree → Option Json
  | .null => some .null
  | .bool b => some (.bool b)
  | .number n => n.value?
  | .text s => s.map .text
  | .array xs => (evaluateItems? xs).map .array
  | .object ms => (evaluateMembers? ms).map fun es =>
    .object (es.foldl (fun acc e => insertKey e.1 e.2 acc) [])

/-- The values of the items, if all have one. -/
def Tree.evaluateItems? : List Tree → Option (List Json)
  | [] => some []
  | x :: xs => do return (← x.evaluate?) :: (← evaluateItems? xs)

/-- The members with their values, if all have one. -/
def Tree.evaluateMembers? : List (Option String × Tree) → Option (List (String × Json))
  | [] => some []
  | (k, x) :: ms => do return (← k, ← x.evaluate?) :: (← evaluateMembers? ms)

end

/-- The value of the tree, if it is not nested too deep. -/
def Tree.value? (t : Tree) : Option Json :=
  if t.nesting ≤ maxNesting then t.evaluate? else none

/-- The value of a JSON text. -/
def read? (s : String) : Option Json := (Tree.read? s).bind Tree.value?

/-- The member of that name, if the value is an object with one. -/
def member? : Json → String → Option Json
  | .object ms, k => lookupKey k ms
  | _, _ => none

end Json

end SessionKeeper

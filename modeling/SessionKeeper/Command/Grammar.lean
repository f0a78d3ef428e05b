import SessionKeeper.Dictionary
import SessionKeeper.Text.Case

/-! # Command lines

How a list of words is read by tables of arguments. A level is the program itself or one of its
commands; each has options, flags and positions of its own. Words are taken in order: an option takes
the next word for its value, unless that looks like an option, and what it was given is read when the
next argument is met, or at the end. After the words come the environment and the defaults, for what the
words left open.

A command is read in full, its environment and its defaults included, before anything of the program's
own level that was left to the end. Arguments that are common to all levels are merged afterwards: the
command's own value counts, unless the program's comes from a better source. -/

namespace SessionKeeper.Command

/-- Why words are refused, or answered at once. -/
inductive Refusal where
  | help
  | version
  /-- There is nothing but the name of the program: it explains itself. -/
  | helpInstead
  | unknownCommand
  | missingCommand
  | missingArgument
  | unknownArgument
  | repeatedArgument
  /-- An option has no value, or one that is none of its choices. -/
  | missingValue
  | unknownChoice
  /-- A value cannot be read. -/
  | malformedValue
  /-- A flag was given a value. -/
  | needlessValue
deriving DecidableEq

/-- What is read from a value. -/
inductive Value where
  | text (s : String)
  | number (n : Nat)
  | on
deriving DecidableEq

/-- How a value is read. -/
inductive Reading where
  | text
  /-- A number below 2^64. -/
  | number
  | choice (names : List String)
  /-- A level of detail: a number up to `maxLevel` or a name. -/
  | level

/-- What an argument does. -/
inductive Kind where
  /-- Takes a value. -/
  | value (r : Reading)
  | switch
  /-- Counts how often it is given, as a level of detail. -/
  | count
  | help
  | version

/-- An argument: with a short or a long name it is an option or a flag, without either a position. -/
structure Argument where
  name : String
  short : Option Char
  long : Option String
  kind : Kind
  /-- The variable of the environment that stands in for the argument. -/
  envVar : Option String
  default : Option String
  required : Bool

namespace Argument

/-- The argument takes a value. -/
def takesValue (a : Argument) : Bool :=
  match a.kind with
  | .value _ => true
  | _ => false

/-- The argument is given by its place alone. -/
def isPosition (a : Argument) : Bool := a.short.isNone && a.long.isNone

end Argument

/-- The largest level of detail. -/
def maxLevel : Nat := 5

/-- The names of levels of detail. -/
def levelNames : List (String × Nat) :=
  [("error", 0), ("warn", 1), ("info", 2), ("debug", 3), ("trace", 4)]

/-- The number of a text of decimal digits, perhaps after a plus sign. -/
def natural? (s : String) : Option Nat :=
  let ds := match s.toList with
    | '+' :: ds => ds
    | ds => ds
  if !ds.isEmpty && ds.all (fun c => '0' ≤ c && c ≤ '9') then
    some (ds.foldl (fun n c => n * 10 + (c.toNat - 48)) 0)
  else none

/-- The level of detail of a text. -/
def level? (s : String) : Option Nat :=
  match (natural? s).filter (· ≤ maxLevel) with
  | some n => some n
  | none => lookupKey (Text.toLower s) levelNames

/-- Reads a value. -/
def Reading.read (r : Reading) (s : String) : Except Refusal Value :=
  match r with
  | .text => .ok (.text s)
  | .number =>
    match (natural? s).filter (· < UInt64.size) with
    | some n => .ok (.number n)
    | none => .error .malformedValue
  | .choice names => if names.contains s then .ok (.text s) else .error .unknownChoice
  | .level =>
    match level? s with
    | some n => .ok (.number n)
    | none => .error .malformedValue

/-- Reads a value that stands in the environment or is a default. -/
def Kind.read (k : Kind) (s : String) : Except Refusal Value :=
  match k with
  | .value r => r.read s
  | .count => Reading.level.read s
  | .switch | .help | .version => .ok .on

/-- Where a value comes from. -/
inductive Source where
  | default
  | environment
  | words
deriving DecidableEq

/-- A better source counts before a worse one. -/
def Source.rank : Source → Nat
  | .default => 0
  | .environment => 1
  | .words => 2

/-- A value and where it comes from. -/
structure Matched where
  source : Source
  value : Value
deriving DecidableEq

/-- The arguments of a level, and the names of the commands below it. -/
structure Table where
  arguments : List Argument
  commands : List String

namespace Table

/-- The command that explains the others. -/
def helpCommand : String := "help"

/-- The argument of a long name. -/
def long? (t : Table) (name : String) : Option Argument :=
  t.arguments.find? (·.long == some name)

/-- The argument of a short name. -/
def short? (t : Table) (c : Char) : Option Argument := t.arguments.find? (·.short == some c)

/-- The argument of a place. -/
def position? (t : Table) (i : Nat) : Option Argument :=
  (t.arguments.filter Argument.isPosition)[i]?

/-- The word names a command. -/
def isCommand (t : Table) (w : String) : Bool :=
  !t.commands.isEmpty && (t.commands.contains w || w == helpCommand)

end Table

/-- How far the words of a level have been read. -/
structure Progress where
  matched : Dictionary Matched
  /-- The argument met last whose value is not read yet, with that value if it was given. -/
  pending : Option (Argument × Option String)
  /-- How many places were filled. -/
  filled : Nat
  /-- Two dashes were met: no further word is an option. -/
  trailing : Bool

namespace Progress

/-- Nothing was read yet. -/
def start : Progress := ⟨.empty, none, 0, false⟩

/-- An option waits for its value. -/
def isAwaiting (p : Progress) : Bool :=
  match p.pending with
  | some (a, none) => !a.isPosition
  | _ => false

/-- Sets the value of an argument. -/
def set (p : Progress) (a : Argument) (source : Source) (v : Value) : Progress :=
  { p with matched := p.matched.insert a.name ⟨source, v⟩ }

/-- How often a counting argument was given. -/
def count (p : Progress) (a : Argument) : Nat :=
  match p.matched.get? a.name with
  | some ⟨_, .number n⟩ => n
  | _ => 0

/-- An argument takes effect, with the value it was given. -/
def give (p : Progress) (a : Argument) (given : Option String) : Except Refusal Progress :=
  match a.kind, given with
  | .value _, none => .error .missingValue
  | .value r, some s =>
    if p.matched.contains a.name then .error .repeatedArgument
    else (r.read s).map (p.set a .words)
  | .switch, _ =>
    if p.matched.contains a.name then .error .repeatedArgument else .ok (p.set a .words .on)
  | .count, _ =>
    let n := p.count a + 1
    if n ≤ maxLevel then .ok (p.set a .words (.number n)) else .error .malformedValue
  | .help, _ => .error .help
  | .version, _ => .error .version

/-- The argument met last takes effect. -/
def settle (p : Progress) : Except Refusal Progress :=
  match p.pending with
  | none => .ok p
  | some (a, given) => { p with pending := none }.give a given

/-- An option is met: a value that came with it takes effect, else the next word is waited for. -/
def meet (p : Progress) (a : Argument) (attached : Option String) : Except Refusal Progress := do
  let p ← p.settle
  match attached with
  | some s => p.give a (some s)
  | none => return { p with pending := some (a, none) }

/-- Takes a long name, and the value that came with it. -/
def takeLong (p : Progress) (t : Table) (name : String) (attached : Option String) :
    Except Refusal Progress :=
  match t.long? name with
  | none => .error .unknownArgument
  | some a =>
    if a.takesValue then p.meet a attached
    else match attached with
      | some _ => .error .needlessValue
      | none => do (← p.settle).give a none

/-- Takes short names that stand together; the first that takes a value takes the rest for it. -/
def takeShort (p : Progress) (t : Table) : List Char → Except Refusal Progress
  | [] => .ok p
  | c :: cs =>
    match t.short? c with
    | none => .error .unknownArgument
    | some a =>
      if a.takesValue then
        p.meet a (match cs with
          | [] => none
          | '=' :: v => some (String.ofList v)
          | v => some (String.ofList v))
      else do
        let p ← p.settle
        (← p.give a none).takeShort t cs

/-- Takes a word for the next place. -/
def takePosition (p : Progress) (t : Table) (w : String) : Except Refusal Progress :=
  match t.position? p.filled with
  | some a => do
    let p ← p.settle
    return { p with pending := some (a, some w), filled := p.filled + 1 }
  | none =>
    .error (if t.commands.isEmpty || (p.trailing && t.isCommand w) then .unknownArgument
      else .unknownCommand)

/-- Takes a word that is no command and not the two dashes. -/
def takeWord (p : Progress) (t : Table) (w : String) : Except Refusal Progress :=
  match w.toList with
  | '-' :: '-' :: cs =>
    p.takeLong t (String.ofList (cs.takeWhile (· != '=')))
      (match cs.dropWhile (· != '=') with
        | [] => none
        | _ :: v => some (String.ofList v))
  | '-' :: c :: cs => p.takeShort t (c :: cs)
  | _ =>
    match p.pending, p.isAwaiting with
    | some (a, _), true => .ok { p with pending := some (a, some w) }
    | _, _ => p.takePosition t w

/-- Explains the program, or the command that the words name. -/
def explain (t : Table) : List String → Refusal
  | [] => .help
  | [w] => if t.isCommand w then .help else .unknownCommand
  | _ => .unknownCommand

/-- Takes words up to the name of a command. The result tells the command, and the words after it. -/
def takeWords (t : Table) (p : Progress) :
    List String → Except Refusal (Progress × Option (String × List String))
  | [] => .ok (p, none)
  | w :: ws =>
    if p.trailing then do takeWords t (← p.takePosition t w) ws
    else if !p.isAwaiting && t.isCommand w then
      if w = Table.helpCommand then .error (explain t ws) else .ok (p, some (w, ws))
    else if w = "--" then takeWords t { p with trailing := true } ws
    else do takeWords t (← p.takeWord t w) ws

/-- Fills in what has no value yet, each argument by the text that `given` has for it. -/
def fill (p : Progress) (source : Source) (given : Argument → Option String) :
    List Argument → Except Refusal Progress
  | [] => .ok p
  | a :: as =>
    if p.matched.contains a.name then p.fill source given as
    else match given a with
      | none => p.fill source given as
      | some s => do (p.set a source (← a.kind.read s)).fill source given as

/-- The words are over: what is pending takes effect, then the environment and the defaults do. -/
def finish (p : Progress) (t : Table) (env : String → Option String) :
    Except Refusal Progress := do
  let p ← p.settle
  let p ← p.fill .environment (fun a => a.envVar.bind env) t.arguments
  p.fill .default (·.default) t.arguments

end Progress

/-- A value that the words or the environment give. -/
def Matched.isExplicit (m : Matched) : Bool := m.source != .default

/-- A command: its name and its own arguments. -/
structure CommandTable where
  name : String
  arguments : List Argument

/-- A program: the arguments common to all levels, those of its own level alone, those that every
command has as well, and its commands. -/
structure Program where
  common : List Argument
  own : List Argument
  everyCommand : List Argument
  commands : List CommandTable

/-- What a command line says: the command, its values, and the values of the common arguments. -/
structure Invocation where
  command : String
  arguments : Dictionary Matched
  common : Dictionary Matched

namespace Program

/-- The table of the program's own level. -/
def table (g : Program) : Table := ⟨g.common ++ g.own, g.commands.map (·.name)⟩

/-- The table of a command. -/
def tableOf (g : Program) (c : CommandTable) : Table :=
  ⟨c.arguments ++ g.common ++ g.everyCommand, []⟩

/-- The value of a common argument, of the program's level and the command's. -/
def mergeOne (program command : Option Matched) : Option Matched :=
  match program, command with
  | some p, some c => if c.source.rank < p.source.rank then some p else some c
  | some p, none => some p
  | none, c => c

/-- The values of the common arguments. -/
def merge (g : Program) (program command : Dictionary Matched) : Dictionary Matched :=
  .ofList (g.common.filterMap fun a =>
    (mergeOne (program.get? a.name) (command.get? a.name)).map (a.name, ·))

/-- Reads the words of a command; every required argument has a value in the end. -/
def readCommand (g : Program) (env : String → Option String) (c : CommandTable)
    (ws : List String) : Except Refusal (Dictionary Matched) := do
  let t := g.tableOf c
  let (p, _) ← Progress.takeWords t .start ws
  let p ← p.finish t env
  if t.arguments.all fun a => !a.required || p.matched.contains a.name then return p.matched
  else .error .missingArgument

/-- Reads a command line. -/
def read (g : Program) (env : String → Option String) (ws : List String) :
    Except Refusal Invocation := do
  let t := g.table
  let (p, rest) ← Progress.takeWords t .start ws
  match rest.bind fun r => (g.commands.find? (·.name == r.1)).map (·, r.2) with
  | some (c, ws) =>
    let arguments ← g.readCommand env c ws
    let p ← p.finish t env
    return ⟨c.name, arguments, g.merge p.matched arguments⟩
  | none =>
    let p ← p.finish t env
    .error (if p.matched.toList.any (·.2.isExplicit) then .missingCommand else .helpInstead)

end Program

end SessionKeeper.Command

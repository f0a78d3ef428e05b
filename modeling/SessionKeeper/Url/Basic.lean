import SessionKeeper.Url.Host

/-! # URLs

The parts of an absolute URL, read as browsers read them, and the text that the parts make. For a web
address a backslash is a slash, any number of slashes may follow the scheme, and the host is a domain or
an address; tabs and line breaks inside, and control characters and spaces around, the text do not
count. `Url.render` of `Url.parse` is the normal form of an address. -/

namespace SessionKeeper

open Url

/-- The parts of an absolute URL, each in the form in which it is written. -/
structure Url where
  scheme : String
  username : List Char
  password : List Char
  host : Option Host
  port : Option Nat
  path : List Char
  query : Option (List Char)
  fragment : Option (List Char)
deriving DecidableEq

namespace Url

/-- How the part after the scheme is read. -/
inductive Family where
  | web
  | file
  | other
deriving DecidableEq

/-- The family of a scheme and, for web addresses, the port that need not be written. -/
def family (scheme : String) : Family × Option Nat :=
  if scheme = "http" || scheme = "ws" then (.web, some 80)
  else if scheme = "https" || scheme = "wss" then (.web, some 443)
  else if scheme = "ftp" then (.web, some 21)
  else if scheme = "file" then (.file, none)
  else (.other, none)

/-- The characters that count: without control characters and spaces around, and without tabs and line
breaks inside. -/
def relevant (s : String) : List Char :=
  let edge (c : Char) : Bool := c.toNat ≤ 0x20
  (Text.dropTrailing edge (s.toList.dropWhile edge)).filter fun c =>
    c ≠ '\t' && c ≠ '\n' && c ≠ '\r'

/-- An ASCII letter. -/
def isLetter (c : Char) : Bool := ('a' ≤ c && c ≤ 'z') || ('A' ≤ c && c ≤ 'Z')

/-- A character of a scheme. -/
def isSchemeChar (c : Char) : Bool :=
  isLetter c || ('0' ≤ c && c ≤ '9') || c = '+' || c = '-' || c = '.'

/-- The scheme in lower case, and what follows its colon. -/
def splitScheme? (cs : List Char) : Option (String × List Char) :=
  match cs, cs.dropWhile isSchemeChar with
  | c :: _, ':' :: r =>
    if isLetter c then some (String.ofList ((cs.takeWhile isSchemeChar).map Char.toLower), r)
    else none
  | _, _ => none

/-- The family's slashes. -/
def isSlash (f : Family) (c : Char) : Bool := c = '/' || (c = '\\' && f != .other)

/-- A slash, or the start of the query or the fragment. -/
def endsAuthority (f : Family) (c : Char) : Bool := isSlash f c || c = '?' || c = '#'

/-- Splits at the last `@`. -/
def splitUserinfo (cs : List Char) : Option (List Char × List Char) :=
  match cs.reverse.dropWhile (· != '@') with
  | [] => none
  | _ :: before => some (before.reverse, (cs.reverse.takeWhile (· != '@')).reverse)

/-- Splits at the first colon outside brackets. -/
def splitPort (inBrackets : Bool) : List Char → List Char × Option (List Char)
  | [] => ([], none)
  | c :: cs =>
    if c = ':' && !inBrackets then ([], some cs)
    else
      let (h, p) := splitPort (if c = '[' then true else if c = ']' then false else inBrackets) cs
      (c :: h, p)

/-- The largest port. -/
def maxPort : Nat := 65535

/-- The port that the digits name, unless it is the default; a backslash ends the digits in every
family. -/
def parsePort (default : Option Nat) (cs : List Char) : Except UrlError (Option Nat) :=
  let ds := cs.takeWhile (· != '\\')
  match digitsIn 10 ds with
  | none => .error .invalidPort
  | some n =>
    if maxPort < n then .error .invalidPort
    else .ok (if ds.isEmpty || default = some n then none else some n)

/-- The parts of a text separated by slashes. -/
def segments (f : Family) : List Char → List (List Char)
  | [] => [[]]
  | c :: cs =>
    if isSlash f c then [] :: segments f cs
    else match segments f cs with
      | [] => [[c]]
      | p :: ps => (c :: p) :: ps

/-- A dot, written as it is or encoded, at the start. -/
def dropDot? : List Char → Option (List Char)
  | '.' :: cs => some cs
  | '%' :: '2' :: 'e' :: cs => some cs
  | '%' :: '2' :: 'E' :: cs => some cs
  | _ => none

/-- The segment is one dot. -/
def isSingleDot (s : List Char) : Bool := dropDot? s == some []

/-- The segment is two dots. -/
def isDoubleDot (s : List Char) : Bool := ((dropDot? s).bind dropDot?) == some []

/-- Walks the segments; `done` holds those kept so far, the last one first. Two dots take one back, one
dot stays, and either of them at the end leaves an empty segment. -/
def resolve (done : List (List Char)) : List (List Char) → List (List Char)
  | [] => done.reverse
  | s :: rest =>
    if isDoubleDot s then
      resolve (if rest.isEmpty then [] :: done.tail else done.tail) rest
    else if isSingleDot s then resolve (if rest.isEmpty then [] :: done else done) rest
    else resolve (percentEncode pathSet s :: done) rest

/-- The path that the text after the first slash makes. -/
def pathOf (f : Family) (cs : List Char) : List Char :=
  (resolve [] (segments f cs)).flatMap ('/' :: ·)

/-- The path after an authority: a web address always has one. -/
def parsePath (f : Family) (cs : List Char) : List Char :=
  match cs with
  | [] => if f = .other then [] else ['/']
  | c :: r => if isSlash f c then pathOf f r else pathOf f cs

/-- Splits the text into what stands before the query, the query and the fragment. -/
def splitTail (f : Family) (cs : List Char) :
    List Char × Option (List Char) × Option (List Char) :=
  let (front, fragment) := match cs.dropWhile (· != '#') with
    | [] => (cs, none)
    | _ :: r => (cs.takeWhile (· != '#'), some (percentEncode fragmentSet r))
  let (front, query) := match front.dropWhile (· != '?') with
    | [] => (front, none)
    | _ :: r =>
      (front.takeWhile (· != '?'),
        some (percentEncode (if f = .other then querySet else specialQuerySet) r))
  (front, query, fragment)

/-- The address after the slashes that announce a host. -/
def parseAuthority (scheme : String) (f : Family) (default : Option Nat)
    (cs : List Char) : Except UrlError Url := do
  let (front, query, fragment) := splitTail f cs
  let authority := front.takeWhile (!isSlash f ·)
  let rest := front.dropWhile (!isSlash f ·)
  let (userinfo, hostport) := (splitUserinfo authority).getD ([], authority)
  if authority = ['@'] && (!rest.isEmpty || query.isSome || fragment.isSome) then
    .error .emptyHost
  let (hostText, portText) := splitPort false hostport
  if hostText.isEmpty && (f != .other || portText.isSome) then .error .emptyHost
  let host ← if f = .other then Host.parseOther hostText else Host.parse hostText
  let port ← match portText with
    | some p => parsePort default p
    | none => .ok none
  let username := percentEncode userinfoSet (userinfo.takeWhile (· != ':'))
  let password := percentEncode userinfoSet (userinfo.dropWhile (· != ':')).tail
  if hostText.isEmpty && !(username.isEmpty && password.isEmpty) then .error .emptyHost
  return {
    scheme := scheme
    username := username
    password := password
    host := some host
    port := port
    path := parsePath f rest
    query := query
    fragment := fragment }

/-- A file address after its scheme: a host only between two slashes and a third. -/
def parseFile (cs : List Char) : Except UrlError Url := do
  let (front, query, fragment) := splitTail .file cs
  let (hostText, rest) := match front with
    | a :: b :: r =>
      if isSlash .file a && isSlash .file b then
        (r.takeWhile (!isSlash .file ·), r.dropWhile (!isSlash .file ·))
      else ([], front)
    | _ => ([], front)
  let host ← if hostText.isEmpty then .ok (Host.domain []) else Host.parse hostText
  return {
    scheme := "file"
    username := []
    password := []
    host := some (if host = .domain "localhost".toList then .domain [] else host)
    port := none
    path := parsePath .file rest
    query := query
    fragment := fragment }

/-- An address of another scheme after its scheme: with a host after two slashes, else a path. -/
def parseOther (scheme : String) (cs : List Char) : Except UrlError Url :=
  match cs with
  | '/' :: '/' :: r => parseAuthority scheme .other none r
  | _ =>
    let (front, query, fragment) := splitTail .other cs
    let path := match front with
      | '/' :: r => pathOf .other r
      | cs => percentEncode [] cs
    .ok {
      scheme := scheme
      username := []
      password := []
      host := none
      port := none
      path := path
      query := query
      fragment := fragment }

/-- Reads an absolute URL. -/
def parse (s : String) : Except UrlError Url :=
  match splitScheme? (relevant s) with
  | none => .error .relative
  | some (scheme, cs) =>
    match family scheme with
    | (.web, default) => parseAuthority scheme .web default (cs.dropWhile (isSlash .web))
    | (.file, _) => parseFile cs
    | (.other, _) => parseOther scheme cs

/-- The URL names a machine. -/
def hasHost (u : Url) : Bool :=
  match u.host with
  | some (.domain []) | none => false
  | some _ => true

/-- The user name and password before the host. -/
def userinfoChars (u : Url) : List Char :=
  if u.username.isEmpty && u.password.isEmpty then []
  else u.username ++ (if u.password.isEmpty then [] else ':' :: u.password) ++ ['@']

/-- The characters of the URL. -/
def chars (u : Url) : List Char :=
  let authority := match u.host with
    | some h =>
      '/' :: '/' :: (userinfoChars u ++ h.chars ++
        match u.port with
        | some p => ':' :: Nat.toDigits 10 p
        | none => [])
    | none => []
  let marked (mark : Char) : Option (List Char) → List Char
    | some cs => mark :: cs
    | none => []
  u.scheme.toList ++ ':' :: (authority ++ u.path ++ marked '?' u.query ++ marked '#' u.fragment)

/-- The text of the URL. -/
def render (u : Url) : String := String.ofList u.chars

/-- The URL without user name and password. -/
def withoutUserinfo (u : Url) : Url := { u with username := [], password := [] }

end Url

end SessionKeeper

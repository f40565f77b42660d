import TelemetryRelay.Url.Form
import TelemetryRelay.Url.Host

/-!
Absolute `http` and `https` URLs. Reading takes the lenient spellings that browsers take and gives
the parts in the one form in which they are written. A text with another scheme is not read, but
what is wrong with its host or port is found before its scheme.
-/

namespace TelemetryRelay

inductive Url.Scheme
  | http
  | https
deriving DecidableEq, Repr

/-- All parts are held as they are written. The path is the list of its segments, the query and the
fragment are without their marks. -/
structure Url where
  scheme : Url.Scheme
  userInfo : List Char
  host : List Char
  port : Option Nat
  path : List (List Char)
  query : Option (List Char)
  fragment : Option (List Char)
deriving DecidableEq, Repr

namespace Url

def Scheme.name : Scheme → String
  | .http => "http"
  | .https => "https"

def Scheme.defaultPort : Scheme → Nat
  | .http => 80
  | .https => 443

def target (url : Url) : String :=
  String.ofList (url.path.flatMap (fun segment => '/' :: segment) ++
    match url.query with
    | none => []
    | some query => '?' :: query)

def text (url : Url) : String :=
  let port :=
    match url.port with
    | none => []
    | some port => ':' :: Nat.toDigits 10 port
  let fragment :=
    match url.fragment with
    | none => []
    | some fragment => '#' :: fragment
  url.scheme.name ++ "://" ++ String.ofList (url.userInfo ++ url.host ++ port) ++ url.target ++
    String.ofList fragment

def clean (text : List Char) : List Char :=
  let isOuter (char : Char) : Bool := char.toNat ≤ 0x20
  (((text.dropWhile isOuter).reverse.dropWhile isOuter).reverse).filter fun char =>
    !(char == '\t' || char == '\n' || char == '\r')

def isSchemeChar (char : Char) : Bool :=
  char.isAlphanum || char == '+' || char == '-' || char == '.'

def scheme? (text : List Char) : Option (List Char × List Char) :=
  match text.span isSchemeChar with
  | (first :: others, ':' :: rest) =>
    if first.isAlpha then some ((first :: others).map Char.toLower, rest) else none
  | _ => none

def isSlash (char : Char) : Bool := char == '/' || char == '\\'

/-- The characters that end the authority of a URL. A scheme of the kind of `http` takes a backslash
for a slash. -/
def endsAuthority (webLike : Bool) (char : Char) : Bool :=
  char == '/' || char == '?' || char == '#' || (webLike && char == '\\')

def readUserInfo (text : List Char) : List Char :=
  let (user, rest) := text.span (· ≠ ':')
  let user := Percent.encode Percent.keepsUserInfo user
  let password := Percent.encode Percent.keepsUserInfo (rest.drop 1)
  if password.isEmpty then if user.isEmpty then [] else user ++ ['@']
  else user ++ ':' :: (password ++ ['@'])

def cutUserInfo (authority : List Char) : Option (List Char × List Char) :=
  if authority.contains '@' then
    let (after, before) := authority.reverse.span (· ≠ '@')
    some ((before.drop 1).reverse, after.reverse)
  else none

def cutHost (inside : Bool) : List Char → List Char × List Char
  | [] => ([], [])
  | char :: rest =>
    if char = ':' ∧ !inside then ([], char :: rest)
    else
      let inside := if char = '[' then true else if char = ']' then false else inside
      let (host, after) := cutHost inside rest
      (char :: host, after)

def readPort (text : List Char) : Except Fault (Option Nat) :=
  match text with
  | ':' :: rest =>
    let (digits, after) := rest.span Char.isDigit
    if after.head?.any (· ≠ '\\') then .error .port
    else if digits.isEmpty then .ok none
    else
      match Host.natural? 10 digits with
      | none => .error .port
      | some port => if port < 65536 then .ok (some port) else .error .port
  | _ => .ok none

/-- User info, host and port. `readHost` reads the host into its written form. A host may be empty
only where the scheme is none of the web, and only if nothing but a path stands beside it. -/
def authority (webLike : Bool) (readHost : List Char → Except Fault (List Char))
    (text : List Char) : Except Fault (List Char × List Char × Option Nat × List Char) := do
  let (whole, rest) := text.span fun char => !endsAuthority webLike char
  let cut := cutUserInfo whole
  let (before, place) := cut.getD ([], whole)
  let info := readUserInfo before
  let (hostText, after) := cutHost false place
  let bare := cut.isSome && before.isEmpty && !rest.isEmpty
  if hostText.isEmpty && (webLike || bare || !info.isEmpty || !after.isEmpty) then
    .error .emptyHost
  else do
    let host ← readHost hostText
    let port ← readPort after
    return (info, host, port, rest)

def plainDots : List Char → List Char
  | '%' :: '2' :: 'e' :: rest | '%' :: '2' :: 'E' :: rest => '.' :: plainDots rest
  | char :: rest => char :: plainDots rest
  | [] => []

/-- What the dots of a segment stand for: the level itself, the level above, or no level. -/
inductive Dots
  | one
  | two
  | none
deriving DecidableEq, Repr

def dots (segment : List Char) : Dots :=
  let plain := plainDots segment
  if plain = ['.'] then .one
  else if plain = ['.', '.'] then .two
  else .none

/-- A letter and a colon or bar, which a step to the level above leaves alone. -/
def isDrive (segment : List Char) : Bool :=
  match segment with
  | [letter, mark] => letter.isAlpha && (mark == ':' || mark == '|')
  | _ => false

def shorten : List (List Char) → List (List Char)
  | [] => []
  | segment :: rest => if isDrive segment then segment :: rest else rest

def resolve (taken : List (List Char)) : List (List Char) → List (List Char)
  | [] => taken.reverse
  | [last] =>
    match dots last with
    | .one => ([] :: taken).reverse
    | .two => ([] :: shorten taken).reverse
    | .none => (last :: taken).reverse
  | segment :: rest =>
    match dots segment with
    | .one => resolve taken rest
    | .two => resolve (shorten taken) rest
    | .none => resolve (segment :: taken) rest

def readPath (text : List Char) : List (List Char) :=
  let text :=
    match text with
    | '/' :: rest | '\\' :: rest => rest
    | _ => text
  resolve [] ((text.splitOnP isSlash).map (Percent.encode Percent.keepsPath))

def queryAndFragment (text : List Char) : Option (List Char) × Option (List Char) :=
  let (before, after) := text.span (· ≠ '#')
  let query :=
    match before with
    | '?' :: query => some (Percent.encode Percent.keepsQuery query)
    | _ => none
  let fragment :=
    match after with
    | '#' :: fragment => some (Percent.encode Percent.keepsFragment fragment)
    | _ => none
  (query, fragment)

def readWeb (scheme : Scheme) (text : List Char) : Except Fault Url := do
  let start := text.dropWhile isSlash
  let (userInfo, host, port, rest) ← authority true Host.read start
  let (pathText, rest) := rest.span fun char => !(char == '?' || char == '#')
  let (query, fragment) := queryAndFragment rest
  return {
    scheme
    userInfo
    host
    port := port.filter (· ≠ scheme.defaultPort)
    path := readPath pathText
    query
    fragment
  }

def checkFile (text : List Char) : Except Fault Unit :=
  match text with
  | first :: second :: rest =>
    if isSlash first && isSlash second then
      let host := rest.takeWhile fun char => !endsAuthority true char
      if host.isEmpty || isDrive host then .ok ()
      else do
        let _ ← Host.read host
    else .ok ()
  | _ => .ok ()

def checkOther (scheme text : List Char) : Except Fault Unit :=
  if scheme = "file".toList then checkFile text
  else if ["ws".toList, "wss".toList, "ftp".toList].contains scheme then do
    let start := text.dropWhile isSlash
    let _ ← authority true Host.read start
  else
    match text with
    | '/' :: '/' :: rest => do
      let _ ← authority false (fun host => do Host.check host; return host) rest
    | _ => .ok ()

def read (text : String) : Except Fault Url :=
  match scheme? (clean text.toList) with
  | none => .error .relative
  | some (scheme, rest) =>
    if scheme = "http".toList then readWeb .http rest
    else if scheme = "https".toList then readWeb .https rest
    else do
      checkOther scheme rest
      .error .scheme

def appendPair (url : Url) (key value : String) : Url :=
  { url with query := some (Form.append url.query key value) }

end Url

end TelemetryRelay

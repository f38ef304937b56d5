import LinkCourier.Link.Basic
import LinkCourier.Link.Name

/-!
Reading links. Controls and blanks around a link and tabs and line breaks inside it do not
count. In web links a backslash is as good as a slash, and it does not matter how many of
them follow the scheme.
-/

namespace LinkCourier.Link

open Percent

def clean (t : Text) : Text :=
  let cut (t : Text) := t.dropWhile (· ≤ ' ')
  (cut (cut t).reverse).reverse.filter fun c => !(c == '\t' || c == '\n' || c == '\r')

def isSchemeChar (c : Char) : Bool := c.isAlphanum || c == '+' || c == '-' || c == '.'

/-- Splits a text after its scheme; the scheme is written in small letters. -/
def cutScheme? (t : Text) : Option (Text × Text) :=
  match t.span isSchemeChar with
  | (s, ':' :: r) => if s.head?.any Char.isAlpha then some (s.map Char.toLower, r) else none
  | _ => none

def isSlash (c : Char) : Bool := c == '/' || c == '\\'

/-- Ends an authority. A backslash does only in web links. -/
def endsAuthority (web : Bool) (c : Char) : Bool :=
  c == '/' || c == '?' || c == '#' || (web && c == '\\')

/-- Splits an authority at its last at sign. -/
def cutUserinfo? (a : Text) : Option (Text × Text) :=
  match a.reverse.span (· != '@') with
  | (_, []) => none
  | (back, _ :: front) => some (front.reverse, back.reverse)

/-- The host before the first colon outside brackets, and what follows it. -/
def cutHost (inside : Bool) : Text → Text × Text
  | [] => ([], [])
  | c :: r =>
    if c = ':' ∧ !inside then ([], c :: r)
    else
      let (h, p) := cutHost (c == '[' || (inside && c != ']')) r
      (c :: h, p)

/-- What follows a host: nothing, or a colon and a port that may be empty. -/
def readPort : Text → Except Fault (Option Nat)
  | ':' :: r =>
    if r.all Char.isDigit ∧ Decimal.value r ≤ 65535 then
      .ok (if r = [] then none else some (Decimal.value r))
    else .error .badPort
  | _ => .ok none

def readV6 (t : Text) : Except Fault Host :=
  if t.getLast? = some ']' then
    match Address.v6? t.dropLast with
    | some ps => .ok (.v6 ps)
    | none => .error .badV6
  else .error .badV6

/-- The host of a web link, or of a link to a file. -/
def readHost (t : Text) : Except Fault Host :=
  match t with
  | '[' :: r => readV6 r
  | _ => match Name.ofBytes? (decode t) with
    | none => .error .badName
    | some n =>
      if n = [] then .error .emptyHost
      else if Address.endsInNumber n then
        match Address.v4? n with
        | some a => .ok (.v4 a)
        | none => .error .badV4
      else .ok (.name n)

/-- Characters that the host of no link may hold. -/
def isForbiddenInHost (c : Char) : Bool :=
  c == '\x00' || c ∈ [' ', '#', '/', ':', '<', '>', '?', '@', '[', '\\', ']', '^', '|']

/-- The host of a link that is no web link. -/
def checkHost (t : Text) : Except Fault Unit :=
  match t with
  | '[' :: r => (readV6 r).map fun _ => ()
  | _ => if t.any isForbiddenInHost then .error .badHostCharacter else .ok ()

/-- An authority that is nothing but an at sign must be followed by nothing. -/
def emptyAfterAt (authority rest : Text) : Bool := authority == ['@'] && !rest.isEmpty

/-! ### Paths -/

def dotted (d : List String) (s : Text) : Bool := d.contains (String.ofList (s.map Char.toLower))

def isDot (s : Text) : Bool := dotted [".", "%2e"] s
def isDots (s : Text) : Bool := dotted ["..", "%2e.", ".%2e", "%2e%2e"] s

/-- A letter and a colon or a bar, which no path steps out of. -/
def isDrive : Text → Bool
  | [a, b] => a.isAlpha && (b == ':' || b == '|')
  | _ => false

/-- Leaves the last segment, newest first. -/
def leave : List Text → List Text
  | [] => []
  | s :: r => if isDrive s then s :: r else r

/-- Follows the segments of a path from those already passed, newest first. -/
def walk (passed : List Text) : List Text → List Text
  | [] => passed.reverse
  | s :: r =>
    let s := encode inPath s
    let last := r.isEmpty
    if isDots s then walk (if last then [] :: leave passed else leave passed) r
    else if isDot s then walk (if last then [] :: passed else passed) r
    else walk (s :: passed) r

/-- The segments of a path after its first slash. -/
def readPath (t : Text) : List Text :=
  let t := match t with
    | c :: r => if isSlash c then r else t
    | [] => []
  walk [] (t.splitOnP isSlash)

/-! ### Links -/

/-- A part behind a mark, if the mark is there. -/
def behind (mark : Char) (inSet : Char → Bool) : Text → Option Text
  | c :: r => if c = mark then some (encode inSet r) else none
  | [] => none

def readWeb (scheme : WebScheme) (t : Text) : Except Fault WebLink := do
  let (authority, rest) := (t.dropWhile isSlash).span (!endsAuthority true ·)
  if emptyAfterAt authority rest then throw .emptyHost
  let (userinfo, place) := (cutUserinfo? authority).getD ([], authority)
  let (user, password) := userinfo.span (· != ':')
  let (host, port) := cutHost false place
  if host = [] then throw .emptyHost
  let host ← readHost host
  let port ← readPort port
  let (path, rest) := rest.span fun c => !(c == '?' || c == '#')
  let (query, fragment) := rest.span (· != '#')
  return {
    scheme, host
    user := encode inUserinfo user
    password := encode inUserinfo (password.drop 1)
    port := if port = some scheme.defaultPort then none else port
    path := readPath path
    query := behind '?' inQuery query
    fragment := behind '#' inFragment fragment }

/-- A link to a file can only fail by its host. -/
def checkFile (t : Text) : Except Fault Unit :=
  match t with
  | a :: b :: r =>
    if isSlash a && isSlash b then
      let host := r.takeWhile (!endsAuthority true ·)
      if host = [] ∨ isDrive host then .ok () else (readHost host).map fun _ => ()
    else .ok ()
  | _ => .ok ()

/-- A link of a scheme that names nothing on the web can only fail by its authority. -/
def checkOther (t : Text) : Except Fault Unit :=
  match t with
  | '/' :: '/' :: t => do
    let (authority, rest) := t.span (!endsAuthority false ·)
    if emptyAfterAt authority rest then throw .emptyHost
    let (userinfo, place) := (cutUserinfo? authority).getD ([], authority)
    let (host, port) := cutHost false place
    checkHost host
    if host = [] ∧ port ≠ [] then throw .emptyHost
    let _ ← readPort (port.takeWhile (· != '\\'))
    if host = [] ∧ userinfo ≠ [] ∧ userinfo ≠ [':'] then throw .emptyHost
  | _ => .ok ()

def parse (t : Text) : Except Fault Link :=
  match cutScheme? (clean t) with
  | none => .error .relative
  | some (scheme, rest) => match WebScheme.ofName? scheme with
    | some s => (readWeb s rest).map .web
    | none =>
      let checked := if scheme = "file".toList then checkFile rest else checkOther rest
      checked.map fun _ => .other scheme

/-! ### Readers -/

/-- How links are read: the link of a text, or why there is none, and of a link its scheme and
how it is written. -/
structure Reader (α : Type) where
  parse : Text → Except Text α
  scheme : α → Text
  text : α → Text

def reader : Reader Link where
  parse t := (Link.parse t).mapError (·.message.toList)
  scheme := Link.scheme
  text := Link.text

end LinkCourier.Link

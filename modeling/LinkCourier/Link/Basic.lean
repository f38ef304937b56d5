import LinkCourier.Link.Address

/-!
Links: of the schemes that name a host on the web all parts are kept, of any other scheme
only its name.
-/

namespace LinkCourier

inductive WebScheme where
  | http | https | ws | wss | ftp
  deriving DecidableEq, Repr

namespace WebScheme

def name : WebScheme → String
  | .http => "http"
  | .https => "https"
  | .ws => "ws"
  | .wss => "wss"
  | .ftp => "ftp"

def defaultPort : WebScheme → Nat
  | .http => 80
  | .https => 443
  | .ws => 80
  | .wss => 443
  | .ftp => 21

def ofName? (t : Text) : Option WebScheme :=
  [http, https, ws, wss, ftp].find? (·.name.toList = t)

end WebScheme

inductive Host where
  | name (t : Text)
  | v4 (n : Nat)
  | v6 (pieces : List Nat)
  deriving DecidableEq, Repr

def Host.text : Host → Text
  | .name t => t
  | .v4 n => Address.v4Text n
  | .v6 ps => '[' :: Address.v6Text ps ++ [']']

/-- The parts of a web link as they are written. -/
structure WebLink where
  scheme : WebScheme
  user : Text
  password : Text
  host : Host
  port : Option Nat
  path : List Text
  query : Option Text
  fragment : Option Text
  deriving DecidableEq, Repr

namespace WebLink

def credentials (l : WebLink) : Text :=
  if l.user = [] ∧ l.password = [] then []
  else if l.password = [] then l.user ++ ['@']
  else l.user ++ ':' :: l.password ++ ['@']

/-- A part that is written with a mark in front, if it is there at all. -/
def marked (mark : Char) : Option Text → Text
  | none => []
  | some t => mark :: t

def text (l : WebLink) : Text :=
  l.scheme.name.toList ++ "://".toList ++ l.credentials ++ l.host.text ++
    marked ':' (l.port.map Decimal.digits) ++ l.path.flatMap ('/' :: ·) ++
    marked '?' l.query ++ marked '#' l.fragment

end WebLink

inductive Link where
  | web (l : WebLink)
  | other (scheme : Text)
  deriving DecidableEq, Repr

namespace Link

def scheme : Link → Text
  | .web l => l.scheme.name.toList
  | .other s => s

/-- How a link is written; of links that nothing here fetches, the scheme. -/
def text : Link → Text
  | .web l => l.text
  | .other s => s ++ [':']

/-- Why a text is no link. -/
inductive Fault where
  | relative | emptyHost | badPort | badV4 | badV6 | badName | badHostCharacter
  deriving DecidableEq, Repr

def Fault.message : Fault → String
  | .relative => "relative URL without a base"
  | .emptyHost => "empty host"
  | .badPort => "invalid port number"
  | .badV4 => "invalid IPv4 address"
  | .badV6 => "invalid IPv6 address"
  | .badName => "invalid international domain name"
  | .badHostCharacter => "invalid domain character"

end Link

end LinkCourier

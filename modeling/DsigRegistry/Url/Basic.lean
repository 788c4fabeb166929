import DsigRegistry.Url.Host

/-!
# URLs

A URL in its parts, and the text of a URL. The parts are kept the way they are written: escaped
where they have to be, and with dot segments resolved.
-/

namespace DsigRegistry

namespace Url

/-- Who serves a URL. A URL can have an authority and yet no host. -/
structure Authority where
  username : List Char := []
  password : List Char := []
  host : Option Host := none
  /-- The port, unless it is the default one of the scheme. -/
  port : Option Nat := none
deriving DecidableEq

/-- The path of a URL. -/
inductive Route where
  /-- A hierarchical path; the segments follow a slash each. -/
  | segments (names : List (List Char))
  /-- A path without structure. -/
  | plain (text : List Char)
deriving DecidableEq

end Url

/-- A URL in its parts. -/
structure Url where
  scheme : List Char
  authority : Option Url.Authority := none
  route : Url.Route
  query : Option (List Char) := none
  fragment : Option (List Char) := none
deriving DecidableEq

namespace Url

/-- The schemes with a host, a hierarchical path and a default port. -/
def defaultPort? (scheme : List Char) : Option Nat :=
  if scheme = ['h', 't', 't', 'p'] ∨ scheme = ['w', 's'] then some 80
  else if scheme = ['h', 't', 't', 'p', 's'] ∨ scheme = ['w', 's', 's'] then some 443
  else if scheme = ['f', 't', 'p'] then some 21
  else none

/-- The scheme of files. -/
def fileScheme : List Char := ['f', 'i', 'l', 'e']

/-- The scheme has rules of its own, of which one is that a backslash counts as a slash. -/
def isSpecial (scheme : List Char) : Bool :=
  scheme = fileScheme || (defaultPort? scheme).isSome

/-- The URL is one of a file. -/
def isFile (u : Url) : Bool :=
  u.scheme = fileScheme

/-- The host of a URL. -/
def host? (u : Url) : Option Host :=
  u.authority.bind (·.host)

/-- The credentials in front of a host. -/
def Authority.userInfo (a : Authority) : List Char :=
  if a.username = [] ∧ a.password = [] then []
  else if a.password = [] then a.username ++ ['@']
  else a.username ++ ':' :: a.password ++ ['@']

/-- The authority in a URL. -/
def Authority.text (a : Authority) : String :=
  String.ofList a.userInfo ++ ((a.host.map Host.text).getD "")
    ++ ((a.port.map fun n => ":" ++ toString n).getD "")

/-- The path in a URL. -/
def Route.chars : Route → List Char
  | .segments names => names.flatMap ('/' :: ·)
  | .plain text => text

/-- Without an authority, a path that starts with an empty segment would be taken for one. -/
def needsDot (u : Url) : Bool :=
  match u.authority, u.route with
  | none, .segments ([] :: _ :: _) => true
  | _, _ => false

/-- The text of a URL. -/
def text (u : Url) : String :=
  String.ofList u.scheme ++ ":"
    ++ ((u.authority.map fun a => "//" ++ a.text).getD "")
    ++ (if u.needsDot then "/." else "")
    ++ String.ofList (u.route.chars ++ ((u.query.map ('?' :: ·)).getD [])
      ++ ((u.fragment.map ('#' :: ·)).getD []))

end Url

end DsigRegistry

import DsigRegistry.Url.Basic

/-!
# Reading URLs

A text with a scheme is a URL by itself; any other is a reference that is resolved against a base.
Spaces and controls at the ends do not count, and neither do tabs and line ends anywhere. A
reference replaces as much of the base as it spells out: the fragment, the query, the end of the
path, the whole path, or everything behind the scheme.
-/

namespace DsigRegistry.Url

/-- A control character or a space. -/
def isPadding (c : Char) : Bool := c.toNat ≤ 0x20

/-- A tab or a line end. -/
def isBreak (c : Char) : Bool := c = '\t' || c = '\n' || c = '\r'

/-- The characters that count: all but the padding at the ends and the tabs and line ends. -/
def significant (cs : List Char) : List Char :=
  ((cs.dropWhile isPadding).reverse.dropWhile isPadding).reverse.filter (!isBreak ·)

/-- The rest of a scheme in lower case and what follows its colon. -/
def schemeTail? : List Char → Option (List Char × List Char)
  | [] => none
  | c :: cs =>
    if c = ':' then some ([], cs)
    else if c.isAlphanum || c = '+' || c = '-' || c = '.' then
      (schemeTail? cs).map fun (tail, rest) => (c.toLower :: tail, rest)
    else none

/-- A scheme in lower case and what follows its colon. A scheme starts with a letter. -/
def splitScheme? : List Char → Option (List Char × List Char)
  | [] => none
  | c :: cs =>
    if c.isAlpha then (schemeTail? cs).map fun (tail, rest) => (c.toLower :: tail, rest)
    else none

/-! ### Paths, queries and fragments -/

/-- The character separates segments. -/
def isSeparator (special : Bool) (c : Char) : Bool :=
  c = '/' || (special && c = '\\')

/-- The character ends a path. -/
def endsPath (c : Char) : Bool := c = '?' || c = '#'

/-- The character ends an authority. -/
def endsAuthority (special : Bool) (c : Char) : Bool :=
  isSeparator special c || endsPath c

/-- The segment stands for the place it is in. -/
def isDot (segment : List Char) : Bool :=
  let s := segment.map Char.toLower
  s = ['.'] || s = ['%', '2', 'e']

/-- The segment stands for the place above. -/
def isDotDot (segment : List Char) : Bool :=
  let s := segment.map Char.toLower
  s = ['.', '.'] || s = ['.', '%', '2', 'e'] || s = ['%', '2', 'e', '.']
    || s = ['%', '2', 'e', '%', '2', 'e']

/-- The text is a drive: a letter, and a colon or a bar behind it. -/
def isDrive : List Char → Bool
  | [letter, mark] => letter.isAlpha && (mark = ':' || mark = '|')
  | _ => false

/-- The text starts with a drive, and nothing else is in the segment. -/
def startsWithDrive (cs : List Char) : Bool :=
  isDrive (cs.take 2) && (cs.drop 2).head?.all (endsAuthority true)

/-- A drive the way that paths have it, with a colon. -/
def withColon (drive : List Char) : List Char := drive.take 1 ++ [':']

/-- The drive that the segments start with, if there is one. -/
def drive (names : List (List Char)) : List (List Char) :=
  (names.take 1).filter fun name => isDrive name && name = withColon name

/-- The place above that of the segments; there is none above a drive. -/
def ascend (names : List (List Char)) : List (List Char) :=
  if names.getLast?.any startsWithDrive then names else names.dropLast

/-- The segments with one more behind them. A drive at the start of a file's path gets its colon. -/
def descend (file : Bool) (names : List (List Char)) (segment : List Char) : List (List Char) :=
  if file && names.isEmpty && isDrive segment then [withColon segment]
  else names ++ [Percent.encodeText Percent.pathSet segment]

/-- The segments behind those that are there, with dot segments resolved. Behind a dot segment at
the end there is an empty segment. -/
def follow (file : Bool) (names : List (List Char)) : List (List Char) → List (List Char)
  | [] => names
  | [last] =>
    if isDotDot last then ascend names ++ [[]]
    else if isDot last then names ++ [[]]
    else descend file names last
  | segment :: rest =>
    if isDotDot segment then follow file (ascend names) rest
    else if isDot segment then follow file names rest
    else follow file (descend file names segment) rest

/-- The text without the separator that it starts with. -/
def dropSeparator (special : Bool) : List Char → List Char
  | [] => []
  | c :: cs => if isSeparator special c then cs else c :: cs

/-- The part of the text that is a path. -/
def pathPart (cs : List Char) : List Char := cs.takeWhile (!endsPath ·)

/-- The query and the fragment that follow the path. -/
def afterPath (cs : List Char) : List Char := cs.dropWhile (!endsPath ·)

/-- The segments of the path that the text starts with, behind those that are there. -/
def followPath (scheme : List Char) (names : List (List Char)) (cs : List Char) :
    List (List Char) :=
  follow (scheme = fileScheme) names (splitWhere (isSeparator (isSpecial scheme)) (pathPart cs))

/-- The segments of a file's path: empty ones at the start are dropped. -/
def fileSegments (names : List (List Char)) : List (List Char) :=
  match names.dropWhile List.isEmpty with
  | [] => [[]]
  | names => names

/-- The fragment that the text behind a path ends in. -/
def fragmentPart? (cs : List Char) : Option (List Char) :=
  match cs.dropWhile (· ≠ '#') with
  | _ :: rest => some (Percent.encodeText Percent.fragmentSet rest)
  | [] => none

/-- The query that the text behind a path starts with. -/
def queryPart? (special : Bool) : List Char → Option (List Char)
  | '?' :: rest =>
    some (Percent.encodeText (if special then Percent.specialQuerySet else Percent.querySet)
      (rest.takeWhile (· ≠ '#')))
  | _ => none

/-- The URL with the query and the fragment that the text has behind its path. -/
def withTail (u : Url) (cs : List Char) : Url :=
  let tail := afterPath cs
  { u with query := queryPart? (isSpecial u.scheme) tail, fragment := fragmentPart? tail }

/-! ### Authorities -/

/-- The host at the start of the text and what follows it; a colon between brackets belongs to
the host. -/
def splitHost (special inBrackets : Bool) : List Char → List Char × List Char
  | [] => ([], [])
  | c :: cs =>
    if endsAuthority special c || (c = ':' && !inBrackets) then ([], c :: cs)
    else
      let (host, rest) := splitHost special ((inBrackets || c = '[') && c ≠ ']') cs
      (c :: host, rest)

/-- The credentials in front of the last `@` of an authority and the text behind it. -/
def splitUserInfo? (special : Bool) (cs : List Char) : Option (List Char × List Char) :=
  let authority := cs.takeWhile (!endsAuthority special ·)
  let behind := (authority.reverse.takeWhile (· ≠ '@')).reverse
  if behind.length = authority.length then none
  else some (authority.take (authority.length - behind.length - 1),
    behind ++ cs.dropWhile (!endsAuthority special ·))

/-- A port number; more digits cannot bring it back into range. -/
def portNumber? (digits : List Char) : Option Nat :=
  let n := Ipv4.numeralValue 10 (digits.map fun c => c.toNat - 48)
  if n < 65536 then some n else none

/-- The port behind a colon, unless it is the default one, and the text behind it. -/
def readPort (scheme cs : List Char) : Except Fault (Option Nat × List Char) :=
  let digits := cs.takeWhile Char.isDigit
  let rest := cs.dropWhile Char.isDigit
  let fits := match rest with
    | [] => true
    | c :: _ => endsAuthority true c
  match portNumber? digits, fits with
  | some n, true =>
    .ok (if digits = [] ∨ defaultPort? scheme = some n then none else some n, rest)
  | _, _ => .error .invalidPort

/-- The host and port at the start of the text and what follows them. -/
def readHostPort (scheme cs : List Char) :
    Except Fault (Option Host × Option Nat × List Char) := do
  let (hostText, rest) := splitHost (isSpecial scheme) false cs
  let host ←
    if isSpecial scheme then
      if hostText = [] then .error .emptyHost else (Host.parse hostText).map some
    else Host.parseOpaque? hostText
  match rest with
  | ':' :: rest =>
    if host = none then .error .emptyHost
    else
      let (port, rest) ← readPort scheme rest
      return (host, port, rest)
  | rest => return (host, none, rest)

/-- The user name and the password of credentials. -/
def readUserInfo (cs : List Char) : List Char × List Char :=
  (Percent.encodeText Percent.userInfoSet (cs.takeWhile (· ≠ ':')),
    Percent.encodeText Percent.userInfoSet ((cs.dropWhile (· ≠ ':')).drop 1))

/-- The authority at the start of the text and what follows it. Credentials need a host. -/
def readAuthority (scheme cs : List Char) : Except Fault (Authority × List Char) := do
  let (userInfo, rest) := (splitUserInfo? (isSpecial scheme) cs).getD ([], cs)
  let marked := (splitUserInfo? (isSpecial scheme) cs).isSome
  if marked && userInfo.isEmpty && rest.head?.any (endsAuthority (isSpecial scheme)) then
    .error .emptyHost
  else
    let (username, password) := readUserInfo userInfo
    let (host, port, rest) ← readHostPort scheme rest
    if host = none ∧ (username ≠ [] ∨ password ≠ []) then .error .emptyHost
    else return (⟨username, password, host, port⟩, rest)

/-- The URL whose text behind the scheme's two slashes is given. -/
def ofAuthority (scheme cs : List Char) : Except Fault Url := do
  let (authority, rest) ← readAuthority scheme cs
  let special := isSpecial scheme
  let route :=
    if !special && (pathPart rest).isEmpty then []
    else followPath scheme [] (dropSeparator special rest)
  return withTail ⟨scheme, some authority, .segments route, none, none⟩ rest

/-! ### Files -/

/-- The URL of a file on the host, whose path the text starts with. -/
def fileUrl (host : Option Host) (names : List (List Char)) (cs : List Char) : Url :=
  withTail
    ⟨fileScheme, some ⟨[], [], host, none⟩,
      .segments (fileSegments (followPath fileScheme names cs)), none, none⟩ cs

/-- The name that stands for the own host. -/
def localHost : Host := .domain ['l', 'o', 'c', 'a', 'l', 'h', 'o', 's', 't']

/-- The host that the text spells in front of a file's path. The own host is left out. -/
def fileHost (cs : List Char) : Except Fault (Option Host) :=
  if cs = [] then .ok none
  else (Host.parse cs).map fun host => if host = localHost then none else some host

/-- The URL of a file whose text behind two slashes is given. A drive is not on any host, and in the
place of one it belongs to the path. -/
def ofFileAuthority (cs : List Char) : Except Fault Url :=
  let hostText := cs.takeWhile (!endsAuthority true ·)
  if isDrive hostText then .ok (fileUrl none [] cs)
  else (fileHost hostText).map fun host =>
    let rest := dropSeparator true (cs.dropWhile (!endsAuthority true ·))
    let onDrive := drive (followPath fileScheme [] rest) ≠ []
    fileUrl (if onDrive then none else host) [] rest

/-- The URL of a file whose text behind the scheme is given. -/
def ofFile (cs : List Char) : Except Fault Url :=
  match cs with
  | c :: d :: rest =>
    if isSeparator true c && isSeparator true d then ofFileAuthority rest
    else .ok (fileUrl none [] (dropSeparator true cs))
  | _ => .ok (fileUrl none [] (dropSeparator true cs))

/-! ### Texts with a scheme -/

/-- The URL whose text behind a scheme without rules of its own is given. -/
def ofGeneral (scheme cs : List Char) : Except Fault Url :=
  match cs with
  | '/' :: '/' :: rest => ofAuthority scheme rest
  | '/' :: rest =>
    .ok (withTail ⟨scheme, none, .segments (followPath scheme [] rest), none, none⟩ rest)
  | _ =>
    .ok (withTail ⟨scheme, none, .plain (Percent.encodeText [] (pathPart cs)), none, none⟩ cs)

/-- The URL with a scheme whose text behind the colon is given. -/
def ofScheme (scheme cs : List Char) : Except Fault Url :=
  if scheme = fileScheme then ofFile cs
  else if isSpecial scheme then ofAuthority scheme (cs.dropWhile (isSeparator true))
  else ofGeneral scheme cs

/-- The URL that a text spells by itself. -/
def parse (s : String) : Except Fault Url :=
  match splitScheme? (significant s.toList) with
  | some (scheme, rest) => ofScheme scheme rest
  | none => .error .noBase

/-! ### References -/

/-- The segments of a path. -/
def Route.names : Route → List (List Char)
  | .segments names => names
  | .plain _ => []

/-- The base with the path that the text starts with, behind the given segments. For a file, a text
that starts with a drive leaves nothing of the base. -/
def withPath (base : Url) (names : List (List Char)) (cs : List Char) : Url :=
  if base.isFile then
    if startsWithDrive cs then fileUrl none [] cs else fileUrl base.host? names cs
  else withTail { base with route := .segments (followPath base.scheme names cs) } cs

/-- What a reference that starts with one slash refers to, by the text behind it. The drive of a
file stays in front. -/
def joinRooted (base : Url) (names : List (List Char)) (cs : List Char) : Url :=
  if base.isFile && drive names ≠ [] && !startsWithDrive cs then fileUrl none (drive names) cs
  else withPath base [] cs

/-- The segments that a reference is put behind: those of the base but the last, which stays if it
is the drive of a file. -/
def parent (file : Bool) (names : List (List Char)) : List (List Char) :=
  if file && drive names = names then names else names.dropLast

/-- What a reference that starts with two slashes refers to. -/
def joinAuthority (base : Url) (cs : List Char) : Except Fault Url :=
  if base.isFile then ofFileAuthority (cs.drop 2)
  else
    match cs with
    | '/' :: '/' :: rest => ofAuthority base.scheme rest
    | _ => ofAuthority base.scheme (cs.dropWhile (isSeparator true))

/-- What a reference without a scheme refers to. -/
def joinRelative (base : Url) (cs : List Char) : Except Fault Url :=
  match base.route, cs with
  | _, '#' :: _ => .ok { base with fragment := fragmentPart? cs }
  | .plain _, _ => .error .opaqueBase
  | .segments _, [] => .ok { base with fragment := none }
  | .segments _, '?' :: _ => .ok (withTail base cs)
  | .segments names, c :: rest =>
    if isSeparator true c then
      if rest.head?.any (isSeparator true) then joinAuthority base cs
      else .ok (joinRooted base names rest)
    else .ok (withPath base (parent base.isFile names) cs)

/-- What a text refers to when it is found at the base. A text with a scheme is read as if there
were none. -/
def join (base : Url) (s : String) : Except Fault Url :=
  match splitScheme? (significant s.toList) with
  | some (scheme, rest) => ofScheme scheme rest
  | none => joinRelative base (significant s.toList)

end DsigRegistry.Url

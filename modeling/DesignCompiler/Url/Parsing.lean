import DesignCompiler.Text.Blank
import DesignCompiler.Url.Host
import DesignCompiler.Url.Path

set_option autoImplicit false

/-!
# URLs

A URL is taken apart into its scheme, authority, path and query; the path and the query are kept.
In the schemes of the web a host is needed and a backslash separates like a slash. The URL of a file
may do without a host and start its path with a drive letter. Without an authority or a slash, other
schemes have no path that could be divided.
-/
namespace DesignCompiler.Url

inductive Family where
  | web
  | file
  | other
deriving DecidableEq, Repr

def Family.ofScheme (scheme : List Char) : Family :=
  let name := String.ofList scheme
  if name = "file" then .file
  else if name = "http" || name = "https" || name = "ftp" || name = "ws" || name = "wss" then .web
  else .other

def Family.separates (family : Family) (c : Char) : Bool :=
  c = '/' || (c = '\\' && family ≠ .other)

structure Address where
  path : List Segment
  query : List Char
deriving DecidableEq, Repr

def endsPath (c : Char) : Bool := c = '?' || c = '#'

def queryOf : List Char → List Char
  | '?' :: cs => cs.takeWhile (· ≠ '#')
  | _ => []

def addressOf (family : Family) (cs : List Char) : Address where
  path := pathOf (family = .file) family.separates (cs.takeWhile (!endsPath ·))
  query := queryOf (cs.dropWhile (!endsPath ·))

def undivided (cs : List Char) : Address := ⟨[], queryOf (cs.dropWhile (!endsPath ·))⟩

def addressBehindAuthority (family : Family) : List Char → Address
  | [] => if family = .other then ⟨[], []⟩ else addressOf family []
  | c :: cs =>
    if family.separates c then addressOf family cs
    else if family = .other && endsPath c then undivided (c :: cs)
    else addressOf family (c :: cs)

def isLetterOrSign (c : Char) : Bool := c.isAlphanum || c = '+' || c = '-' || c = '.'

def takeScheme? (cs : List Char) : Option (List Char × List Char) :=
  match cs.dropWhile isLetterOrSign with
  | ':' :: rest =>
    if cs.head?.any Char.isAlpha then some ((cs.takeWhile isLetterOrSign).map Char.toLower, rest)
    else none
  | _ => none

def endsAuthority (family : Family) (c : Char) : Bool := family.separates c || endsPath c

def splitUser (family : Family) (cs : List Char) : Option (List Char) × List Char :=
  let authority := cs.takeWhile (!endsAuthority family ·)
  if authority.contains '@' then
    let host := (authority.reverse.takeWhile (· ≠ '@')).reverse
    let user := authority.take (authority.length - host.length - 1)
    (some user, cs.drop (user.length + 1))
  else (none, cs)

/-- Split a text where its host ends; a colon in brackets does not end it. -/
def spanHost (family : Family) (bracketed : Bool) : List Char → List Char × List Char
  | [] => ([], [])
  | c :: cs =>
    if endsAuthority family c || (c = ':' && !bracketed) then ([], c :: cs)
    else
      let (host, rest) := spanHost family (c = '[' || (bracketed && c ≠ ']')) cs
      (c :: host, rest)

def dropNumber (cs : List Char) : Except Fault (List Char) :=
  let rest := cs.dropWhile Char.isDigit
  if 65535 < numeral 10 (cs.takeWhile Char.isDigit) then .error .portNumber
  else match rest with
    | [] => .ok []
    | c :: _ => if c = '/' || c = '\\' || endsPath c then .ok rest else .error .portNumber

def dropAuthority (family : Family) (cs : List Char) : Except Fault (List Char) := do
  let (user, behindUser) := splitUser family cs
  if user = some [] && behindUser.head?.any (endsAuthority family) then throw .emptyHost
  let (written, rest) := spanHost family false behindUser
  if family = .web && written.isEmpty then throw .emptyHost
  let host ← if family = .web then readWebHost written else readOpaqueHost written
  if host.isEmpty && rest.head? = some ':' then throw .emptyHost
  let rest ← match rest with
    | ':' :: cs => dropNumber cs
    | _ => .ok rest
  if host.isEmpty && user.any (fun u => !u.isEmpty && u ≠ [':']) then throw .emptyHost
  return rest

/-- The URL of a file, behind two slashes. A drive letter is no host, and the local host counts as
none. -/
def parseFileAuthority (cs : List Char) : Except Fault Address := do
  let written := cs.takeWhile (!endsAuthority .file ·)
  let rest := cs.dropWhile (!endsAuthority .file ·)
  if isDriveLetter written then return addressOf .file cs
  if written.isEmpty then return addressOf .file rest
  let host ← readWebHost written
  if host = "localhost".toList then return addressOf .file rest
  return addressBehindAuthority .file rest

def parseFile : List Char → Except Fault Address
  | c :: d :: cs =>
    if Family.file.separates c && Family.file.separates d then parseFileAuthority cs
    else if Family.file.separates c then .ok (addressOf .file (d :: cs))
    else .ok (addressOf .file (c :: d :: cs))
  | cs => .ok (addressOf .file (cs.dropWhile Family.file.separates))

def parseBehindScheme (family : Family) (cs : List Char) : Except Fault Address :=
  match family with
  | .web =>
    (dropAuthority .web (cs.dropWhile Family.web.separates)).map (addressBehindAuthority .web)
  | .file => parseFile cs
  | .other =>
    match cs with
    | '/' :: '/' :: rest => (dropAuthority .other rest).map (addressBehindAuthority .other)
    | '/' :: rest => .ok (addressOf .other rest)
    | _ => .ok (undivided cs)

/-- Controls and spaces at the ends of a text do not count, nor tabs and line ends anywhere. -/
def clean (cs : List Char) : List Char :=
  (Text.dropEnds (·.toNat ≤ 0x20) cs).filter fun c => c ≠ '\t' && c ≠ '\n' && c ≠ '\x0D'

def parse (cs : List Char) : Except Fault Address :=
  match takeScheme? (clean cs) with
  | none => .error .noScheme
  | some (scheme, rest) => parseBehindScheme (.ofScheme scheme) rest

end DesignCompiler.Url

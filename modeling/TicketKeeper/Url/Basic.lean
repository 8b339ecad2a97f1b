import TicketKeeper.Url.Address
import TicketKeeper.Url.HostName
import TicketKeeper.Url.Percent

/-! Addresses of requests. A text is cut into its components, each of which is normalised and
percent-encoded; a text that no address can have is refused. -/
namespace TicketKeeper

open TicketKeeper.Text

structure Url where
  scheme : List Char
  user : List Char
  host : List Char
  portNumber : Option Int
  path : List Char
  query : Option (List Char)
  fragment : Option (List Char)
deriving DecidableEq, Repr

namespace Url

def maxLength : Nat := 65536

private def isSchemeChar (c : Char) : Bool :=
  c.isAlphanum || c == '+' || c == '.' || c == '-'

/-- The scheme in front of the first colon, and the rest; no scheme when the text before the colon
is none. -/
def cutScheme (s : List Char) : List Char × List Char :=
  match s.span isSchemeChar with
  | (name, ':' :: r) => if (name.head?.map Char.isAlpha).getD true then (name, r) else ([], s)
  | _ => ([], s)

def cutAuthority : List Char → List Char × List Char
  | '/' :: '/' :: r => r.span fun c => c != '/' && c != '?' && c != '#'
  | s => ([], s)

def cutUser (authority : List Char) : List Char × List Char :=
  let behind := (authority.reverse.takeWhile (· != '@')).reverse
  (authority.take (authority.length - behind.length - 1), behind)

def cutHost (s : List Char) : List Char × List Char :=
  let bracketed := dropEndWhile (· != ']') s
  let (host, r) :=
    if s.head? = some '[' && bracketed.length > 1 then (bracketed, s.drop bracketed.length)
    else s.span (· != ':')
  match r with
  | ':' :: number => (host, number)
  | number => (host, number)

def defaultNumber? (scheme : List Char) : Option Int :=
  [("ftp".toList, (21 : Int)), ("http".toList, 80), ("https".toList, 443), ("ws".toList, 80),
    ("wss".toList, 443)].lookup scheme

/-- The number behind a host, unless it is the scheme's own; none for a text that is no number. Only
a scheme in lower case is known to have a number of its own. -/
def readPortNumber (scheme digits : List Char) : Option (Option Int) :=
  if digits.isEmpty then some none
  else do
    let n ← Number.numeral? digits
    return if defaultNumber? scheme == some n then none else some n

/-- A text that looks like a numeric address must be one; the brackets of an address are dropped.
Any other host is a name, in lower case and written as ASCII. -/
def readHost (host : List Char) : Option (List Char) :=
  if host.isEmpty then some []
  else if Address.looksShort host then if Address.isShort host then some host else none
  else if host.head? == some '[' && host.getLast? == some ']' then
    let inner := (host.drop 1).dropLast
    if Address.isLong inner then some inner else none
  else if host.all (·.toNat < 128) then some (percentEncode isHostSafe (host.map Char.toLower))
  else (HostName.write (lower host)).toOption

def dropDots (kept : List (List Char)) : List (List Char) → List (List Char)
  | [] => kept
  | part :: r =>
    if part = ['.'] then dropDots kept r
    else if part = ['.', '.'] then
      dropDots (if kept.isEmpty || kept = [[]] then kept else kept.dropLast) r
    else dropDots (kept ++ [part]) r

def normalPath (path : List Char) : List Char :=
  let parts := splitAt '/' path
  if parts.contains ['.'] || parts.contains ['.', '.'] then ['/'].intercalate (dropDots [] parts)
  else path

/-- A path behind an authority begins with a slash; one without scheme and authority begins neither
with two slashes nor with a colon. -/
def isValidPath (hasScheme hasAuthority : Bool) (path : List Char) : Bool :=
  (!hasAuthority || path.isEmpty || path.head? == some '/') &&
    (hasScheme || hasAuthority || !(['/', '/'].isPrefixOf path || path.head? == some ':'))

def ofComponents (scheme authority path : List Char) (query fragment : Option (List Char)) :
    Option Url := do
  let (user, r) := cutUser authority
  let (host, number) := cutHost r
  let user := percentEncode isUserSafe user
  let host ← readHost host
  let portNumber ← readPortNumber scheme number
  let scheme := scheme.map Char.toLower
  let hasScheme := !scheme.isEmpty
  let hasAuthority := !user.isEmpty || !host.isEmpty || portNumber.isSome
  if !isValidPath hasScheme hasAuthority path then none
  let path := if hasScheme || hasAuthority then normalPath path else path
  return ⟨scheme, user, host, portNumber, percentEncode isPathSafe path,
    query.map (percentEncode isQuerySafe), fragment.map (percentEncode isFragmentSafe)⟩

def isWritable (s : List Char) : Bool :=
  s.length ≤ maxLength && s.all fun c => 32 ≤ c.toNat && c.toNat != 127

def parse? (s : List Char) : Option Url :=
  if isWritable s then
    let (scheme, r) := cutScheme s
    let (authority, r) := cutAuthority r
    let (r, fragment) := cutAt '#' r
    let (path, query) := cutAt '?' r
    ofComponents scheme authority path query fragment
  else none

def authority (u : Url) : List Char :=
  (if u.user.isEmpty then [] else u.user ++ ['@']) ++
    (if u.host.contains ':' then '[' :: u.host ++ [']'] else u.host) ++
    match u.portNumber with
    | some n => ':' :: (toString n).toList
    | none => []

def target (u : Url) : List Char :=
  (if u.path.isEmpty then ['/'] else u.path) ++ match u.query with
    | some q => '?' :: q
    | none => []

def composed (scheme authority path : List Char) (query fragment : Option (List Char)) :
    List Char :=
  (if scheme.isEmpty then [] else scheme ++ [':']) ++
    (if authority.isEmpty then [] else '/' :: '/' :: authority) ++ path ++
    (match query with | some q => '?' :: q | none => []) ++
    (match fragment with | some f => '#' :: f | none => [])

def text (u : Url) : List Char := composed u.scheme u.authority u.path u.query u.fragment

def isRelative (u : Url) : Bool := u.scheme.isEmpty || u.host.isEmpty

def rebuilt (scheme authority path : List Char) (query fragment : Option (List Char)) :
    Option Url :=
  if isWritable scheme && isWritable authority && isWritable path &&
      isWritable (query.getD []) && isWritable (fragment.getD []) then
    ofComponents scheme authority path query fragment
  else none

/-- A text without scheme or host is taken from the root of no host. -/
def rooted (u : Url) : Option Url :=
  if u.isRelative then
    let (path, query) := cutAt '?' ('/' :: u.target.dropWhile (· == '/'))
    rebuilt [] [] path query none
  else some u

def withQuery (u : Url) (query : List Char) : Option Url :=
  rebuilt u.scheme u.authority u.path (some query) u.fragment

def forRequest? (s : List Char) (query : Option (List Char)) : Option Url := do
  let u ← (← parse? s).rooted
  match query with
  | some q => u.withQuery q
  | none => return u

def segments (u : Url) : List (List Char) := ((splitAt '/' u.path).drop 1).map percentDecode

end Url

end TicketKeeper

import TicketKeeper.Url.Basic

/-! Addresses to which a reply sends its reader. They may be relative to the address of the request,
and their hosts are compared as texts. -/
namespace TicketKeeper.Url

open TicketKeeper.Text

inductive RedirectFault
  | unreadable
  | unfit
  | host (fault : HostFault)
  | unencodable
deriving DecidableEq, Repr

private def orUnfit (u : Option Url) : Except RedirectFault Url := u.elim (.error .unfit) .ok

def hostText (u : Url) : Except RedirectFault (List Char) :=
  (HostName.read u.host).mapError .host

def withHost (u : Url) (host : List Char) : Option Url :=
  rebuilt u.scheme { u with host := host }.authority u.path u.query u.fragment

def withFragment (u : Url) (fragment : List Char) : Option Url :=
  rebuilt u.scheme u.authority u.path u.query (some fragment)

/-- A path that is no path from the root starts behind the last slash of the other. -/
def joinedPath (base path : List Char) : List Char :=
  if path.head? == some '/' then path
  else match dropEndWhile (· != '/') base with
    | [] => '/' :: path
    | folder => folder ++ path

/-- The schemes in which an address may be relative to another. -/
def joiningSchemes : List (List Char) :=
  ["ftp", "http", "gopher", "nntp", "imap", "wais", "file", "https", "shttp", "mms", "prospero",
    "rtsp", "rtsps", "rtspu", "sftp", "svn", "svn+ssh", "ws", "wss"].map String.toList

/-- A relative address, seen from this one; an empty one is this one itself. An address whose text
starts like a scheme is not relative after all. -/
def join (u reference : Url) : Option Url :=
  let text (authority path : List Char) (query : Option (List Char)) : List Char :=
    composed u.scheme authority path query reference.fragment
  parse? <|
    if reference.text.isEmpty then u.text
    else if !joiningSchemes.contains u.scheme || !(cutScheme reference.text).1.isEmpty then
      reference.text
    else if !reference.authority.isEmpty then
      text reference.authority reference.path reference.query
    else if reference.path.isEmpty then
      text u.authority u.path (reference.query.orElse fun _ => u.query)
    else text u.authority (joinedPath u.path reference.path) reference.query

def fragmentText (u : Url) : List Char := (u.fragment.map percentDecode).getD []

def redirect (u : Url) (location : List Char) : Except RedirectFault Url := do
  let some target := parse? location | throw .unreadable
  let target ← if target.scheme.isEmpty then pure target else do
    if (← target.hostText).isEmpty then orUnfit (target.withHost (← u.hostText)) else pure target
  let target ← if target.isRelative then orUnfit (u.join target) else pure target
  let fragment := u.fragmentText
  let target ← if !fragment.isEmpty && target.fragmentText.isEmpty then
      orUnfit (target.withFragment fragment)
    else pure target
  let (first, second) := if target.scheme == u.scheme then (target, u) else (u, target)
  let _ ← first.hostText
  let _ ← second.hostText
  if target.host.any (127 < ·.toNat) then throw .unencodable
  return target

end TicketKeeper.Url

import TicketKeeper.Service.Handler
import TicketKeeper.Url.Basic

/-! A visitor of the service, who follows it when it points elsewhere. -/
namespace TicketKeeper.Service

open TicketKeeper.Text

def host : String := "testserver"

def address? (path : String) : Option Url := do
  let u ← Url.parse? path.toList
  if u.scheme.isEmpty || u.host.isEmpty then
    let (path, query) := cutAt '?' ('/' :: u.target.dropWhile (· == '/'))
    Url.ofComponents "http".toList host.toList path query none
  else some u

def wireText (s : String) : String :=
  String.ofList ((encodeUtf8 s.toList).map fun b => Char.ofNat b.toNat)

structure Visit where
  method : String
  headers : List (String × String) := []
  body : Bytes := []

/-- The escapes of a path are read twice, once by each side. -/
def Visit.request (v : Visit) (u : Url) : HttpRequest where
  method := String.ofList (v.method.toList.map Char.toUpper)
  path := String.ofList (Url.percentDecode (Url.percentDecode
    (if u.path.isEmpty then ['/'] else u.path)))
  query := String.ofList (u.query.getD [])
  headers := ("host", String.ofList u.authority) :: v.headers.map fun (n, v) => (n, wireText v)
  body := v.body

private def isLocationSafe (c : Char) : Bool :=
  (c.toNat < 128 && c.isAlphanum) || "_.-~:/%#?=@[]!$&'()*+,;".toList.contains c

def locationText (s : String) : List Char :=
  s.toList.flatMap fun c => if isLocationSafe c then [c] else Url.percentChar c

variable {τ : Type}

def maxRedirects : Nat := 20

def follow (s : Server τ) (v : Visit) : Nat → Url → Scene τ Store.Depot →
    Except Defect HttpResponse × Scene τ Store.Depot
  | n, u, scene =>
    let (response, scene) := s.handle (v.request u) scene
    match response.location, n with
    | none, _ => (.ok response, scene)
    | some _, 0 => (.error (.link .tooManyRedirects), scene)
    | some l, n + 1 => match Url.parse? (locationText l) with
      | some u => follow s v n u scene
      | none => (.error (.link .remoteProtocolError), scene)

def visit (s : Server τ) (v : Visit) (path : String) (scene : Scene τ Store.Depot) :
    Except Defect HttpResponse × Scene τ Store.Depot :=
  match address? path with
  | some u => follow s v maxRedirects u scene
  | none => (.error (.link .invalidUrl), scene)

end TicketKeeper.Service

import TicketKeeper.Tracker
import TicketKeeper.Text.Hex

/-! Recorded deliveries of the tracker's service, from which a link can be played back. A recording
is an object: either the fault that broke the link, or the status, headers and body of a reply. -/
namespace TicketKeeper

open TicketKeeper.Text

def recordedBytes (v : Json) (name : String) : Bytes :=
  match v.get name, v.get "hex" with
  | .str s, _ => encodeUtf8 s.toList
  | _, .str digits => bytesOfHex digits.toList
  | _, _ => []

def Reply.ofJson (v : Json) : Reply where
  status := match v.get "status" with
    | .int n => n
    | _ => 200
  headers := match v.get "headers" with
    | .obj headers => headers.map fun (name, value) => (name, value.text)
    | _ => []
  body := recordedBytes v "body"

/-- A reply is played back with headers in ASCII, or not at all. -/
def Delivery.played (r : Reply) : Delivery :=
  let isAscii (s : String) : Bool := s.toList.all (·.toNat < 128)
  if r.headers.all fun h => isAscii h.1 && isAscii h.2 then .reply r else .raised .unencodable

def Delivery.ofJson (v : Json) : Delivery :=
  match v.get "raise" with
  | .str name => ((LinkFault.named? name).map .broken).getD (.played (Reply.ofJson v))
  | _ => .played (Reply.ofJson v)

end TicketKeeper

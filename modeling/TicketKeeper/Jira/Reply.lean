import TicketKeeper.Tracker
import TicketKeeper.Jira.MediaType
import TicketKeeper.Json.Reader
import TicketKeeper.Packed.Coding

/-! Replies of the tracker's service, and what is read off them. -/
namespace TicketKeeper.Reply

open TicketKeeper.Text

def headerValues (r : Reply) (name : String) : List String :=
  (r.headers.filter fun h => h.1.toList.map Char.toLower == name.toList).map (·.2)

def header? (r : Reply) (name : String) : Option String :=
  match r.headerValues name with
  | [] => none
  | values => some (", ".intercalate values)

def isError (r : Reply) : Bool := 400 ≤ r.status && r.status ≤ 599

def json (r : Reply) (depth : Nat := Json.usualDepth) : Except Json.ReadFault Json :=
  Json.ofBytes r.body depth

def requiredJson (r : Reply) (depth : Nat := Json.usualDepth) : Except Defect Json :=
  (r.json depth).mapError fun
    | .malformed _ => .notJson
    | .encoding => .notText
    | .tooLong => .badValue
    | .tooDeep => .tooDeep
    | .unpaired => .unencodable

def charset (r : Reply) : Except Defect Charset := do
  match r.header? "content-type" with
  | some contentType => return (← MediaType.charset? contentType.toList).getD .utf8
  | none => return .utf8

def text (r : Reply) : Except Defect (List Char) := do
  if r.body.isEmpty then return []
  ((← r.charset).decodeLossy r.body).mapError fun
    | .notIncremental => .notIncremental
    | .notBytes => .wrongType
    | .undecodable => .undecodable
    | .malformed => .notText

def reasons : List (Int × String) := [
  (100, "Continue"), (101, "Switching Protocols"), (102, "Processing"), (103, "Early Hints"),
  (200, "OK"), (201, "Created"), (202, "Accepted"), (203, "Non-Authoritative Information"),
  (204, "No Content"), (205, "Reset Content"), (206, "Partial Content"), (207, "Multi-Status"),
  (208, "Already Reported"), (226, "IM Used"), (300, "Multiple Choices"),
  (301, "Moved Permanently"), (302, "Found"), (303, "See Other"), (304, "Not Modified"),
  (305, "Use Proxy"), (307, "Temporary Redirect"), (308, "Permanent Redirect"),
  (400, "Bad Request"), (401, "Unauthorized"), (402, "Payment Required"), (403, "Forbidden"),
  (404, "Not Found"), (405, "Method Not Allowed"), (406, "Not Acceptable"),
  (407, "Proxy Authentication Required"), (408, "Request Timeout"), (409, "Conflict"),
  (410, "Gone"), (411, "Length Required"), (412, "Precondition Failed"),
  (413, "Request Entity Too Large"), (414, "Request-URI Too Long"),
  (415, "Unsupported Media Type"), (416, "Requested Range Not Satisfiable"),
  (417, "Expectation Failed"), (418, "I'm a teapot"), (421, "Misdirected Request"),
  (422, "Unprocessable Entity"), (423, "Locked"), (424, "Failed Dependency"), (425, "Too Early"),
  (426, "Upgrade Required"), (428, "Precondition Required"), (429, "Too Many Requests"),
  (431, "Request Header Fields Too Large"), (451, "Unavailable For Legal Reasons"),
  (500, "Internal Server Error"), (501, "Not Implemented"), (502, "Bad Gateway"),
  (503, "Service Unavailable"), (504, "Gateway Timeout"), (505, "HTTP Version Not Supported"),
  (506, "Variant Also Negotiates"), (507, "Insufficient Storage"), (508, "Loop Detected"),
  (510, "Not Extended"), (511, "Network Authentication Required")]

def reason (r : Reply) : String := (reasons.lookup r.status).getD ""

def maxErrorText : Nat := 300

/-- The texts of a list of messages: the items of an array, the names of an object, the characters
of a string; a value that counts as absent has none. -/
def messageTexts (v : Json) : Except Defect (List String) :=
  if !v.isTruthy then .ok []
  else match v with
    | .arr items => .ok (items.map Json.text)
    | .obj members => .ok (members.map (·.1))
    | .str s => .ok (s.toList.map (String.ofList [·]))
    | _ => .error .wrongType

def fieldTexts : Json → List String
  | .obj members => members.map fun (name, v) => name ++ ": " ++ v.text
  | _ => []

/-- What a service says about an error: its messages, or its body, or the reason of the status. -/
def errorText (r : Reply) (depth : Nat := Json.usualDepth) : Except Defect String :=
  let cut (s : String) : String := String.ofList (s.toList.take maxErrorText)
  match r.json depth with
  | .error .tooDeep => .error .tooDeep
  | .error .unpaired => .error .unencodable
  | .error _ => r.text.map fun s => String.ofList (s.take maxErrorText)
  | .ok v => match v with
    | .obj _ => do
      let texts := (← messageTexts (v.get "errorMessages")) ++ fieldTexts (v.get "errors")
      let joined := cut ("; ".intercalate texts)
      return if joined = "" then r.reason else joined
    | _ => .ok (cut v.text)

def location? (r : Reply) : Option String :=
  if [301, 302, 303, 307, 308].contains r.status then r.header? "location" else none

/-- The codings of the body, the last one first; unknown ones are passed over. -/
def codings (r : Reply) : List Packed.Coding :=
  let names := (r.headerValues "content-encoding").flatMap fun v => splitAt ',' v.toList
  (names.filterMap fun n => Packed.Coding.named? ((trim n).map Char.toLower)).reverse

def opened (r : Reply) : Except Defect Reply :=
  match r.codings.foldlM (fun body coding => coding.unpack? body) r.body with
  | some body => .ok { r with body := body }
  | none => .error (.link .decodingError)

end TicketKeeper.Reply

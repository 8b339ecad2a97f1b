import TicketKeeper.Failure
import TicketKeeper.Text.Utf8

/-! Requests and answers of the web service. -/
namespace TicketKeeper.Service

open TicketKeeper.Text (Bytes)

structure HttpRequest where
  method : String
  path : String
  query : String := ""
  /-- Each character of a header stands for one byte. -/
  headers : List (String × String) := []
  body : Bytes := []

namespace HttpRequest

def header? (r : HttpRequest) (name : String) : Option String :=
  (r.headers.find? fun h => h.1.toList.map Char.toLower == name.toList).map (·.2)

end HttpRequest

inductive Content
  | empty
  | json (v : Json)
  | text (s : String)
  | violations (vs : List Violation)

structure HttpResponse where
  status : Int
  content : Content
  location : Option String := none

namespace HttpResponse

def detail (status : Int) (text : String) : HttpResponse :=
  ⟨status, .json (.obj [("detail", .str text)]), none⟩

/-- A failure is answered with its own status, which must be a number. -/
def ofFailure (f : Failure) : HttpResponse :=
  match f.httpStatus with
  | .int n => ⟨n, .json f.toJson, none⟩
  | _ => ⟨500, .text "Internal Server Error", none⟩

/-- Defects are not told apart. -/
def ofFault : Fault → HttpResponse
  | .failure f => ofFailure f
  | .invalid vs => ⟨422, .violations vs, none⟩
  | .defect _ => ⟨500, .text "Internal Server Error", none⟩

def headOnly (r : HttpResponse) : HttpResponse := { r with content := .empty }

end HttpResponse

end TicketKeeper.Service

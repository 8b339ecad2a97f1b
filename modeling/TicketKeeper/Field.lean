import TicketKeeper.Failure
import TicketKeeper.Text.Clean
import TicketKeeper.Store.Path

/-! Values of report fields. A value that is no text is taken as its text, null as the empty one. -/
namespace TicketKeeper.Field

def rawText : Json → List Char
  | .null => []
  | v => v.text.toList

def line (v : Json) : String := String.ofList (Text.cleanLine (rawText v))

def text (v : Json) : String := String.ofList (Text.cleanText (rawText v))

/-- The values that a list of names has: of a text its parts between commas, of an object its
names. A lone number or truth value is no list. -/
def items : Json → Except Defect (List Json)
  | .null => .ok []
  | .str s => .ok ((Text.splitAt ',' s.toList).map fun cs => .str (String.ofList cs))
  | .arr vs => .ok vs
  | .obj members => .ok (members.map fun m => .str m.1)
  | _ => .error .wrongType

def isPresent : Json → Bool
  | .null => false
  | _ => true

/-- The names of a list, cleaned, each in its first spelling; no more of them than the limit. Null
is within every limit. Where one of the values has no text there are no names. -/
def names (limit : Option Int) : Json → Except Defect (List String)
  | .null => .ok []
  | v => do
    let values ← items v
    let kept := Text.cleanNames ((values.filter isPresent).map fun v => v.text.toList)
    if !values.all Json.hasText then .error .badValue
    else if limit.any (fun n => n < (kept.length : Int)) then .error .tooManyItems
    else .ok (kept.map String.ofList)

/-- The directory name for a value. Null has a digest of its own. -/
def pathComponent (v : Json) : String :=
  String.ofList (Store.Path.componentOf (Text.cleanLine (rawText v)) v.text.toList)

end TicketKeeper.Field

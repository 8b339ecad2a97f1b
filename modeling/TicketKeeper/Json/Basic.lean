import TicketKeeper.Number.Decimal
import TicketKeeper.Text.Quoted

/-! JSON values. Whole numbers and decimals are apart, and the members of an object keep the order
in which their names first came. -/
namespace TicketKeeper

open TicketKeeper.Number (Binary64 FloatStyle)

inductive Json
  | null
  | bool (b : Bool)
  | int (n : Int)
  | float (x : Binary64)
  | str (s : String)
  | arr (items : List Json)
  | obj (members : List (String × Json))
deriving Inhabited

namespace Json

def setMember {α : Type} (name : String) (value : α) : List (String × α) → List (String × α)
  | [] => [(name, value)]
  | (n, v) :: r => if n = name then (n, value) :: r else (n, v) :: setMember name value r

theorem lookup_setMember_self {α : Type} (name : String) (value : α)
    (members : List (String × α)) :
    (setMember name value members).lookup name = some value := by
  fun_induction setMember name value members <;> grind

theorem lookup_setMember_of_ne {α : Type} {name other : String} (value : α) (h : other ≠ name)
    (members : List (String × α)) :
    (setMember name value members).lookup other = members.lookup other := by
  fun_induction setMember name value members <;> grind

def member? (name : String) (members : List (String × Json)) : Option Json := members.lookup name

/-- The member of that name; null when it is absent or the value is no object. -/
def get (v : Json) (name : String) : Json :=
  match v with
  | obj members => (member? name members).getD null
  | _ => null

/-- Null, false, zero and everything empty count as absent. -/
def isTruthy : Json → Bool
  | null => false
  | bool b => b
  | int n => n != 0
  | float x => !x.isZero
  | str s => s != ""
  | arr items => !items.isEmpty
  | obj members => !members.isEmpty

def ofOption {α : Type} (f : α → Json) : Option α → Json
  | some a => f a
  | none => null

def ofString? (s : Option String) : Json := ofOption str s
def ofInt? (n : Option Int) : Json := ofOption int n

/-- Decimals are positional from 10^-4 up to 10^16 and keep a digit behind the point. -/
def floatStyle : FloatStyle := ⟨-4, 16, 2, "inf", "nan"⟩

mutual

def shown : Json → List Char
  | null => "None".toList
  | bool true => "True".toList
  | bool false => "False".toList
  | int n => (toString n).toList
  | float x => x.write floatStyle
  | str s => Text.quoted s.toList
  | arr items => '[' :: shownItems items ++ [']']
  | obj members => '\x7b' :: shownMembers members ++ ['\x7d']

def shownItems : List Json → List Char
  | [] => []
  | [v] => shown v
  | v :: vs => shown v ++ [',', ' '] ++ shownItems vs

def shownMembers : List (String × Json) → List Char
  | [] => []
  | [(n, v)] => Text.quoted n.toList ++ [':', ' '] ++ shown v
  | (n, v) :: ms => Text.quoted n.toList ++ [':', ' '] ++ shown v ++ [',', ' '] ++ shownMembers ms

end

mutual

/-- Whether every whole number in a value has a numeral, so that the value has a text. -/
def hasText : Json → Bool
  | int n => Number.isWritable n
  | arr items => itemsHaveText items
  | obj members => membersHaveText members
  | _ => true

def itemsHaveText : List Json → Bool
  | [] => true
  | v :: vs => hasText v && itemsHaveText vs

def membersHaveText : List (String × Json) → Bool
  | [] => true
  | (_, v) :: ms => hasText v && membersHaveText ms

end

def text : Json → String
  | str s => s
  | v => String.ofList (shown v)

end Json

end TicketKeeper

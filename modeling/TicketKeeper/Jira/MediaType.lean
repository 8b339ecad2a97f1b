import TicketKeeper.Failure
import TicketKeeper.Text.CharsetName
import TicketKeeper.Text.Split

/-! Parameters of a content type. A parameter may be written in numbered parts, and its value as
escaped bytes behind the names of a character set and a language. -/
namespace TicketKeeper.MediaType

open TicketKeeper.Text

def parts (quoted escaped : Bool) : List Char → List (List Char)
  | [] => [[]]
  | c :: r =>
    if c == ';' && !quoted then [] :: parts false false r
    else match parts (if c == '"' && !escaped then !quoted else quoted) (c == '\\') r with
      | [] => [[c]]
      | p :: ps => (c :: p) :: ps

def dropEscapes (c : Char) : List Char → List Char
  | '\\' :: y :: r => if y == c then c :: dropEscapes c r else '\\' :: dropEscapes c (y :: r)
  | x :: r => x :: dropEscapes c r
  | [] => []

def unquoted (s : List Char) : List Char :=
  if s.length < 2 then s
  else if s.head? == some '"' && s.getLast? == some '"' then
    dropEscapes '"' (dropEscapes '\\' (s.drop 1).dropLast)
  else if s.head? == some '<' && s.getLast? == some '>' then (s.drop 1).dropLast
  else s

structure Parameter where
  name : List Char
  value : List Char
deriving DecidableEq

def parameter (part : List Char) : Parameter :=
  match cutAt '=' part with
  | (name, some value) => ⟨(trim name).map Char.toLower, trim value⟩
  | (name, none) => ⟨trim name, []⟩

/-- One part of a parameter that is written in parts. -/
structure Segment where
  name : List Char
  number : Option Nat
  value : List Char
  escaped : Bool

private def isWordChar (c : Char) : Bool := c.isAlphanum || c == '_'

def segment? (p : Parameter) : Option Segment :=
  match p.name.span isWordChar with
  | (c :: name, '*' :: r) =>
    let digits := r.takeWhile Char.isDigit
    let rest := r.drop digits.length
    let number := Number.ofDigits (digits.map fun c => c.toNat - 48)
    if rest.isEmpty || (!digits.isEmpty && rest == ['*']) then
      some ⟨c :: name, if digits.isEmpty then none else some number, unquoted p.value,
        p.name.getLast? == some '*'⟩
    else none
  | _ => none

def Segment.isBefore (a b : Segment) : Bool :=
  let isLess := a.value < b.value || (a.value == b.value && !a.escaped && b.escaped)
  match a.number, b.number with
  | some m, some n => m < n || (m == n && isLess)
  | _, _ => isLess

private def insertSegment (s : Segment) : List Segment → List Segment
  | [] => [s]
  | t :: r => if t.isBefore s then t :: insertSegment s r else s :: t :: r

def readEscapes : List Char → List Char
  | '%' :: a :: b :: r =>
    match hexValue? a, hexValue? b with
    | some x, some y => Char.ofNat (x * 16 + y) :: readEscapes r
    | _, _ => '%' :: readEscapes (a :: b :: r)
  | c :: r => c :: readEscapes r
  | [] => []

def Segment.text (s : Segment) : List Char := if s.escaped then readEscapes s.value else s.value

def inCharset (set value : List Char) : Except Defect (List Char) :=
  let set := if set.isEmpty then "us-ascii".toList else set
  if set.contains '\x00' then .error .badValue
  else
    let bytes := value.map fun c => UInt8.ofNat c.toNat
    .ok (((Charset.named? set).bind fun set => set.decode? false bytes).getD value)

def joined (segments : List Segment) : Except Defect (List Char) :=
  let value := (segments.foldr insertSegment []).flatMap Segment.text
  if segments.any (·.escaped) then
    match splitAt '\'' value with
    | set :: _ :: third :: more => inCharset set (['\''].intercalate (third :: more))
    | _ => inCharset [] value
  else .ok value

/-- Numbered segments of a name cannot be put in order with others of it. -/
def isMixed (segments : List Segment) : Bool :=
  segments.any fun s => s.number.isNone &&
    segments.any fun t => t.name == s.name && t.number.isSome

private def isNamed (name other : List Char) : Bool := other.map Char.toLower == name

/-- The value of a parameter, the first of that name. The content type itself may stand as one. -/
def value? (contentType name : List Char) : Except Defect (Option (List Char)) := do
  let parameters := (parts false false contentType).map parameter
  let segments := (parameters.drop 1).filterMap segment?
  if isMixed segments then throw .wrongType
  match parameters.find? (isNamed name ·.name) with
  | some p => return some (unquoted p.value)
  | none => match segments.find? (isNamed name ·.name) with
    | none => return none
    | some s => return some (← joined (segments.filter (·.name == s.name)))

def charset? (contentType : List Char) : Except Defect (Option Charset) := do
  match ← value? contentType "charset".toList with
  | none => return none
  | some name =>
    if name.any (127 < ·.toNat) then return none
    else if name.contains '\x00' then throw .badValue
    else return Charset.named? name

end TicketKeeper.MediaType

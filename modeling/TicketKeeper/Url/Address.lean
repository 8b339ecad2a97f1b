import TicketKeeper.Number.Integer
import TicketKeeper.Text.Hex
import TicketKeeper.Text.Split

/-! Numeric addresses of hosts: four numbers between points, or groups of hexadecimal digits between
colons. -/
namespace TicketKeeper.Url.Address

open TicketKeeper.Text

def isOctet (s : List Char) : Bool :=
  !s.isEmpty && s.length ≤ 3 && s.all Char.isDigit && (s.length == 1 || s.head? != some '0') &&
    Number.ofDigits (s.map fun c => c.toNat - 48) ≤ 255

def isShort (s : List Char) : Bool :=
  let groups := splitAt '.' s
  groups.length == 4 && groups.all isOctet

private def leads (c : Char) (state target : Nat) : Bool :=
  (c.isDigit && target == state + 1 - state % 2) ||
    (state % 2 == 1 && state < 7 && target == state + 1)

/-- Whether a text is four groups of digits with any characters between, and so must be an
address. -/
def looksShort (s : List Char) : Bool :=
  (s.foldl (fun states c => (List.range 8).filter fun t => states.any (leads c · t)) [0]).contains 7

def isGroup (s : List Char) : Bool := !s.isEmpty && s.length ≤ 4 && s.all isHexDigit

def longGroups? (s : List Char) : Option (List (List Char)) :=
  let groups := splitAt ':' s
  let last := groups.getLast?.getD []
  if groups.length < 3 then none
  else if last.contains '.' then
    if isShort last then some (groups.dropLast ++ [['0'], ['0']]) else none
  else some groups

def areGroups (groups : List (List Char)) : Bool :=
  let inner := (groups.drop 1).dropLast
  match inner.findIdx? List.isEmpty with
  | none => groups.length == 8 && groups.all isGroup
  | some i =>
    let high := groups.take (i + 1)
    let low := groups.drop (i + 2)
    let high := if high == [[]] then [] else high
    let low := if low == [[]] then [] else low
    groups.length ≤ 9 && high.length + low.length ≤ 7 && high.all isGroup && low.all isGroup

def isLong (s : List Char) : Bool :=
  let (address, zone) := cutAt '%' s
  !s.contains '/' && (zone.map fun z => !z.isEmpty && !z.contains '%').getD true &&
    ((longGroups? address).map areGroups).getD false

end TicketKeeper.Url.Address

/-! Upper case as far as it reaches ASCII. A word compared with an ASCII word needs no more: all
other characters keep a form that no ASCII word contains. -/
namespace TicketKeeper.Text

def upperWide (c : Char) : List Char :=
  match c.toNat with
  | 0xDF => ['S', 'S']
  | 0x131 => ['I']
  | 0x149 => ['ʼ', 'N']
  | 0x17F => ['S']
  | 0x1F0 => ['J', '\u030c']
  | 0x1E96 => ['H', '\u0331']
  | 0x1E97 => ['T', '\u0308']
  | 0x1E98 => ['W', '\u030a']
  | 0x1E99 => ['Y', '\u030a']
  | 0x1E9A => ['A', 'ʾ']
  | 0xFB00 => ['F', 'F']
  | 0xFB01 => ['F', 'I']
  | 0xFB02 => ['F', 'L']
  | 0xFB03 => ['F', 'F', 'I']
  | 0xFB04 => ['F', 'F', 'L']
  | 0xFB05 => ['S', 'T']
  | 0xFB06 => ['S', 'T']
  | _ => [c]

def upper (s : List Char) : List Char :=
  s.flatMap fun c => if c.toNat < 128 then [c.toUpper] else upperWide c

end TicketKeeper.Text

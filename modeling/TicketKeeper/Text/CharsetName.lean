import TicketKeeper.Text.Charset
import TicketKeeper.Text.Table.Names
import TicketKeeper.Text.Table.SingleByte

/-! Character sets by name. Case does not matter, nor which characters stand between the letters and
digits of a name. -/
namespace TicketKeeper.Text.Charset

/-- Letters, digits and points, with one underscore for each run of others between them. The flag
tells that such a run has begun. -/
def normalName (inRun : Bool) : List Char → List Char
  | [] => []
  | c :: r =>
    if c.isAlphanum || c == '.' then
      (if inRun then ['_', c.toLower] else [c.toLower]) ++ normalName false r
    else normalName true r

def ofKept? (name : String) : Option Charset :=
  [("utf_8", utf8), ("utf_8_sig", utf8Marked), ("utf_16", utf16 none),
    ("utf_16_le", utf16 (some .little)), ("utf_16_be", utf16 (some .big)), ("utf_32", utf32 none),
    ("utf_32_le", utf32 (some .little)), ("utf_32_be", utf32 (some .big)), ("utf_7", utf7),
    ("ascii", ascii), ("latin_1", latin1), ("iso8859_1", latin1), ("charmap", latin1),
    ("unicode_escape", escapes), ("raw_unicode_escape", rawEscapes), ("punycode", punycode),
    ("shift_jis", doubleByte .shiftJis), ("shift_jis_2004", doubleByte .shiftJis),
    ("shift_jisx0213", doubleByte .shiftJis), ("cp932", doubleByte .shiftJisVendor),
    ("euc_jp", doubleByte .eucJp), ("euc_jis_2004", doubleByte .eucJp),
    ("euc_jisx0213", doubleByte .eucJp), ("iso2022_jp", iso2022 .japanese),
    ("iso2022_jp_1", iso2022 .japaneseFull), ("iso2022_jp_2", iso2022 .multilingual),
    ("iso2022_jp_2004", iso2022 .japanese), ("iso2022_jp_3", iso2022 .japanese),
    ("iso2022_jp_ext", iso2022 .japaneseNarrow), ("euc_kr", doubleByte .eucKr),
    ("cp949", doubleByte .eucKrVendor), ("iso2022_kr", iso2022 .korean),
    ("johab", doubleByte .letterwise),
    ("gb2312", doubleByte .gb2312), ("gbk", doubleByte .gbk), ("gb18030", doubleByte .gb18030),
    ("hz", tilde), ("big5", doubleByte .big5), ("big5hkscs", doubleByte .big5),
    ("cp950", doubleByte .bigVendor), ("hex_codec", packed), ("base64_codec", packed),
    ("bz2_codec", packed), ("zlib_codec", packed), ("uu_codec", packed), ("quopri_codec", packed),
    ("rot_13", rotated), ("idna", hostNames), ("undefined", undefined)].lookup name

/-- A set by any of its names; a point counts as an underscore in the other names only. -/
def named? (name : List Char) : Option Charset :=
  let key := String.ofList ((normalName false name).dropWhile (· == '_'))
  let undotted := key.map fun c => if c == '.' then '_' else c
  let isAlias (key : String) (e : String × List String) : Bool := e.2.contains key
  let kept? := ((Table.charsetNames.find? (isAlias key)).or
    (Table.charsetNames.find? (isAlias undotted))).or
      (Table.charsetNames.find? (·.1 == key))
  kept?.bind fun e => (ofKept? e.1).or ((Table.singleByte.lookup e.1).map singleByte)

end TicketKeeper.Text.Charset

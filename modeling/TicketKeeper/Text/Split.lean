import TicketKeeper.Text.Blank

/-! Trimming and splitting of texts, as lists of characters: fields between separators, words
between blanks, and lines. -/
namespace TicketKeeper.Text

def dropEndWhile (p : Char → Bool) (s : List Char) : List Char :=
  (s.reverse.dropWhile p).reverse

def trimBy (p : Char → Bool) (s : List Char) : List Char :=
  dropEndWhile p (s.dropWhile p)

def trimEnd (s : List Char) : List Char := dropEndWhile isBlank s

def trim (s : List Char) : List Char := trimBy isBlank s

/-- The fields between the separators; there is one more field than separators. -/
def fields (p : Char → Bool) : List Char → List (List Char)
  | [] => [[]]
  | c :: r =>
    if p c then [] :: fields p r
    else match fields p r with
      | [] => [[c]]
      | w :: ws => (c :: w) :: ws

def splitAt (sep : Char) (s : List Char) : List (List Char) := fields (· == sep) s

def words (s : List Char) : List (List Char) :=
  (fields isBlank s).filter (fun w => !w.isEmpty)

def unwords (ws : List (List Char)) : List Char := [' '].intercalate ws

def joinLines (ls : List (List Char)) : List Char := ['\n'].intercalate ls

def lines : List Char → List (List Char)
  | [] => []
  | '\r' :: '\n' :: r => [] :: lines r
  | c :: r =>
    if isLineBoundary c then [] :: lines r
    else match lines r with
      | [] => [[c]]
      | l :: ls => (c :: l) :: ls

def cutAt (sep : Char) (s : List Char) : List Char × Option (List Char) :=
  match s.dropWhile (· != sep) with
  | [] => (s, none)
  | _ :: r => (s.takeWhile (· != sep), some r)

theorem fields_ne_nil (p : Char → Bool) (s : List Char) : fields p s ≠ [] := by
  cases s with
  | nil => simp [fields]
  | cons c r =>
    unfold fields
    split
    · simp
    · split <;> simp

end TicketKeeper.Text

import TicketKeeper.Text.Utf8

/-! A tree of files below a root. A place is given by the names that lead to it from the root, which
itself has none; a path may also go up again, by two points. -/
namespace TicketKeeper.Store

open TicketKeeper.Text (Bytes)

inductive Node
  | file (content : Bytes)
  | directory
deriving DecidableEq, Repr

inductive FileError
  | notFound
  | notDirectory
  | isDirectory
  | exists
  | nameTooLong
  | noSpace
deriving DecidableEq, Repr

structure FileTree where
  entries : List (List String × Node)

namespace FileTree

def empty : FileTree := ⟨[([], .directory)]⟩

def absent : FileTree := ⟨[]⟩

def node? (t : FileTree) (path : List String) : Option Node := t.entries.lookup path

def putEntry (path : List String) (n : Node) :
    List (List String × Node) → List (List String × Node)
  | [] => [(path, n)]
  | e :: r => if e.1 = path then (path, n) :: r else e :: putEntry path n r

def put (t : FileTree) (path : List String) (n : Node) : FileTree := ⟨putEntry path n t.entries⟩

theorem node?_put_self (t : FileTree) (path : List String) (n : Node) :
    (t.put path n).node? path = some n := by
  simp only [put, node?]
  fun_induction putEntry path n t.entries <;> grind

theorem node?_put_of_ne {path other : List String} (h : other ≠ path) (t : FileTree) (n : Node) :
    (t.put path n).node? other = t.node? other := by
  simp only [put, node?]
  fun_induction putEntry path n t.entries <;> grind

def erase (t : FileTree) (path : List String) : FileTree :=
  ⟨t.entries.filter fun e => e.1 != path⟩

def maxName : Nat := 255
def maxPath : Nat := 4095

/-- How many bytes a path takes, each name with the slash in front of it. -/
def pathSize : List String → Nat
  | [] => 0
  | name :: r => name.utf8ByteSize + 1 + pathSize r

theorem pathSize_append (path more : List String) :
    pathSize (path ++ more) = pathSize path + pathSize more := by
  induction path with
  | nil => exact (Nat.zero_add _).symm
  | cons name r ih =>
    rw [List.cons_append, pathSize, pathSize, ih]
    omega

/-- The place to which a path leads from `here`. All that it passes must be directories. -/
def follow (t : FileTree) (here : List String) : List String → Except FileError (List String)
  | [] => .ok here
  | name :: r => match t.node? here with
    | some .directory =>
      if maxName < name.utf8ByteSize then .error .nameTooLong
      else follow t (if name = ".." then here.dropLast else here ++ [name]) r
    | some (.file _) => .error .notDirectory
    | none => .error .notFound

def locate (t : FileTree) (path : List String) : Except FileError (List String) :=
  if maxPath < pathSize path then .error .nameTooLong else t.follow [] path

def read (t : FileTree) (path : List String) : Except FileError Bytes := do
  match t.node? (← t.locate path) with
  | some (.file content) => return content
  | some .directory => throw .isDirectory
  | none => throw .notFound

def makeDirectory (t : FileTree) (path : List String) : Except FileError FileTree := do
  let place ← t.locate path
  match t.node? place with
  | some .directory => return t
  | some (.file _) => throw .exists
  | none => return t.put place .directory

/-- Makes a directory behind those on the way to it that are missing; the names are in reverse. What
has been made stays when a later one fails. -/
def makeAll : List String → FileTree → Except FileError Unit × FileTree
  | [], t => match t.makeDirectory [] with
    | .ok t => (.ok (), t)
    | .error e => (.error e, t)
  | name :: parent, t =>
    let path := (name :: parent).reverse
    match t.makeDirectory path with
    | .ok t => (.ok (), t)
    | .error .notFound => match makeAll parent t with
      | (.ok (), t) => match t.makeDirectory path with
        | .ok t => (.ok (), t)
        | .error e => (.error e, t)
      | failure => failure
    | .error e => (.error e, t)

def makeDirectories (t : FileTree) (path : List String) : Except FileError Unit × FileTree :=
  makeAll path.reverse t

def stagingName (n : Nat) : String :=
  let digits := (toString n).toList
  let padded := String.ofList (List.replicate (8 - digits.length) '0' ++ digits)
  s!".issue-{padded}.tmp"

/-- A name that nothing in the directory has: one more candidate than entries are tried. -/
def freshName (t : FileTree) (directory : List String) : String :=
  ((List.range (t.entries.length + 1)).map stagingName).find?
    (fun name => (t.node? (directory ++ [name])).isNone) |>.getD (stagingName 0)

def stage (t : FileTree) (directory : List String) :
    Except FileError (List String × FileTree) := do
  let place ← t.locate directory
  let staged := place ++ [t.freshName place]
  if maxPath < pathSize staged then throw .nameTooLong
  return (staged, t.put staged (.file []))

/-- Writes the content of a file, where there is room for so many bytes, or for all there may be. Of
a content that is too long the file gets the first bytes. -/
def fill (t : FileTree) (place : List String) (content : Bytes) (room : Option Nat) :
    Except FileError Unit × FileTree :=
  match room.filter (· < content.length) with
  | some n => (.error .noSpace, t.put place (.file (content.take n)))
  | none => (.ok (), t.put place (.file content))

def rename (t : FileTree) (source path : List String) : Except FileError FileTree := do
  let target ← t.locate path
  match t.node? source, t.node? target with
  | none, _ => throw .notFound
  | _, some .directory => throw .isDirectory
  | some n, _ => return (t.erase source).put target n

def remove (t : FileTree) (path : List String) : Except FileError FileTree := do
  let place ← t.locate path
  match t.node? place with
  | some (.file _) => return t.erase place
  | some .directory => throw .isDirectory
  | none => throw .notFound

end FileTree

end TicketKeeper.Store

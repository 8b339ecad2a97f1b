import TicketKeeper.Store.Path
import TicketKeeper.Store.IssueFile
import TicketKeeper.Store.FileTree

/-! The store that keeps one issue file in a directory for each job. A file is written beside its
place and then moved there, so that a reader never sees half of it. The disk may have room for a
part of a file only. -/
namespace TicketKeeper.Store.Directory

open TicketKeeper.Text

def fileName : String := "issue.txt"

def folder (root : List String) (job : String) : List String := root ++ [Path.component job]

def place (root : List String) (job : String) : List String := folder root job ++ [fileName]

def isPath (root : List String) : Bool := root.all fun name => !name.toList.contains '\x00'

def load (root : List String) (job : String) (t : FileTree) : Except Fault (Option Record) :=
  if !isPath root then .error (.defect .badValue)
  else match t.read (place root job) with
  | .error .notFound => .ok none
  | .error _ => .error (failed .read job)
  | .ok content => match decodeUtf8? content with
    | none => .error (.defect .notText)
    | some text => .ok (IssueFile.decode text)

/-- Writes the content beside the place and moves it there; a file that cannot be written or moved
is taken away again. -/
def write (root : List String) (job : String) (content : Bytes) (t : FileTree)
    (room : Option Nat := none) : Except Fault Unit × FileTree :=
  if !isPath root then (.error (.defect .badValue), t)
  else match t.makeDirectories (folder root job) with
  | (.error _, t) => (.error (failed .write job), t)
  | (.ok (), t) => match t.stage (folder root job) with
    | .error _ => (.error (failed .write job), t)
    | .ok (staged, t) => match t.fill staged content room with
      | (.error _, t) => (.error (failed .write job), t.erase staged)
      | (.ok (), t) => match t.rename staged (place root job) with
        | .ok t => (.ok (), t)
        | .error _ => (.error (failed .write job), t.erase staged)

/-- A missing key is written as a missing value is shown. -/
def save (root : List String) (job : String) (key : Option String) (build : Option Int)
    (t : FileTree) (room : Option Nat := none) : Except Fault Unit × FileTree :=
  if build.all Number.isWritable then
    write root job (encodeUtf8 (IssueFile.encode (key.getD Json.null.text) build)) t room
  else (.error (.defect .badValue), t)

def markBuild (root : List String) (job : String) (build : Option Int) (t : FileTree)
    (room : Option Nat := none) : Except Fault Unit × FileTree :=
  match load root job t with
  | .error f => (.error f, t)
  | .ok none => (.ok (), t)
  | .ok (some r) => save root job (some r.key) build t room

def clear (root : List String) (job : String) (t : FileTree) : Except Fault Unit × FileTree :=
  if !isPath root then (.error (.defect .badValue), t)
  else match t.remove (place root job) with
  | .ok t => (.ok (), t)
  | .error .notFound => (.ok (), t)
  | .error _ => (.error (failed .delete job), t)

end TicketKeeper.Store.Directory

namespace TicketKeeper.Store

/-- The store in the directory at `root`, on a disk with room for files of so many bytes. -/
def directory (root : List String) (room : Option Nat := none) : Store FileTree where
  load job t := (Directory.load root job t, t)
  save job key build t := Directory.save root job key build t room
  markBuild job build t := Directory.markBuild root job build t room
  clear := Directory.clear root

end TicketKeeper.Store

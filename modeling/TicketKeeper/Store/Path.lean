import TicketKeeper.Text.Clean
import TicketKeeper.Digest.Sha256

/-! Directory names of jobs. A name has a readable part, which many jobs may share, and the
beginning of the digest of the raw job name, which keeps them apart. A job name is a text of Unicode
scalars: half of a surrogate pair alone has no bytes, and a report that has one is refused before
any store is asked. -/
namespace TicketKeeper.Store.Path

open TicketKeeper.Text

def isSafe (c : Char) : Bool :=
  c.isAlphanum || c == '.' || c == '_' || c == '-'

/-- Each run of characters that are not safe becomes one underscore. The flag tells that such a
run has begun. -/
def replaceRuns : Bool → List Char → List Char
  | _, [] => []
  | inRun, c :: r =>
    if isSafe c then c :: replaceRuns false r
    else if inRun then replaceRuns true r
    else '_' :: replaceRuns true r

def maxReadable : Nat := 80

def readable (line : List Char) : List Char :=
  match (trimBy (fun c => c == '.' || c == '_') (replaceRuns false line)).take maxReadable with
  | [] => ['j', 'o', 'b']
  | cs => cs

def mark (raw : List Char) : List Char := (Sha256.hexDigest (encodeUtf8 raw)).take 12

theorem length_mark (raw : List Char) : (mark raw).length = 12 := by
  rw [mark, List.length_take, Sha256.length_hexDigest]
  rfl

def componentOf (line raw : List Char) : List Char := readable line ++ '-' :: mark raw

def component (job : String) : String :=
  String.ofList (componentOf (cleanLine job.toList) job.toList)

/-- The mark stands at the end, so names with different marks get different directories. -/
theorem mark_eq_of_component_eq {job other : String} (h : component job = component other) :
    mark job.toList = mark other.toList := by
  have chars := congrArg String.toList h
  simp only [component, componentOf, String.toList_ofList] at chars
  have ends := List.append_inj_right' chars (by simp [length_mark])
  exact (List.cons.inj ends).2

end TicketKeeper.Store.Path

import TicketKeeper.Service.Endpoint

/-! Where the paths of tickets lead. Everything between the two fixed parts is the job, with its
slashes and whatever it ends in; only a line feed is not taken. -/
namespace TicketKeeper.Service

namespace Endpoint

def ticketAt (job : List Char) : List Char := jobsPath ++ (job ++ ticketPath)

variable {job rest : List Char}

theorem jobs_ne (rest : List Char) {path : List Char} (other : path.take 10 ≠ jobsPath) :
    jobsPath ++ rest ≠ path := by
  rintro rfl
  exact other rfl

theorem ofPath?_jobs (ends : rest.getLast? ≠ some '\n') :
    ofPath? (jobsPath ++ rest) = (job? (jobsPath ++ rest)).map .ticket := by
  have whole : dropFeed (jobsPath ++ rest) = jobsPath ++ rest := by
    rw [dropFeed, if_neg]
    rw [List.getLast?_append]
    intro feed
    cases last : rest.getLast? with
    | none =>
      rw [last] at feed
      revert feed
      decide
    | some c =>
      rw [last] at feed ends
      exact ends feed
  have page : pagePaths.contains (jobsPath ++ rest) = false := by
    rw [List.contains_eq_mem, decide_eq_false_iff_not]
    intro listed
    simp only [pagePaths, List.mem_cons, List.not_mem_nil, or_false] at listed
    rcases listed with same | same | same
    · exact jobs_ne rest (by decide) same
    · exact jobs_ne rest (by decide) same
    · exact jobs_ne rest (by decide) same
  rw [ofPath?, whole, if_neg (jobs_ne rest (by decide)), if_neg (jobs_ne rest (by decide)), page]
  rfl

theorem getLast?_ticketPath (job : List Char) : (job ++ ticketPath).getLast? = some 't' := by
  rw [List.getLast?_append]
  cases job.getLast? <;> rfl

theorem job?_ticketAt (job : List Char) :
    job? (ticketAt job) = if job.contains '\n' then none else some job := by
  have front : jobsPath.isPrefixOf (ticketAt job) = true :=
    List.isPrefixOf_iff_prefix.mpr (List.prefix_append _ _)
  have back : ticketPath.isSuffixOf (job ++ ticketPath) = true :=
    List.isSuffixOf_iff_suffix.mpr (List.suffix_append _ _)
  rw [job?, if_pos front, ticketAt, List.drop_left, if_pos back, List.length_append,
    Nat.add_sub_cancel, List.take_left]

theorem job?_slash (rest : List Char) : job? (jobsPath ++ (rest ++ ['/'])) = none := by
  have front : jobsPath.isPrefixOf (jobsPath ++ (rest ++ ['/'])) = true :=
    List.isPrefixOf_iff_prefix.mpr (List.prefix_append _ _)
  have back : ticketPath.isSuffixOf (rest ++ ['/']) = false := by
    rw [Bool.eq_false_iff]
    intro ends
    obtain ⟨front, same⟩ := List.isSuffixOf_iff_suffix.mp ends
    have last := getLast?_ticketPath front
    rw [same, List.getLast?_concat] at last
    exact absurd last (by decide)
  rw [job?, if_pos front, List.drop_left]
  exact if_neg (by simp [back])

end Endpoint

theorem allows_of_route {method : String} {path : List Char} {e : Endpoint}
    (h : route method path = .run e) : e.allows method = true := by
  unfold route at h
  split at h
  · split at h
    · cases h
      assumption
    · cases h
  · dsimp only at h
    repeat' split at h
    all_goals cases h

open Endpoint (ticketAt)

/-- The path of a job's ticket leads to it, unless the job has a line feed: it is unknown then. -/
theorem route_ticketAt {method : String} (allowed : method = "GET" ∨ method = "DELETE")
    (job : List Char) :
    route method (ticketAt job) = if job.contains '\n' then .unknown else .run (.ticket job) := by
  have found : Endpoint.ofPath? (ticketAt job) =
      if job.contains '\n' then none else some (.ticket job) := by
    have ends : (job ++ Endpoint.ticketPath).getLast? ≠ some '\n' := by
      rw [Endpoint.getLast?_ticketPath]
      decide
    rw [ticketAt, Endpoint.ofPath?_jobs ends, ← ticketAt, Endpoint.job?_ticketAt]
    split <;> rfl
  rw [route, found]
  cases job.contains '\n' with
  | false => rcases allowed with rfl | rfl <;> rfl
  | true =>
    have last : (ticketAt job).getLast? = some 't' := by
      rw [ticketAt, List.getLast?_append, Endpoint.getLast?_ticketPath]
      rfl
    have lost : Endpoint.ofPath? (ticketAt job ++ ['/']) = none := by
      rw [ticketAt, List.append_assoc, Endpoint.ofPath?_jobs (by simp), Endpoint.job?_slash]
      rfl
    simp [last, lost]

end TicketKeeper.Service

import TicketKeeper.Proofs.Jira.Sending
import TicketKeeper.Proofs.Reporting
import TicketKeeper.Proofs.Url.Hosted

/-! Where requests go. Keys are put into the paths of requests as they are, and not as parts of
them: a request goes where its key says exactly when the key stands for itself as a part of a
path. -/
namespace TicketKeeper.Jira.Client

open TicketKeeper.Url (IsHost IsSegment rootedPath)

variable {c : Client} {o : Outgoing} {r : Request}

theorem forRequest?_of_request (h : c.request o = .ok r) :
    Url.forRequest? (c.baseUrl.toList ++ o.path.toList) (o.query.map String.toList) =
      some r.url := by
  unfold request at h
  split at h
  · rename_i addressed
    split at h
    · cases h
    · cases h
      rwa [String.toList_append] at addressed
  · cases h

/-- A call whose path has a key as one of its parts, and a query that is written as it is. -/
structure Splices (o : Outgoing) (front : List String) (key : String) (back : List String)
    (query : String) : Prop where
  path : o.path.toList = rootedPath ((front ++ key :: back).map String.toList)
  query : ((o.query.map String.toList).map (Url.percentEncode Url.isQuerySafe)).getD [] =
    query.toList
  plain : ∀ part ∈ front ++ back, IsSegment part.toList ∧ '%' ∉ part.toList

theorem leadsTo_iff {host : String} (base : c.baseUrl = "https://" ++ host)
    (isHost : IsHost host.toList) {front back : List String} {key query : String}
    (splices : Splices o front key back query) (h : c.request o = .ok r) :
    r.url.LeadsTo (front ++ key :: back) query ↔ IsSegment key.toList := by
  have addressed := forRequest?_of_request h
  rw [base, String.toList_append, splices.path, List.append_assoc] at addressed
  have rooted : ∃ t, rootedPath ((front ++ key :: back).map String.toList) = '/' :: t := by
    cases front <;> exact ⟨_, rfl⟩
  have parts {part : String} (hpart : part ∈ front ++ key :: back) :
      part = key ∨ part ∈ front ++ back := by
    simp only [List.mem_append, List.mem_cons] at hpart ⊢
    tauto
  constructor
  · rintro ⟨leads, -⟩
    refine Url.isSegment_of_mem_segments isHost rooted ?_ addressed ?_
    · intro w hw
      obtain ⟨part, hpart, rfl⟩ := List.mem_map.mp hw
      exact (parts hpart).imp (congrArg String.toList) fun other => (splices.plain part other).2
    · rw [leads]
      exact List.mem_map_of_mem (List.mem_append_right _ List.mem_cons_self)
  · intro segment
    obtain ⟨leads, own⟩ := Url.segments_of_isSegment isHost rooted (by
      intro w hw
      obtain ⟨part, hpart, rfl⟩ := List.mem_map.mp hw
      obtain rfl | other := parts hpart
      · exact segment
      · exact (splices.plain part other).1) addressed
    exact ⟨leads, by rw [own, splices.query]⟩

def issueParts : List String := ["rest", "api", "3", "issue"]

def projectParts : List String := ["rest", "api", "3", "project"]

theorem toList_issue :
    "/rest/api/3/issue/".toList = rootedPath (issueParts.map String.toList) ++ ['/'] := by decide

theorem splices_status (key : String) :
    Splices (.status key) issueParts (bareKey key) [] "fields=status" where
  path := by simp [Outgoing.status, toString, toList_issue, rootedPath]
  query := by
    change Url.percentEncode Url.isQuerySafe "fields=status".toList = _
    decide
  plain := by decide

theorem splices_comment (key text : String) :
    Splices (.comment key text) issueParts (bareKey key) ["comment"] "" where
  path := by
    have back : "/comment".toList = rootedPath (["comment"].map String.toList) := by decide
    simp [Outgoing.comment, toString, toList_issue, back, rootedPath]
  query := rfl
  plain := by decide

theorem splices_components (project : String) :
    Splices (.components project) projectParts project ["components"] "" where
  path := by
    have front : "/rest/api/3/project/".toList =
        rootedPath (projectParts.map String.toList) ++ ['/'] := by decide
    have back : "/components".toList = rootedPath (["components"].map String.toList) := by decide
    simp [Outgoing.components, toString, front, back, rootedPath]
  query := rfl
  plain := by decide

/-- The requests for a ticket and for the components of a project go where their keys say, with
nothing but the query they ask for, exactly when the key stands for itself as a part of a path:
without slashes, question marks, number signs and escapes, and not as one point or two. -/
theorem keys_addressed_iff (c : Client) {host : String} (base : c.baseUrl = "https://" ++ host)
    (isHost : IsHost host.toList) (link : Link) :
    (∀ key, ∀ x ∈ sent (c.status key link).wire,
      x.1.url.LeadsTo ["rest", "api", "3", "issue", bareKey key] "fields=status" ↔
        IsSegment (bareKey key).toList) ∧
      (∀ key text, ∀ x ∈ sent (c.comment key text link).wire,
        x.1.url.LeadsTo ["rest", "api", "3", "issue", bareKey key, "comment"] "" ↔
          IsSegment (bareKey key).toList) ∧
      ∀ project, ∀ x ∈ sent (c.components project link).wire,
        x.1.url.LeadsTo ["rest", "api", "3", "project", project, "components"] "" ↔
          IsSegment project.toList := by
  refine ⟨fun key x hx => ?_, fun key text x hx => ?_, fun project x hx => ?_⟩
  · exact leadsTo_iff base isHost (splices_status key) ((c.sends_status link key).1.2 x hx)
  · exact leadsTo_iff base isHost (splices_comment key text)
      ((c.sends_comment link key text).1.2 x hx)
  · exact leadsTo_iff base isHost (splices_components project)
      ((c.components_repeats link project).2 x hx)

theorem isHost_plain : IsHost "jira.example".toList where
  whole := by decide
  named := by
    have read : ((Url.parse? ("https://".toList ++ "jira.example".toList)).map
        fun u => u.host.isEmpty) = some false := by decide
    obtain ⟨u, known, named⟩ := Option.map_eq_some_iff.mp read
    exact ⟨u, known, List.isEmpty_eq_false_iff.mp named⟩

/-- The key of a ticket with blanks around it, and that of a project with a space and a lone percent
sign in it. -/
theorem keys_addressed_iff_spaced :
    (∃ x ∈ sent (plain.status " T-1 " {}).wire,
      x.1.url.LeadsTo ["rest", "api", "3", "issue", "T-1"] "fields=status") ∧
      ∃ x ∈ sent (plain.components "T 100%" {}).wire,
        x.1.url.LeadsTo ["rest", "api", "3", "project", "T 100%", "components"] "" := by
  obtain ⟨asks, -, lists⟩ := keys_addressed_iff plain (by decide) isHost_plain {}
  have bare : bareKey " T-1 " = "T-1" := by decide
  obtain ⟨x, hx⟩ := List.exists_mem_of_length_pos
    (show 0 < (sent (plain.status " T-1 " {}).wire).length by decide +kernel)
  obtain ⟨y, hy⟩ := List.exists_mem_of_length_pos
    (show 0 < (sent (plain.components "T 100%" {}).wire).length by decide +kernel)
  have asks := asks " T-1 " x hx
  rw [bare] at asks
  exact ⟨⟨x, hx, asks.mpr (by decide)⟩, y, hy, (lists "T 100%" y hy).mpr (by decide)⟩

/-- The project key of an accepted report, for which a ticket is asked for instead. -/
theorem components_of_ticket :
    let key := "../issue/T-1?"
    let r : Report := {
      job := "J"
      number := 7
      outcome := .failure
      previous := some .success
      projectKey := some key }
    (Report.ofJson r.toJson).toOption = some r ∧
      ∃ x ∈ sent (plain.components key {}).wire,
        ¬x.1.url.LeadsTo ["rest", "api", "3", "project", key, "components"] "" ∧
          x.1.url.LeadsTo ["rest", "api", "3", "issue", "T-1"] "/components" := by
  decide +kernel

end TicketKeeper.Jira.Client

import Mathlib.Data.List.TakeDrop
import TicketKeeper.Proofs.Url.Path

/-! Addresses on a host. A path from the root that is put behind the address of a host comes out as
the path of the request, cut at the first question mark or number sign, normalised and encoded. -/
namespace TicketKeeper.Url

open TicketKeeper.Text

/-- A host with nothing behind it, at an address that requests can go to. -/
structure IsHost (host : List Char) : Prop where
  whole : IsWhole host
  named : ∃ u, parse? ("https://".toList ++ host) = some u ∧ u.host ≠ []

/-- An address that leads through these parts from the root, with this query. -/
def LeadsTo (u : Url) (parts : List String) (query : String) : Prop :=
  u.segments = parts.map String.toList ∧ u.query.getD [] = query.toList

instance (u : Url) (parts : List String) (query : String) : Decidable (u.LeadsTo parts query) :=
  inferInstanceAs (Decidable (_ ∧ _))

def pathOf (s : List Char) : List Char := (cutAt '?' (cutAt '#' s).1).1

def queryOf (s : List Char) : Option (List Char) := (cutAt '?' (cutAt '#' s).1).2

theorem pathOf_eq (s : List Char) :
    pathOf s = s.takeWhile fun c => c != '#' && c != '?' := by
  rw [pathOf, cutAt_fst, cutAt_fst, List.takeWhile_takeWhile]
  congr 1
  funext c
  rw [Bool.decide_and, Bool.decide_eq_true, Bool.decide_eq_true, Bool.and_comm]

section Parsing

variable {host path rest : List Char} {query fragment : Option (List Char)} {u : Url}

theorem ofComponents_https
    (h : ofComponents "https".toList host path query fragment = some u) :
    u.scheme = "https".toList ∧ readHost (cutHost (cutUser host).2).1 = some u.host ∧
      u.path = percentEncode isPathSafe (normalPath path) ∧
      u.query = query.map (percentEncode isQuerySafe) := by
  have lower : "https".toList.map Char.toLower = "https".toList := by decide
  have any : (!"https".toList.isEmpty) = true := by decide
  unfold ofComponents at h
  simp only [Option.bind_eq_bind, Option.bind_eq_some_iff, lower, any, Bool.true_or, if_true] at h
  obtain ⟨read, named, number, -, h⟩ := h
  split at h
  · cases h
  · cases h
    exact ⟨rfl, named, rfl, rfl⟩

theorem cutAuthority_append (whole : IsWhole host)
    (rooted : rest = [] ∨ ∃ r, rest = '/' :: r) :
    cutAuthority ('/' :: '/' :: (host ++ rest)) = (host, rest) := by
  have within : ∀ c ∈ host, (c != '/' && c != '?' && c != '#') = true := by
    intro c hc
    simpa [and_assoc] using whole c hc
  rw [cutAuthority, List.span_eq_takeWhile_dropWhile, List.takeWhile_append_of_pos within,
    List.dropWhile_append_of_pos within]
  obtain rfl | ⟨r, rfl⟩ := rooted <;> simp

theorem parse?_https (whole : IsWhole host)
    (rooted : rest = [] ∨ ∃ r, rest = '/' :: r)
    (h : parse? ("https://".toList ++ (host ++ rest)) = some u) :
    ∃ fragment,
      ofComponents "https".toList host (pathOf rest) (queryOf rest) fragment = some u := by
  have scheme : cutScheme ("https://".toList ++ (host ++ rest)) =
      ("https".toList, '/' :: '/' :: (host ++ rest)) := rfl
  unfold parse? at h
  split at h
  · rw [scheme] at h
    dsimp only at h
    rw [cutAuthority_append whole rooted] at h
    exact ⟨_, h⟩
  · cases h

theorem not_isRelative (scheme : u.scheme = "https".toList) (host : u.host ≠ []) :
    u.isRelative = false := by
  simp [isRelative, scheme, host]

theorem forRequest?_https (isHost : IsHost host) (rooted : ∃ r, rest = '/' :: r)
    (h : forRequest? ("https://".toList ++ (host ++ rest)) query = some u) :
    let path := percentEncode isPathSafe (normalPath (pathOf rest))
    (u.path = path ∨ u.path = percentEncode isPathSafe (normalPath path)) ∧
      u.query = (query.or (queryOf rest)).map (percentEncode isQuerySafe) := by
  obtain ⟨base, known, named⟩ := isHost.named
  rw [← List.append_nil host] at known
  obtain ⟨_, bare⟩ := parse?_https isHost.whole (.inl rfl) known
  unfold forRequest? at h
  simp only [Option.bind_eq_bind, Option.bind_eq_some_iff] at h
  obtain ⟨parsed, read, cut, placed, h⟩ := h
  obtain ⟨_, parsed'⟩ := parse?_https isHost.whole (.inr rooted) read
  obtain ⟨scheme, host', path, own⟩ := ofComponents_https parsed'
  -- The host is read as it is without the path, so the address is one of a host as well.
  have same : some parsed.host = some base.host := by
    rw [← host', ← (ofComponents_https bare).2.1]
  have hosted : parsed.isRelative = false := not_isRelative scheme (by rwa [Option.some.inj same])
  obtain rfl : parsed = cut := by
    rw [Url.rooted, hosted] at placed
    exact Option.some.inj placed
  cases query with
  | none =>
    cases h
    exact ⟨.inl path, own⟩
  | some q =>
    change parsed.withQuery q = some u at h
    rw [withQuery, rebuilt] at h
    split at h
    · rw [scheme] at h
      obtain ⟨-, -, path', own'⟩ := ofComponents_https h
      rw [path] at path'
      exact ⟨.inr path', own'⟩
    · cases h

end Parsing

section Segments

variable {host s : List Char} {parts : List (List Char)} {query : Option (List Char)} {u : Url}

theorem splitAt_of_isSegment (segments : ∀ part ∈ parts, IsSegment part) :
    splitAt '/' (rootedPath parts) = [] :: parts := by
  rw [splitAt_rootedPath]
  congr 1
  induction parts with
  | nil => rfl
  | cons part parts ih =>
    obtain ⟨first, rest⟩ := List.forall_mem_cons.mp segments
    rw [List.flatMap_cons, first.whole.splitAt, ih rest, List.singleton_append]

theorem pathOf_of_isSegment (segments : ∀ part ∈ parts, IsSegment part) :
    pathOf (rootedPath parts) = rootedPath parts ∧ queryOf (rootedPath parts) = none := by
  have within : ∀ c ∈ rootedPath parts, c ≠ '?' ∧ c ≠ '#' := by
    intro c hc
    obtain ⟨part, hpart, hc⟩ := List.mem_flatMap.mp hc
    obtain rfl | hc := List.mem_cons.mp hc
    · decide
    · exact ((segments part hpart).whole c hc).2
  have whole : cutAt '#' (rootedPath parts) = (rootedPath parts, none) :=
    cutAt_of_absent fun h => (within _ h).2 rfl
  have whole' : cutAt '?' (rootedPath parts) = (rootedPath parts, none) :=
    cutAt_of_absent fun h => (within _ h).1 rfl
  rw [pathOf, queryOf, whole, whole']
  exact ⟨rfl, rfl⟩

theorem percentEncode_stays (segment : IsSegment s) :
    percentEncode isPathSafe s ≠ ['.'] ∧ percentEncode isPathSafe s ≠ ['.', '.'] := by
  have read : percentDecode (percentEncode isPathSafe s) = s := by
    rw [percentDecode_percentEncode, percentDecode_of_literal segment.literal]
  constructor <;> intro dots <;> rw [dots] at read
  · exact segment.stays.1 (read.symm.trans (by decide))
  · exact segment.stays.2 (read.symm.trans (by decide))

theorem segments_eq {f : List Char → List Char} (cut : splitAt '/' u.path = ([] :: parts).map f)
    (read : ∀ part ∈ parts, percentDecode (f part) = part) : u.segments = parts := by
  rw [Url.segments, cut, List.map_cons, List.drop_succ_cons, List.drop_zero, List.map_map]
  exact (List.map_congr_left read).trans (List.map_id parts)

theorem segments_of_isSegment (isHost : IsHost host) (rooted : ∃ r, rootedPath parts = '/' :: r)
    (segments : ∀ part ∈ parts, IsSegment part)
    (h : forRequest? ("https://".toList ++ (host ++ rootedPath parts)) query = some u) :
    u.segments = parts ∧ u.query = query.map (percentEncode isQuerySafe) := by
  obtain ⟨path, own⟩ := forRequest?_https isHost rooted h
  obtain ⟨uncut, none⟩ := pathOf_of_isSegment segments
  have slash : isPathSafe '/' = true := by decide
  have cut := splitAt_of_isSegment segments
  have all : ∀ part ∈ [] :: parts, IsSegment part :=
    List.forall_mem_cons.mpr ⟨by decide, segments⟩
  have normal : normalPath (rootedPath parts) = rootedPath parts :=
    normalPath_eq_self fun w hw => (all w (cut ▸ hw)).stays
  have normal' : normalPath (percentEncode isPathSafe (rootedPath parts)) =
      percentEncode isPathSafe (rootedPath parts) := by
    refine normalPath_eq_self fun w hw => ?_
    rw [splitAt_percentEncode slash, cut] at hw
    obtain ⟨part, hpart, rfl⟩ := List.mem_map.mp hw
    exact percentEncode_stays (all part hpart)
  rw [uncut, normal, normal'] at path
  rw [none, Option.or_none] at own
  refine ⟨?_, own⟩
  have read (part) (hpart : part ∈ parts) : percentDecode part = part :=
    percentDecode_of_literal (segments part hpart).literal
  rcases path with path | path
  · have written : splitAt '/' u.path = ([] :: parts).map (percentEncode isPathSafe) := by
      rw [path, splitAt_percentEncode slash, cut]
    refine segments_eq written fun part hpart => ?_
    rw [percentDecode_percentEncode, read part hpart]
  · have written : splitAt '/' u.path =
        ([] :: parts).map (percentEncode isPathSafe ∘ percentEncode isPathSafe) := by
      rw [path, splitAt_percentEncode slash, splitAt_percentEncode slash, cut, List.map_map]
    refine segments_eq written fun part hpart => ?_
    rw [Function.comp_apply, percentDecode_percentEncode, percentDecode_percentEncode,
      read part hpart]

/-- What is read as a part of the path was a piece of the text that was put behind the host. -/
theorem exists_piece_of_mem_segments (isHost : IsHost host) {rest : List Char}
    (rooted : ∃ r, rest = '/' :: r)
    (h : forRequest? ("https://".toList ++ (host ++ rest)) query = some u) (hs : s ∈ u.segments) :
    s = [] ∨ ∃ w ∈ splitAt '/' (pathOf rest), percentDecode w = s ∧ w ≠ ['.'] ∧ w ≠ ['.', '.'] := by
  have slash : isPathSafe '/' = true := by decide
  obtain ⟨path, -⟩ := forRequest?_https isHost rooted h
  obtain ⟨w, hw, rfl⟩ := List.mem_map.mp hs
  have hw := List.mem_of_mem_drop hw
  have normal {w} (hw : w ∈ splitAt '/' (normalPath (pathOf rest))) : percentDecode w = [] ∨
      ∃ v ∈ splitAt '/' (pathOf rest), percentDecode v = percentDecode w ∧
        v ≠ ['.'] ∧ v ≠ ['.', '.'] := by
    obtain ⟨rfl | hw, other⟩ := mem_splitAt_normalPath hw
    · exact .inl rfl
    · exact .inr ⟨w, hw, rfl, other⟩
  rcases path with path | path
  · rw [path, splitAt_percentEncode slash] at hw
    obtain ⟨v, hv, rfl⟩ := List.mem_map.mp hw
    rw [percentDecode_percentEncode]
    exact normal hv
  · rw [path, splitAt_percentEncode slash] at hw
    obtain ⟨v, hv, rfl⟩ := List.mem_map.mp hw
    rw [percentDecode_percentEncode]
    obtain ⟨rfl | hv, -⟩ := mem_splitAt_normalPath hv
    · exact .inl rfl
    · rw [splitAt_percentEncode slash] at hv
      obtain ⟨x, hx, rfl⟩ := List.mem_map.mp hv
      rw [percentDecode_percentEncode]
      exact normal hx

theorem hasEscape_of_no_percent (h : '%' ∉ s) : hasEscape s = false := by
  induction s with
  | nil => rfl
  | cons c r ih =>
    rw [List.mem_cons, not_or] at h
    simp [hasEscape, ih h.2, Ne.symm h.1]

/-- A text that is read as a part of the path is a segment, if the other parts have no escapes. -/
theorem isSegment_of_mem_segments (isHost : IsHost host)
    (rooted : ∃ r, rootedPath parts = '/' :: r) (others : ∀ part ∈ parts, part = s ∨ '%' ∉ part)
    (h : forRequest? ("https://".toList ++ (host ++ rootedPath parts)) query = some u)
    (hs : s ∈ u.segments) : IsSegment s := by
  obtain rfl | ⟨w, hw, read, stays⟩ := exists_piece_of_mem_segments isHost rooted h hs
  · decide
  rw [pathOf_eq] at hw
  have whole : IsWhole w := by
    intro c hc
    have kept := List.mem_takeWhile_imp ((infix_of_mem_fields hw).subset hc)
    have part := not_of_mem_fields (p := (· == '/')) hw hc
    simp_all
  have literal : hasEscape w = false := by
    obtain rfl | ⟨part, hpart, piece⟩ := piece_of_mem_takeWhile hw
    · rfl
    obtain rfl | free := others part hpart
    · -- Of a piece with an escape less is read than is there, but the whole part is.
      have short := length_percentDecode_le w
      have long := piece.length_le
      rw [read] at short
      cases escaped : hasEscape w with
      | false => rfl
      | true =>
        rw [escaped, Bool.toNat_true] at short
        omega
    · exact hasEscape_of_no_percent fun h => free (piece.subset h)
  obtain rfl : w = s := (percentDecode_of_literal literal).symm.trans read
  exact ⟨whole, literal, stays⟩

end Segments

end TicketKeeper.Url

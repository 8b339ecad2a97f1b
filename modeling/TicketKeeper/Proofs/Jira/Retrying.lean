import Mathlib.Logic.Function.Iterate
import TicketKeeper.Proofs.Jira.Sending

/-! How often a call is sent. It is tried until something comes of it that another attempt would not
mend, or the attempts are used up; there is a pause between each two of them, twice as long as the
one before, and the last attempt settles the call. A pause that cannot be made is the end of it,
too. -/
namespace TicketKeeper.Jira

open TicketKeeper.Number (Binary64)

namespace Link

/-- What comes of the request that is the next but so many. A link without deliveries breaks. -/
def delivery (link : Link) (k : Nat) : Delivery :=
  link.deliveries[k]?.getD (.broken .connectError)

def after (link : Link) (m : Nat) : Link := ⟨link.deliveries.drop m⟩

theorem next_eq (link : Link) : link.next = (link.delivery 0, link.after 1) := by
  obtain ⟨deliveries⟩ := link
  cases deliveries <;> rfl

theorem delivery_after_one (link : Link) (k : Nat) :
    (link.after 1).delivery k = link.delivery (k + 1) := by
  simp [delivery, after]

theorem after_after_one (link : Link) (m : Nat) : (link.after 1).after m = link.after (m + 1) := by
  simp [after]

end Link

namespace Arrival

def isMendable : Arrival → Bool
  | reply r => [429, 500, 502, 503, 504].contains r.status
  | lost _ => true
  | spoilt _ => false

def status? : Arrival → Option Int
  | reply r => some r.status
  | lost _ | spoilt _ => none

def settled (o : Outgoing) : Arrival → Except Fault Reply
  | reply r => .ok r
  | lost fault => .error (lastFault o fault)
  | spoilt d => .error (.defect d)

end Arrival

/-- How many attempts are made: up to the first one that is final, within the limit. -/
def attemptCount (final : Nat → Bool) (limit : Nat) : Nat :=
  min limit ((List.range limit).findIdx final + 1)

section Counting

variable {final : Nat → Bool} {limit m : Nat}

/-- All attempts but the last are not final, and the last one is, unless the limit is reached. -/
theorem attemptCount_spec (final : Nat → Bool) (pos : 0 < limit) :
    0 < attemptCount final limit ∧ attemptCount final limit ≤ limit ∧
      (∀ k, k + 1 < attemptCount final limit → final k = false) ∧
      (attemptCount final limit = limit ∨ final (attemptCount final limit - 1) = true) := by
  have short : (List.range limit).findIdx final ≤ limit := by
    simpa using (List.findIdx_le_length : (List.range limit).findIdx final ≤ _)
  unfold attemptCount
  refine ⟨by omega, Nat.min_le_left .., fun k before => ?_, ?_⟩
  · have early : k < (List.range limit).findIdx final := by omega
    simpa using List.not_of_lt_findIdx early
  · by_cases found : (List.range limit).findIdx final < limit
    · right
      rw [Nat.min_eq_right found, Nat.succ_sub_one]
      have ended := List.findIdx_getElem (w := (by simpa using found :
        (List.range limit).findIdx final < (List.range limit).length))
      rwa [List.getElem_range] at ended
    · exact .inl (by omega)

theorem attemptCount_eq (pos : 0 < m) (le : m ≤ limit)
    (before : ∀ k, k + 1 < m → final k = false) (last : m = limit ∨ final (m - 1) = true) :
    attemptCount final limit = m := by
  obtain ⟨pos', le', before', last'⟩ := attemptCount_spec final (pos.trans_le le)
  rcases Nat.lt_trichotomy (attemptCount final limit) m with less | same | more
  · have ended := last'.resolve_left (by omega)
    rw [before _ (by omega)] at ended
    cases ended
  · exact same
  · have ended := last.resolve_left (by omega)
    rw [before' _ (by omega)] at ended
    cases ended

theorem attemptCount_of_final (h : final 0 = true) (n : Nat) : attemptCount final (n + 1) = 1 :=
  attemptCount_eq Nat.one_pos (by omega) (fun k before => by omega) (.inr h)

theorem attemptCount_succ (h : final 0 = false) {n : Nat} (pos : 0 < n) :
    attemptCount final (n + 1) = attemptCount (fun k => final (k + 1)) n + 1 := by
  obtain ⟨pos', le, before, last⟩ := attemptCount_spec (fun k => final (k + 1)) pos
  refine attemptCount_eq (Nat.succ_pos _) (by omega) (fun k early => ?_) ?_
  · cases k with
    | zero => exact h
    | succ k => exact before k (by omega)
  · refine last.imp (congrArg (· + 1)) fun ended => ?_
    rw [Nat.add_sub_cancel]
    rwa [Nat.sub_add_cancel pos'] at ended

end Counting

section Attempts

variable (host : Host) (o : Outgoing) (request : Request) (pause : Binary64) (link : Link)
  (n : Nat)

def arrival (k : Nat) : Arrival := received request.url (link.delivery k)

/-- What an attempt comes to of which there are `n` to be made: what has arrived, or the defect of
the pause before the next one, where that cannot be made. -/
def attempted (k : Nat) : Except Defect Arrival :=
  let refused :=
    if (arrival request link k).isMendable && decide (k + 1 < n) then
      host.pauseDefect? (Binary64.double^[k] pause)
    else none
  refused.elim (.ok (arrival request link k)) .error

def isFinal (k : Nat) : Bool :=
  match attempted host request pause link n k with
  | .ok a => !a.isMendable
  | .error _ => true

def attemptWire (m : Nat) : List WireEvent :=
  .exchange request (link.delivery 0) :: (List.range (m - 1)).flatMap fun k =>
    [.pause (Binary64.double^[k] pause), .exchange request (link.delivery (k + 1))]

theorem attempts_succ :
    attempts host o request (n + 1) pause link =
      if (arrival request link 0).isMendable && n != 0 then
        afterPause host pause (.exchange request (link.delivery 0)) (link.after 1)
          (attempts host o request n pause.double (link.after 1))
      else
        ⟨(arrival request link 0).settled o, link.after 1,
          [.exchange request (link.delivery 0)]⟩ := by
  rw [attempts, link.next_eq, arrival]
  dsimp only
  cases received request.url (link.delivery 0) <;> rfl

theorem arrival_after_one (k : Nat) :
    arrival request (link.after 1) k = arrival request link (k + 1) := by
  rw [arrival, arrival, link.delivery_after_one]

theorem attempted_after_one (k : Nat) :
    attempted host request pause.double (link.after 1) n k =
      attempted host request pause link (n + 1) (k + 1) := by
  simp only [attempted, arrival_after_one, Function.iterate_succ_apply, Nat.add_lt_add_iff_right]

theorem attemptWire_succ {m : Nat} (pos : 0 < m) :
    attemptWire request pause link (m + 1) = .exchange request (link.delivery 0) :: .pause pause ::
      attemptWire request pause.double (link.after 1) m := by
  obtain ⟨m, rfl⟩ : ∃ k, m = k + 1 := ⟨m - 1, by omega⟩
  simp [attemptWire, List.range_succ_eq_map, List.flatMap_map, Link.delivery_after_one]

variable {host request pause link n} {k : Nat}

theorem attempted_of_final (h : (arrival request link k).isMendable = false) :
    attempted host request pause link n k = .ok (arrival request link k) := by
  simp [attempted, h]

theorem attempted_of_last (h : n ≤ k + 1) :
    attempted host request pause link n k = .ok (arrival request link k) := by
  simp [attempted, Nat.not_lt_of_le h]

theorem attempted_of_made (h : host.pauseDefect? (Binary64.double^[k] pause) = none) :
    attempted host request pause link n k = .ok (arrival request link k) := by
  simp [attempted, h]

theorem attempted_of_refused {d : Defect} (mendable : (arrival request link k).isMendable = true)
    (more : k + 1 < n) (h : host.pauseDefect? (Binary64.double^[k] pause) = some d) :
    attempted host request pause link n k = .error d := by
  simp [attempted, mendable, more, h]

/-- Behind a pause that is made the attempts are counted anew. -/
theorem attemptCount_isFinal (mendable : (arrival request link 0).isMendable = true) (pos : 0 < n)
    (made : host.pauseDefect? pause = none) :
    attemptCount (isFinal host request pause link (n + 1)) (n + 1) =
      attemptCount (isFinal host request pause.double (link.after 1) n) n + 1 := by
  have first : attempted host request pause link (n + 1) 0 = .ok (arrival request link 0) :=
    attempted_of_made made
  have later : isFinal host request pause.double (link.after 1) n =
      fun k => isFinal host request pause link (n + 1) (k + 1) := by
    funext k
    rw [isFinal, isFinal, attempted_after_one]
  rw [attemptCount_succ (by simp [isFinal, first, mendable]) pos, later]

variable (host request pause link)

theorem attempts_eq {n : Nat} (pos : 0 < n) :
    attempts host o request n pause link =
      let m := attemptCount (isFinal host request pause link n) n
      ⟨(orDefect (attempted host request pause link n (m - 1))).bind (Arrival.settled o),
        link.after m, attemptWire request pause link m⟩ := by
  induction n generalizing pause link with
  | zero => contradiction
  | succ n ih =>
    rw [attempts_succ]
    by_cases more : ((arrival request link 0).isMendable && n != 0) = true
    · obtain ⟨mendable, left⟩ : (arrival request link 0).isMendable = true ∧ 0 < n := by
        simpa [Nat.pos_iff_ne_zero] using more
      rw [if_pos more, afterPause]
      cases refused : host.pauseDefect? pause with
      | some d =>
        have first : attempted host request pause link (n + 1) 0 = .error d :=
          attempted_of_refused mendable (by omega) refused
        rw [attemptCount_of_final (by rw [isFinal, first])]
        dsimp only
        rw [Nat.sub_self, first]
        rfl
      | none =>
        have some := (attemptCount_spec (isFinal host request pause.double (link.after 1) n) left).1
        rw [ih pause.double (link.after 1) left, attemptCount_isFinal mendable left refused]
        dsimp only
        rw [attemptWire_succ _ _ _ some, attempted_after_one, Link.after_after_one,
          Nat.sub_add_cancel some, Nat.add_sub_cancel]
    · have first : attempted host request pause link (n + 1) 0 = .ok (arrival request link 0) := by
        cases mendable : (arrival request link 0).isMendable with
        | false => exact attempted_of_final mendable
        | true => exact attempted_of_last (by simpa [mendable] using more)
      have count : attemptCount (isFinal host request pause link (n + 1)) (n + 1) = 1 := by
        cases mendable : (arrival request link 0).isMendable with
        | false => exact attemptCount_of_final (by simp [isFinal, first, mendable]) n
        | true =>
          obtain rfl : n = 0 := by simpa [mendable] using more
          exact attemptCount_eq Nat.one_pos (by omega) (fun k early => by omega) (.inl rfl)
      rw [if_neg more, count]
      dsimp only
      rw [Nat.sub_self, first]
      rfl

end Attempts

namespace Client

variable {settings : Settings} {options : Options} {c : Client}

/-- How many attempts a call is given: its own number, or the client's, which is at least one. -/
def attemptLimit (settings : Settings) (options : Options) (retries : Option Int) : Int :=
  (retries.filter (· != 0)).getD (max 1 (options.maxRetries.getD settings.maxRetries))

theorem attemptsFor_ofSettings (made : ofSettings settings options = .ok c)
    (retries : Option Int) :
    c.attemptsFor retries = (attemptLimit settings options retries).toNat := by
  rw [attemptsFor, (c.retries_ofSettings made).1, attemptLimit]

section Sending

variable {o : Outgoing} {retries : Option Int} {request : Request} {d : Defect}

theorem send_eq (addressed : c.request o = .ok request) (pos : 0 < c.attemptsFor retries)
    (link : Link) :
    c.send o retries link = attempts c.host o request (c.attemptsFor retries) c.backoff link := by
  unfold send
  rw [addressed]
  split
  · omega
  · rename_i given _
    cases given
    rfl
  · contradiction

theorem send_of_error (unaddressed : c.request o = .error d) (pos : 0 < c.attemptsFor retries)
    (link : Link) : c.send o retries link = ⟨.error (.defect d), link, []⟩ := by
  unfold send
  rw [unaddressed]
  split
  · omega
  · contradiction
  · rename_i given _
    cases given
    rfl

/-- What arrives last for a call, unless there is no address to send it to, or a pause before
another attempt that cannot be made. -/
def lastArrival (c : Client) (o : Outgoing) (retries : Option Int) (link : Link) :
    Except Defect Arrival :=
  (c.request o).bind fun request =>
    let n := c.attemptsFor retries
    attempted c.host request c.backoff link n
      (attemptCount (isFinal c.host request c.backoff link n) n - 1)

theorem send_result (pos : 0 < c.attemptsFor retries) (link : Link) :
    (c.send o retries link).result =
      (orDefect (c.lastArrival o retries link)).bind (Arrival.settled o) := by
  unfold lastArrival
  cases addressed : c.request o with
  | error d => rw [send_of_error addressed pos]; rfl
  | ok request => rw [send_eq addressed pos, attempts_eq _ _ _ _ _ pos]; rfl

end Sending

section Pausing

variable {request : Request} {retries : Option Int} {link : Link} {m : Nat}

end Pausing

end Client

end TicketKeeper.Jira

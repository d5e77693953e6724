import Mathlib.Data.Fin.Basic
import Mathlib.Data.List.Nodup
import Mathlib.Data.List.Perm.Subperm
import Mathlib.Data.Nat.ModEq
import StellarEduPay.CircuitBreakers

/-! # Failover between Horizon endpoints (`services/horizonFailoverClient.js`)

A call goes to the active endpoint; after a transient failure the client walks around the ring of
endpoints to the next one whose breaker lets it through, until one answers or the walk comes back to
an endpoint that was tried.
-/
namespace StellarEduPay
open Function

/-! ## Errors -/

/-- What the client reads of an error. -/
structure HorizonError where
  responseStatus : Option Nat := none
  responseStatusCode : Option Nat := none
  status : Option Nat := none
  statusCode : Option Nat := none
  code : Option String := none
  message : Option String := none
  deriving DecidableEq, Repr

/-- `NETWORK_CODES` -/
def networkCodes : List String :=
  ["ECONNREFUSED", "ECONNRESET", "ETIMEDOUT", "ENOTFOUND", "EAI_AGAIN"]

/-- `/timeout|network|socket hang up/i.test(message)` -/
def namesNetwork (message : String) : Bool :=
  let text := message.toList.map Char.toLower
  ["timeout", "network", "socket hang up"].any fun word =>
    text.tails.any fun tail => word.toList.isPrefixOf tail

/-- `isTransientFailure`; a status of 0 counts as none. -/
def isTransientFailure (err : HorizonError) : Bool :=
  let given := [err.responseStatus, err.responseStatusCode, err.status, err.statusCode]
  let status := (given.filterMap id).find? (· ≠ 0)
  status.any (fun status => status = 429 || (500 ≤ status && status < 600)) ||
    err.code.any (· ∈ networkCodes) || namesNetwork (err.message.getD "")

def allUnavailableError : HorizonError where
  message := some "All Horizon endpoints are unavailable (circuit breakers open)"
  code := some "HORIZON_ALL_UNAVAILABLE"
  status := some 503

def allFailedError : HorizonError where
  message := some "All Horizon endpoints failed"
  code := some "HORIZON_ALL_FAILED"
  status := some 503

/-! ## The client -/

/-- A client of `n + 1` endpoints: their breakers, and the one in use. -/
structure FailoverClient (n : Nat) where
  breakers : Fin (n + 1) → CircuitBreaker
  activeIndex : Fin (n + 1)

/-- What a call came to: its result, the endpoints `fn` was called with, in order, and the client
after it. -/
structure FailoverRun (n : Nat) (β : Type) where
  result : Except HorizonError β
  calls : List (Fin (n + 1))
  client : FailoverClient n

/-- The endpoint so many places behind another, around the ring. -/
def ringIndex {n : Nat} (start i : Nat) : Fin (n + 1) := Fin.ofNat (n + 1) (start + i)

section
variable {n : Nat} {β : Type} (config : BreakerConfig) (now : ℚ)

/-- The loop of `_nextAvailableIndex` over the places that are left; `start` is `skipIndex + 1`. -/
def nextAvailableLoop (start : Nat) : List Nat → (Fin (n + 1) → CircuitBreaker) →
    Option (Fin (n + 1)) × (Fin (n + 1) → CircuitBreaker)
  | [], breakers => (none, breakers)
  | i :: rest, breakers =>
    let idx := ringIndex start i
    let asked := HorizonFailoverClient.isAvailable config now (breakers idx)
    let breakers := update breakers idx asked.2
    if asked.1 then (some idx, breakers) else nextAvailableLoop start rest breakers

/-- `_nextAvailableIndex` -/
def nextAvailableIndex (start : Nat) (breakers : Fin (n + 1) → CircuitBreaker) :
    Option (Fin (n + 1)) × (Fin (n + 1) → CircuitBreaker) :=
  nextAvailableLoop config now start (List.range (n + 1)) breakers

/-- The endpoints an error came from or a value, given those that were called before. -/
abbrev EndpointCall (n : Nat) (β : Type) := List (Fin (n + 1)) → Fin (n + 1) → Except HorizonError β

variable (fn : EndpointCall n β)

/-- The loop of `call`: so many endpoints are not in `tried`, which has the latest first. -/
def callLoop : Nat → List (Fin (n + 1)) → FailoverClient n → FailoverRun n β
  | 0, tried, client => ⟨.error allFailedError, tried.reverse, client⟩
  | untried + 1, tried, client =>
    let currentIdx := client.activeIndex
    if currentIdx ∈ tried then ⟨.error allFailedError, tried.reverse, client⟩
    else
      let calls := (currentIdx :: tried).reverse
      let cb := client.breakers currentIdx
      match fn tried.reverse currentIdx with
      | .ok value =>
        let recorded := HorizonFailoverClient.recordSuccess config cb
        ⟨.ok value, calls, ⟨update client.breakers currentIdx recorded, currentIdx⟩⟩
      | .error err =>
        if isTransientFailure err then
          let recorded := HorizonFailoverClient.recordFailure config now cb
          let breakers := update client.breakers currentIdx recorded
          match nextAvailableIndex config now (currentIdx + 1) breakers with
          | (none, breakers) => ⟨.error err, calls, ⟨breakers, currentIdx⟩⟩
          | (some nextIdx, breakers) =>
            if nextIdx = currentIdx then ⟨.error err, calls, ⟨breakers, currentIdx⟩⟩
            else callLoop untried (currentIdx :: tried) ⟨breakers, nextIdx⟩
        else ⟨.error err, calls, client⟩

/-- `call` -/
def FailoverClient.call (client : FailoverClient n) : FailoverRun n β :=
  let currentIdx := client.activeIndex
  let asked := HorizonFailoverClient.isAvailable config now (client.breakers currentIdx)
  let breakers := update client.breakers currentIdx asked.2
  if asked.1 then callLoop config now fn (n + 1) [] ⟨breakers, currentIdx⟩
  else
    match nextAvailableIndex config now currentIdx breakers with
    | (none, breakers) => ⟨.error allUnavailableError, [], ⟨breakers, currentIdx⟩⟩
    | (some next, breakers) => callLoop config now fn (n + 1) [] ⟨breakers, next⟩

/-! ## What a call does -/

/-- The breaker of an endpoint lets a call through. -/
def Available (breakers : Fin (n + 1) → CircuitBreaker) (j : Fin (n + 1)) : Bool :=
  (HorizonFailoverClient.isAvailable config now (breakers j)).1

/-- Each endpoint is called at most once; the call ends with the first answer, which it returns, and
with the first error that is not transient, which it throws; after transient errors alone it fails
with every endpoint called that was available. -/
structure TriesOnce (client : FailoverClient n) (run : FailoverRun n β) : Prop where
  once : run.calls.Nodup
  answered : ∀ value, run.result = .ok value → ∃ before c, run.calls = before ++ [c] ∧
    fn before c = .ok value ∧ run.client.activeIndex = c
  ends : ∀ before c after, run.calls = before ++ c :: after →
    (∀ value, fn before c = .ok value → after = [] ∧ run.result = .ok value) ∧
      ∀ err, fn before c = .error err → isTransientFailure err = false →
        after = [] ∧ run.result = .error err
  exhausts : (∀ before c after, run.calls = before ++ c :: after →
      ∃ err, fn before c = .error err ∧ isTransientFailure err = true) →
    ∀ j, Available config now client.breakers j = true → j ∈ run.calls

/-! ## Around the ring -/

@[simp] theorem ringIndex_val (start i : Nat) :
    (ringIndex start i : Fin (n + 1)).val = (start + i) % (n + 1) := rfl

/-- Behind an endpoint the places go on. -/
theorem ringIndex_behind (base k i : Nat) :
    ringIndex ((ringIndex base k : Fin (n + 1)) + 1 : Nat) i =
      (ringIndex base (k + 1 + i) : Fin (n + 1)) := by
  apply Fin.ext
  have hplaces : base + (k + 1 + i) = base + k + (1 + i) := by omega
  rw [ringIndex_val, ringIndex_val, ringIndex_val, hplaces, Nat.add_assoc, Nat.mod_add_mod]

theorem ringIndex_injective {base i k : Nat} (hi : i ≤ n) (hk : k ≤ n)
    (h : (ringIndex base i : Fin (n + 1)) = ringIndex base k) : i = k := by
  have hmod : base + i ≡ base + k [MOD n + 1] := congrArg Fin.val h
  exact (Nat.ModEq.add_left_cancel' base hmod).eq_of_lt_of_lt (by omega) (by omega)

/-- After a whole turn the places come again. -/
theorem exists_ringIndex (base j : Fin (n + 1)) : ∃ i ≤ n, j = ringIndex base i := by
  refine ⟨(j + (n + 1) - base) % (n + 1), Nat.lt_succ_iff.mp (Nat.mod_lt _ n.succ_pos), Fin.ext ?_⟩
  have hturn : base.val + (j.val + (n + 1) - base.val) = j.val + (n + 1) := by omega
  rw [ringIndex_val, Nat.add_mod_mod, hturn, Nat.add_mod_right, Nat.mod_eq_of_lt j.isLt]

/-! ## The next endpoint -/

/-- Asking a breaker again gives the same answer. -/
theorem isAvailable_again (cb : CircuitBreaker) :
    (HorizonFailoverClient.isAvailable config now
      (HorizonFailoverClient.isAvailable config now cb).2).1 =
      (HorizonFailoverClient.isAvailable config now cb).1 := by
  unfold HorizonFailoverClient.isAvailable CircuitBreaker.isAvailable
  cases hstate : cb.state with
  | closed => simp [hstate]
  | halfOpen => simp [hstate]
  | opened =>
    by_cases htime : config.resetTimeoutMs ≤ now - cb.openedAt.getD 0
    · simp [htime]
    · simp [htime, hstate]

theorem available_asked (breakers : Fin (n + 1) → CircuitBreaker) (idx j : Fin (n + 1)) :
    Available config now (update breakers idx
      (HorizonFailoverClient.isAvailable config now (breakers idx)).2) j =
      Available config now breakers j := by
  unfold Available
  by_cases hj : j = idx
  · subst hj
    rw [update_self, isAvailable_again]
  · rw [update_of_ne hj]

theorem available_of_ne {breakers : Fin (n + 1) → CircuitBreaker} {idx j : Fin (n + 1)}
    (hj : j ≠ idx) (cb : CircuitBreaker) :
    Available config now (update breakers idx cb) j = Available config now breakers j := by
  rw [Available, update_of_ne hj, Available]

variable {config now}

/-- **The search** finds the first endpoint that is available, by induction on the places left. -/
theorem nextAvailableLoop_spec (start : Nat) {places : List Nat}
    (hsorted : places.Pairwise (· < ·)) (breakers : Fin (n + 1) → CircuitBreaker) :
    let found := nextAvailableLoop config now start places breakers
    (∀ j, Available config now found.2 j = Available config now breakers j) ∧
      (found.1 = none → ∀ i ∈ places, Available config now breakers (ringIndex start i) = false) ∧
      ∀ c, found.1 = some c → ∃ i ∈ places, c = ringIndex start i ∧
        Available config now breakers c = true ∧
          ∀ k ∈ places, k < i → Available config now breakers (ringIndex start k) = false := by
  induction places generalizing breakers with
  | nil => exact ⟨fun _ => rfl, fun _ => List.forall_mem_nil _, nofun⟩
  | cons i rest ih =>
    obtain ⟨hfirst, hrest⟩ := List.pairwise_cons.mp hsorted
    dsimp only
    rw [nextAvailableLoop]
    cases hasked : Available config now breakers (ringIndex start i) with
    | true =>
      have hanswer := hasked
      rw [Available] at hanswer
      rw [if_pos hanswer]
      refine ⟨fun j => available_asked config now breakers _ j, nofun, fun c hc => ?_⟩
      obtain rfl := Option.some.inj hc
      refine ⟨i, List.mem_cons_self, rfl, hasked, fun k hk hlt => ?_⟩
      rcases List.mem_cons.mp hk with rfl | hk
      · exact absurd hlt (lt_irrefl _)
      · exact absurd (hfirst k hk) (by omega)
    | false =>
      have hanswer := hasked
      rw [Available] at hanswer
      rw [if_neg (by simp [hanswer])]
      obtain ⟨hsame, hnone, hsome⟩ := ih hrest (update breakers (ringIndex start i)
        (HorizonFailoverClient.isAvailable config now (breakers (ringIndex start i))).2)
      simp only [available_asked] at hsame hnone hsome
      refine ⟨hsame, fun hfound => List.forall_mem_cons.mpr ⟨hasked, hnone hfound⟩, fun c hc => ?_⟩
      obtain ⟨m, hm, hplace, havailable, hbefore⟩ := hsome c hc
      exact ⟨m, List.mem_cons_of_mem _ hm, hplace, havailable,
        List.forall_mem_cons.mpr ⟨fun _ => hasked, hbefore⟩⟩

theorem nextAvailableIndex_spec (start : Nat) (breakers : Fin (n + 1) → CircuitBreaker) :
    let found := nextAvailableIndex config now start breakers
    (∀ j, Available config now found.2 j = Available config now breakers j) ∧
      (found.1 = none → ∀ i ≤ n, Available config now breakers (ringIndex start i) = false) ∧
      ∀ c, found.1 = some c → ∃ i ≤ n, c = ringIndex start i ∧
        Available config now breakers c = true ∧
          ∀ k < i, Available config now breakers (ringIndex start k) = false := by
  have hplace : ∀ i, i ∈ List.range (n + 1) ↔ i ≤ n := fun i =>
    List.mem_range.trans Nat.lt_succ_iff
  obtain ⟨hsame, hnone, hsome⟩ := nextAvailableLoop_spec start
    List.pairwise_lt_range breakers
  refine ⟨hsame, fun hfound i hi => hnone hfound i ((hplace i).mpr hi), fun c hc => ?_⟩
  obtain ⟨i, hi, hci, havailable, hbefore⟩ := hsome c hc
  have hi := (hplace i).mp hi
  exact ⟨i, hi, hci, havailable, fun k hk => hbefore k ((hplace k).mpr (by omega)) hk⟩

/-! ## The walk -/

/-- How the calls of a walk have ended so far, the latest first: each with a transient error. -/
def AllTransient (fn : EndpointCall n β) : List (Fin (n + 1)) → Prop
  | [] => True
  | c :: tried => AllTransient fn tried ∧
      ∃ err, fn tried.reverse c = .error err ∧ isTransientFailure err = true

/-- Where a walk stands that started from `base` with these breakers: `k` places on, with everything
tried that was available on the way, and the breakers of the others as they were. -/
structure Walk (config : BreakerConfig) (now : ℚ) (fn : EndpointCall n β)
    (start : Fin (n + 1) → CircuitBreaker) (base : Fin (n + 1)) (k : Nat) (tried : List (Fin (n + 1)))
    (client : FailoverClient n) : Prop where
  place : k ≤ n
  here : client.activeIndex = ringIndex base k
  nodup : tried.Nodup
  transient : AllTransient fn tried
  behind : ∀ j ∈ tried, ∃ i < k, j = ringIndex base i
  covered : ∀ i < k, Available config now start (ringIndex base i) = true →
    ringIndex base i ∈ tried
  others : ∀ j ∉ tried, Available config now client.breakers j = Available config now start j

variable {fn : EndpointCall n β} {start : FailoverClient n} {client : FailoverClient n}
  {base : Fin (n + 1)} {k : Nat} {tried : List (Fin (n + 1))}

/-- Each call of such a walk ended so, by induction on the calls after it. -/
theorem AllTransient.split (h : AllTransient fn tried) {before after : List (Fin (n + 1))}
    {c : Fin (n + 1)} (hsplit : tried.reverse = before ++ c :: after) :
    ∃ err, fn before c = .error err ∧ isTransientFailure err = true := by
  induction tried generalizing after with
  | nil => simp at hsplit
  | cons x tried ih =>
    rw [List.reverse_cons] at hsplit
    rcases after.eq_nil_or_concat with rfl | ⟨more, y, rfl⟩
    · obtain ⟨hbefore, hlast⟩ := List.append_inj' hsplit rfl
      obtain rfl : x = c := by simpa using hlast
      rw [← hbefore]
      exact h.2
    · have hshorter : tried.reverse ++ [x] = (before ++ c :: more) ++ [y] := by simpa using hsplit
      exact ih h.1 (List.append_inj' hshorter rfl).1

/-- A walk that ends with every available endpoint called. -/
theorem TriesOnce.of_exhausted (htransient : AllTransient fn tried) (hnodup : tried.Nodup)
    (hall : ∀ j, Available config now start.breakers j = true → j ∈ tried) (err : HorizonError) :
    TriesOnce config now fn start ⟨.error err, tried.reverse, client⟩ where
  once := List.nodup_reverse.mpr hnodup
  answered := nofun
  ends before c after hsplit := by
    obtain ⟨err', hfailed, htransient'⟩ := htransient.split hsplit
    refine ⟨fun value hvalue => ?_, fun other hother hfinal => ?_⟩
    · rw [hfailed] at hvalue
      cases hvalue
    · rw [hfailed] at hother
      obtain rfl := Except.error.inj hother
      rw [htransient'] at hfinal
      cases hfinal
  exhausts _ j hj := List.mem_reverse.mpr (hall j hj)

/-- A walk that ends with a call that answers, or whose error is not transient. -/
theorem TriesOnce.of_last {c : Fin (n + 1)} (htransient : AllTransient fn tried)
    (hnodup : (c :: tried).Nodup) {result : Except HorizonError β}
    (hresult : fn tried.reverse c = result)
    (hfinal : ∀ err, result = .error err → isTransientFailure err = false)
    (hactive : client.activeIndex = c) :
    TriesOnce config now fn start ⟨result, (c :: tried).reverse, client⟩ where
  once := List.nodup_reverse.mpr hnodup
  answered value hvalue := by
    obtain rfl : result = .ok value := hvalue
    exact ⟨tried.reverse, c, List.reverse_cons, hresult, hactive⟩
  ends before x after hsplit := by
    have hsplit : tried.reverse ++ [c] = before ++ x :: after := by
      rw [← hsplit]
      exact List.reverse_cons.symm
    rcases after.eq_nil_or_concat with rfl | ⟨more, y, rfl⟩
    · obtain ⟨hbefore, hlast⟩ := List.append_inj' hsplit rfl
      obtain rfl : c = x := by simpa using hlast
      rw [← hbefore, hresult]
      exact ⟨fun value hvalue => ⟨rfl, hvalue⟩, fun err herr _ => ⟨rfl, herr⟩⟩
    · have hshorter : tried.reverse ++ [c] = (before ++ x :: more) ++ [y] := by simpa using hsplit
      obtain ⟨err', hfailed, htransient'⟩ :=
        htransient.split (List.append_inj' hshorter rfl).1
      refine ⟨fun value hvalue => ?_, fun other hother hnot => ?_⟩
      · rw [hfailed] at hvalue
        cases hvalue
      · rw [hfailed] at hother
        obtain rfl := Except.error.inj hother
        rw [htransient'] at hnot
        cases hnot
  exhausts hall := by
    obtain ⟨err, herr, htransient'⟩ := hall tried.reverse c [] List.reverse_cons
    rw [hresult] at herr
    rw [hfinal err herr] at htransient'
    cases htransient'

theorem callLoop_of_mem (h : client.activeIndex ∈ tried) (untried : Nat) :
    callLoop config now fn untried tried client =
      ⟨.error allFailedError, tried.reverse, client⟩ := by
  cases untried with
  | zero => rfl
  | succ untried => rw [callLoop, if_pos h]

namespace Walk

/-- The endpoints ahead, the present one among them, have not been tried. -/
theorem notMem (h : Walk config now fn start.breakers base k tried client) {i : Nat} (hki : k ≤ i)
    (hi : i ≤ n) : ringIndex base i ∉ tried := by
  intro hmem
  obtain ⟨m, hm, hsame⟩ := h.behind _ hmem
  have hplace := h.place
  have := ringIndex_injective hi (by omega) hsame
  omega

theorem current_notMem (h : Walk config now fn start.breakers base k tried client) :
    client.activeIndex ∉ tried := by
  rw [h.here]
  exact h.notMem le_rfl h.place

/-- Nor is one farther on among them together with the present one. -/
theorem notMem_cons (h : Walk config now fn start.breakers base k tried client) {m : Nat} (hkm : k < m)
    (hm : m ≤ n) : ringIndex base m ∉ client.activeIndex :: tried := by
  intro hmem
  rcases List.mem_cons.mp hmem with hhere | hmem
  · rw [h.here] at hhere
    have := ringIndex_injective hm h.place hhere
    omega
  · exact h.notMem hkm.le hm hmem

theorem length_le (h : Walk config now fn start.breakers base k tried client) : tried.length ≤ n := by
  have hsub : tried ⊆ (List.range k).map fun i => ringIndex base i := fun j hj => by
    obtain ⟨i, hi, rfl⟩ := h.behind j hj
    exact List.mem_map.mpr ⟨i, List.mem_range.mpr hi, rfl⟩
  have hlength := (h.nodup.subperm hsub).length_le
  rw [List.length_map, List.length_range] at hlength
  exact hlength.trans h.place

end Walk

/-- Once nothing ahead is available, everything available has been called. -/
theorem Walk.exhausted (h : Walk config now fn start.breakers base k tried client)
    (hahead : ∀ m, k < m → m ≤ n →
      Available config now start.breakers (ringIndex base m) = false) (j : Fin (n + 1))
    (hj : Available config now start.breakers j = true) : j ∈ client.activeIndex :: tried := by
  obtain ⟨m, hm, rfl⟩ := exists_ringIndex base j
  rcases lt_trichotomy m k with hbehind | rfl | hmore
  · exact List.mem_cons_of_mem _ (h.covered m hbehind hj)
  · rw [← h.here]
    exact List.mem_cons_self
  · rw [hahead m hmore hm] at hj
    cases hj

/-- A walk goes on from a place farther on if nothing between was available. -/
theorem Walk.advance (h : Walk config now fn start.breakers base k tried client) {err : HorizonError}
    (hcall : fn tried.reverse client.activeIndex = .error err)
    (herr : isTransientFailure err = true) {next : FailoverClient n} {m : Nat} (hkm : k < m) (hm : m ≤ n)
    (hhere : next.activeIndex = ringIndex base m)
    (hbetween : ∀ i, k < i → i < m → Available config now start.breakers (ringIndex base i) = false)
    (hothers : ∀ j ∉ client.activeIndex :: tried,
      Available config now next.breakers j = Available config now start.breakers j) :
    Walk config now fn start.breakers base m (client.activeIndex :: tried) next where
  place := hm
  here := hhere
  nodup := List.nodup_cons.mpr ⟨h.current_notMem, h.nodup⟩
  transient := ⟨h.transient, err, hcall, herr⟩
  behind j hj := by
    rcases List.mem_cons.mp hj with rfl | hj
    · exact ⟨k, hkm, h.here⟩
    · obtain ⟨i, hi, rfl⟩ := h.behind j hj
      exact ⟨i, hi.trans hkm, rfl⟩
  covered i hi hwas := by
    rcases lt_trichotomy i k with hbehind | rfl | hmore
    · exact List.mem_cons_of_mem _ (h.covered i hbehind hwas)
    · rw [← h.here]
      exact List.mem_cons_self
    · rw [hbetween i hmore hi] at hwas
      cases hwas
  others := hothers

/-- **One round of the walk** that ends in a transient error: the search has nowhere left to go, or
it finds an endpoint farther on. -/
theorem Walk.next (h : Walk config now fn start.breakers base k tried client) {err : HorizonError}
    (hcall : fn tried.reverse client.activeIndex = .error err)
    (herr : isTransientFailure err = true) (cb : CircuitBreaker) :
    let found := nextAvailableIndex config now (client.activeIndex + 1)
      (update client.breakers client.activeIndex cb)
    ((∀ j, Available config now start.breakers j = true → j ∈ client.activeIndex :: tried) ∧
        ∀ next, found.1 = some next → next ∈ client.activeIndex :: tried) ∨
      ∃ next m, found.1 = some next ∧ next ≠ client.activeIndex ∧
        Walk config now fn start.breakers base m (client.activeIndex :: tried) ⟨found.2, next⟩ := by
  intro found
  obtain ⟨hsame, hnone, hsome⟩ := nextAvailableIndex_spec
    (client.activeIndex + 1) (update client.breakers client.activeIndex cb)
  have hothers : ∀ j ∉ client.activeIndex :: tried, Available config now
      (update client.breakers client.activeIndex cb) j = Available config now start.breakers j := by
    intro j hj
    obtain ⟨hne, hj⟩ := List.ne_and_not_mem_of_not_mem_cons hj
    rw [available_of_ne config now hne, h.others j hj]
  have hbehind : ∀ i, ringIndex (client.activeIndex + 1) i =
      (ringIndex base (k + 1 + i) : Fin (n + 1)) := fun i => by
    rw [h.here, ringIndex_behind]
  -- so far ahead as the search finds nothing, there was nothing
  have hclosed : ∀ m, k < m → m ≤ n → Available config now
      (update client.breakers client.activeIndex cb) (ringIndex (client.activeIndex + 1) (m - k - 1)) =
        false → Available config now start.breakers (ringIndex base m) = false := by
    intro m hkm hm hclosed
    have hplace : k + 1 + (m - k - 1) = m := by omega
    rwa [hbehind, hplace, hothers _ (h.notMem_cons hkm hm)] at hclosed
  cases hfound : found.1 with
  | none =>
    refine Or.inl ⟨h.exhausted fun m hkm hm => hclosed m hkm hm ?_, nofun⟩
    exact hnone hfound _ (by omega)
  | some next =>
    obtain ⟨i, hi, hplace, havailable, hbefore⟩ := hsome next hfound
    rcases Nat.lt_or_ge n (k + 1 + i) with hturn | hfarther
    · -- the search has come around the ring
      have hall := h.exhausted fun m hkm hm => hclosed m hkm hm (hbefore _ (by omega))
      refine Or.inl ⟨hall, fun other hother => ?_⟩
      obtain rfl := Option.some.inj hother
      by_contra hnot
      rw [hothers next hnot] at havailable
      exact hnot (hall next havailable)
    · have hnext : next = ringIndex base (k + 1 + i) := hplace.trans (hbehind i)
      have hnot := h.notMem_cons (by omega) hfarther
      rw [← hnext] at hnot
      refine Or.inr ⟨next, k + 1 + i, rfl, fun heq => hnot (heq ▸ List.mem_cons_self), ?_⟩
      exact h.advance hcall herr (by omega) hfarther hnext
        (fun m hkm hm => hclosed m hkm (by omega) (hbefore _ (by omega)))
        fun j hj => (hsame j).trans (hothers j hj)

/-- **A walk tries everything once**, by induction on the endpoints that have not been tried. -/
theorem Walk.triesOnce (h : Walk config now fn start.breakers base k tried client) {untried : Nat}
    (hcount : tried.length + untried = n + 1) :
    TriesOnce config now fn start (callLoop config now fn untried tried client) := by
  induction untried generalizing k tried client with
  | zero =>
    have := h.length_le
    omega
  | succ untried ih =>
    have hnew := h.current_notMem
    have hnodup : (client.activeIndex :: tried).Nodup := List.nodup_cons.mpr ⟨hnew, h.nodup⟩
    rw [callLoop, if_neg hnew]
    dsimp only
    cases hcall : fn tried.reverse client.activeIndex with
    | ok value => exact .of_last h.transient hnodup hcall nofun rfl
    | error err =>
      dsimp only
      by_cases herr : isTransientFailure err = true
      case neg =>
        rw [if_neg herr]
        refine .of_last h.transient hnodup hcall (fun other hother => ?_) rfl
        obtain rfl := Except.error.inj hother
        exact Bool.eq_false_of_not_eq_true herr
      rw [if_pos herr]
      have htransient : AllTransient fn (client.activeIndex :: tried) :=
        ⟨h.transient, err, hcall, herr⟩
      have hnext := h.next hcall herr
        (HorizonFailoverClient.recordFailure config now (client.breakers client.activeIndex))
      dsimp only at hnext
      generalize nextAvailableIndex config now (client.activeIndex + 1) _ = found at hnext ⊢
      obtain ⟨next, breakers⟩ := found
      rcases hnext with ⟨hall, hback⟩ | ⟨next', m, hsome, hne, hwalk⟩
      · cases next with
        | none => exact .of_exhausted htransient hnodup hall err
        | some next =>
          dsimp only
          split
          · exact .of_exhausted htransient hnodup hall err
          · rw [callLoop_of_mem (hback next rfl)]
            exact .of_exhausted htransient hnodup hall _
      · obtain rfl : next = some next' := hsome
        dsimp only
        rw [if_neg hne]
        exact ih hwalk (by rw [List.length_cons]; omega)

/-- Nothing has been tried yet. -/
theorem Walk.init (hplace : k ≤ n) (hbefore : ∀ i < k,
      Available config now start.breakers (ringIndex base i) = false)
    {breakers : Fin (n + 1) → CircuitBreaker}
    (hsame : ∀ j, Available config now breakers j = Available config now start.breakers j) :
    Walk config now fn start.breakers base k [] ⟨breakers, ringIndex base k⟩ where
  place := hplace
  here := rfl
  nodup := List.nodup_nil
  transient := trivial
  behind := List.forall_mem_nil _
  covered i hi hwas := by
    rw [hbefore i hi] at hwas
    cases hwas
  others j _ := hsame j

theorem ringIndex_self (base : Fin (n + 1)) : ringIndex base 0 = base :=
  Fin.ext (Nat.mod_eq_of_lt base.isLt)

end

/-- **A call tries everything once**, for any number of endpoints, any state of their breakers and
anything that comes of the calls. -/
theorem failover_tries_once {n : Nat} {β : Type} (config : BreakerConfig) (now : ℚ)
    (fn : EndpointCall n β) (client : FailoverClient n) :
    TriesOnce config now fn client (client.call config now fn) := by
  rw [FailoverClient.call]
  have hasked := available_asked config now client.breakers client.activeIndex
  split
  · have hwalk : Walk config now fn client.breakers client.activeIndex 0 []
        ⟨update client.breakers client.activeIndex (HorizonFailoverClient.isAvailable config now
          (client.breakers client.activeIndex)).2, ringIndex client.activeIndex 0⟩ :=
      .init (Nat.zero_le n) (fun i hi => absurd hi (Nat.not_lt_zero i)) hasked
    rw [ringIndex_self] at hwalk
    exact hwalk.triesOnce (Nat.zero_add _)
  · have hspec := @nextAvailableIndex_spec n config now client.activeIndex
      (update client.breakers client.activeIndex
        (HorizonFailoverClient.isAvailable config now (client.breakers client.activeIndex)).2)
    simp only [hasked] at hspec
    obtain ⟨hsame, hnone, hsome⟩ := hspec
    split
    · rename_i hfound
      rw [hfound] at hnone
      have hnothing : AllTransient fn [] := trivial
      have hall : ∀ j, Available config now client.breakers j = true → j ∈ [] := by
        intro j hj
        obtain ⟨i, hi, rfl⟩ := exists_ringIndex client.activeIndex j
        rw [hnone rfl i hi] at hj
        cases hj
      exact .of_exhausted hnothing List.nodup_nil hall _
    · rename_i next breakers hfound
      rw [hfound] at hsame hsome
      obtain ⟨i, hi, rfl, -, hbefore⟩ := hsome next rfl
      exact (Walk.init hi hbefore hsame).triesOnce (Nat.zero_add _)

end StellarEduPay

import Mathlib.Data.Int.Order.Basic
import StellarEduPay.Runs

/-! # Fetching a price (`services/currencyConversionService.js`)

The calls of `getRates` for one currency in one process.  A call that finds no fresh entry in the cache
fetches one from the providers, or waits on the call that is fetching.  If that fails, it serves the
entry it has read as long as that is not too stale.

Whoever waited on a call that failed goes on to fetch for itself, without another look at `_inFlight`.
-/
namespace StellarEduPay
open Runs

/-! ## Entries -/

/-- `CACHE_TTL_MS` and `PRICE_STALE_THRESHOLD_MS` -/
structure PriceConfig where
  cacheTtlMs : Int := 60000
  staleThresholdMs : Int := 3600000

/-- The rates of a currency; `staleAge` is set on a copy that is served stale. -/
structure PriceEntry (ρ : Type) where
  rates : ρ
  fetchedAt : Int
  lastSuccessfulFetch : Int
  provider : String
  staleAge : Option Int := none

/-- An entry that is returned, and when that was decided. -/
structure Served (ρ : Type) where
  entry : PriceEntry ρ
  decidedAt : Int

section
variable {ρ : Type} (cfg : PriceConfig) (now : Int)

def freshEntry (cached : Option (PriceEntry ρ)) : Option (Served ρ) :=
  match cached with
  | some e => if now - e.fetchedAt < cfg.cacheTtlMs then some ⟨e, now⟩ else none
  | none => none

def staleEntry (cached : Option (PriceEntry ρ)) : Option (Served ρ) :=
  match cached with
  | some e =>
    if now - e.lastSuccessfulFetch < cfg.staleThresholdMs then
      some ⟨{ e with staleAge := some ((now - e.lastSuccessfulFetch) / 1000) }, now⟩
    else none
  | none => none

end

/-! ## Calls -/

/-- Where a call of `getRates` is: it reads the cache, waits on the promise of another call, waits for
the providers, writes what it fetched to the cache, has failed to fetch, or has returned. -/
inductive RatesCall (ρ : Type)
  | reading
  | waiting (leader : Nat) (cached : Option (PriceEntry ρ))
  | fetching (cached : Option (PriceEntry ρ))
  | writing (served : Served ρ)
  | failed (cached : Option (PriceEntry ρ))
  | returned (answer : Option (Served ρ))

/-- The calls and their promises (`some none` is one that was rejected), the entry of `_inFlight`, and
what can be read from the cache; and who has waited on whom, and what was fetched by whom. -/
structure PriceState (ρ : Type) where
  now : Int
  calls : Nat → Option (RatesCall ρ)
  promises : Nat → Option (Option (Served ρ))
  inFlight : Option Nat
  cache : List (PriceEntry ρ)
  joined : List (Nat × Nat)
  fetched : Nat → Option (PriceEntry ρ)

def PriceState.start {ρ : Type} (now : Int) : PriceState ρ :=
  ⟨now, fun _ => none, fun _ => none, none, [], [], fun _ => none⟩

inductive PriceAction (ρ : Type)
  | tick (ms : Nat)
  | call (p : Nat)
  | read (p : Nat) (index : Option Nat) (bothCircuitsOpen : Bool)
  | resume (p : Nat)
  | fetchDone (p : Nat) (rates : ρ) (provider : String)
  | fetchFailed (p : Nat)
  | stored (p : Nat)
  | written (p : Nat)
  | handleFailure (p : Nat)
  | storedElsewhere (rates : ρ) (provider : String) (fetchedAt : Int)

section
variable {ρ : Type}

namespace PriceState
variable (s : PriceState ρ) (p : Nat)

/-- What a read of the cache finds. -/
def cached (index : Option Nat) : Option (PriceEntry ρ) := index.bind (s.cache[·]?)

def setCall (c : RatesCall ρ) : PriceState ρ := { s with calls := Function.update s.calls p (some c) }

def startFetch (cached : Option (PriceEntry ρ)) : PriceState ρ :=
  { s.setCall p (.fetching cached) with inFlight := some p }

def joinFetch (q : Nat) (cached : Option (PriceEntry ρ)) : PriceState ρ :=
  { s.setCall p (.waiting q cached) with joined := (p, q) :: s.joined }

/-- What follows on `_readCache`. -/
def afterRead (cfg : PriceConfig) (cached : Option (PriceEntry ρ)) (bothCircuitsOpen : Bool) :
    PriceState ρ :=
  match freshEntry cfg s.now cached with
  | some served => s.setCall p (.returned (some served))
  | none =>
    match if bothCircuitsOpen then staleEntry cfg s.now cached else none with
    | some served => s.setCall p (.returned (some served))
    | none =>
      match s.inFlight with
      | some q => s.joinFetch p q cached
      | none => s.startFetch p cached

/-- The call is done with its fetch: its entry of `_inFlight` goes, whoever it is by now, and the
promise settles. -/
def settle (answer : Option (Served ρ)) : PriceState ρ :=
  { s.setCall p (.returned answer) with
    promises := Function.update s.promises p (some answer)
    inFlight := none }

end PriceState

def priceStep (cfg : PriceConfig) (s : PriceState ρ) : PriceAction ρ → Option (PriceState ρ)
  | .tick ms => some { s with now := s.now + ms }
  | .call p =>
    match s.calls p with
    | none => some (s.setCall p .reading)
    | some _ => none
  | .read p index bothCircuitsOpen =>
    match s.calls p with
    | some .reading => some (s.afterRead p cfg (s.cached index) bothCircuitsOpen)
    | _ => none
  | .resume p =>
    match s.calls p with
    | some (.waiting q cached) =>
      match s.promises q with
      | some (some served) => some (s.setCall p (.returned (some served)))
      | some none => some (s.startFetch p cached)
      | none => none
    | _ => none
  | .fetchDone p rates provider =>
    match s.calls p with
    | some (.fetching _) =>
      let entry := { rates, fetchedAt := s.now, lastSuccessfulFetch := s.now, provider }
      some { s.setCall p (.writing ⟨entry, s.now⟩) with
        fetched := Function.update s.fetched p (some entry) }
    | _ => none
  | .fetchFailed p =>
    match s.calls p with
    | some (.fetching cached) => some (s.setCall p (.failed cached))
    | _ => none
  | .stored p =>
    match s.calls p with
    | some (.writing served) => some { s with cache := served.entry :: s.cache }
    | _ => none
  | .written p =>
    match s.calls p with
    | some (.writing served) => some (s.settle p (some served))
    | _ => none
  | .handleFailure p =>
    match s.calls p with
    | some (.failed cached) => some (s.settle p (staleEntry cfg s.now cached))
    | _ => none
  | .storedElsewhere rates provider fetchedAt =>
    some { s with
      cache := { rates, fetchedAt, lastSuccessfulFetch := fetchedAt, provider } :: s.cache }

end

/-! ## One fetch at a time -/

section
variable {ρ : Type}

def Served.Current (cfg : PriceConfig) (served : Served ρ) : Prop :=
  served.decidedAt - served.entry.lastSuccessfulFetch < cfg.staleThresholdMs

/-- At most one call fetches; whoever waited on a call that fetched an entry gets that entry; and no
entry is returned that was too stale when that was decided. -/
structure PricesHeld (cfg : PriceConfig) (s : PriceState ρ) : Prop where
  oneFetch : ∀ p q cached cached', s.calls p = some (.fetching cached) →
    s.calls q = some (.fetching cached') → p = q
  shared : ∀ p q e, (p, q) ∈ s.joined → s.fetched q = some e →
    (∃ cached, s.calls p = some (.waiting q cached)) ∨
      ∃ decidedAt, s.calls p = some (.returned (some ⟨e, decidedAt⟩))
  current : ∀ p served, s.calls p = some (.returned (some served)) → served.Current cfg

/-- Whoever waited on a fetch that failed goes on while no other has taken its place; an entry that is
fresh is not too stale, which is so when `CACHE_TTL_MS` is not above the threshold; and the threshold
is positive. -/
def FetchesApart (cfg : PriceConfig) (s : PriceState ρ) : PriceAction ρ → Prop
  | .resume p => ∀ q cached, s.calls p = some (.waiting q cached) → s.promises q = some none →
      s.inFlight = none
  | .read _ index _ => ∀ e ∈ s.cached index, s.now - e.fetchedAt < cfg.cacheTtlMs →
      s.now - e.fetchedAt < cfg.staleThresholdMs
  | .fetchDone _ _ _ => 0 < cfg.staleThresholdMs
  | _ => True

/-- The call has its entry in `_inFlight`. -/
def RatesCall.active : RatesCall ρ → Bool
  | fetching _ | writing _ | failed _ => true
  | reading | waiting _ _ | returned _ => false

/-- What a call, its promise and what it fetched have to do with each other. -/
def RatesCall.Agrees (cfg : PriceConfig) (promise : Option (Option (Served ρ)))
    (fetched : Option (PriceEntry ρ)) : RatesCall ρ → Prop
  | reading | waiting _ _ | fetching _ | failed _ => promise = none ∧ fetched = none
  | writing served => promise = none ∧ fetched = some served.entry ∧ served.Current cfg ∧
      served.entry.fetchedAt = served.entry.lastSuccessfulFetch
  | returned answer => (∀ served ∈ answer, served.Current cfg) ∧
      (promise = none ∧ fetched = none ∨
        promise = some answer ∧ ∀ e ∈ fetched, ∃ served ∈ answer, served.entry = e)

/-- What a call has to do with the promise it has waited on. -/
def JoinAgrees (call : Option (RatesCall ρ)) (q : Nat) : Option (Option (Served ρ)) → Prop
  | none => ∃ cached, call = some (.waiting q cached)
  | some (some served) =>
    (∃ cached, call = some (.waiting q cached)) ∨ call = some (.returned (some served))
  | some none => call ≠ none ∧ call ≠ some .reading

structure PricesKept (cfg : PriceConfig) (s : PriceState ρ) : Prop where
  inFlight : ∀ p, (s.calls p).any RatesCall.active = true ↔ s.inFlight = some p
  absent : ∀ p, s.calls p = none → s.promises p = none ∧ s.fetched p = none
  calls : ∀ p c, s.calls p = some c → c.Agrees cfg (s.promises p) (s.fetched p)
  joined : ∀ p q, (p, q) ∈ s.joined → JoinAgrees (s.calls p) q (s.promises q)
  cache : ∀ e ∈ s.cache, e.fetchedAt = e.lastSuccessfulFetch

variable {cfg : PriceConfig} {s t : PriceState ρ}

theorem PricesKept.start (now : Int) : PricesKept cfg (.start now : PriceState ρ) where
  inFlight _ := iff_of_false nofun nofun
  absent _ _ := ⟨rfl, rfl⟩
  calls := nofun
  joined := nofun
  cache := nofun

theorem PricesKept.held (h : PricesKept cfg s) : PricesHeld cfg s where
  oneFetch p q cached cached' hp hq := by
    have hp' := (h.inFlight p).mp (by rw [hp]; rfl)
    have hq' := (h.inFlight q).mp (by rw [hq]; rfl)
    exact Option.some.inj (hp'.symm.trans hq')
  shared p q e hjoined he := by
    have hjoin := h.joined p q hjoined
    -- the entry was fetched, so the call is writing it or has returned
    cases hcall : s.calls q with
    | none =>
      rw [(h.absent q hcall).2] at he
      cases he
    | some c =>
      have hagrees := h.calls q c hcall
      rw [he] at hagrees
      cases c with
      | writing served =>
        rw [hagrees.1] at hjoin
        exact .inl hjoin
      | returned answer =>
        rcases hagrees.2 with ⟨-, hnone⟩ | ⟨hpromise, hsame⟩
        · cases hnone
        · obtain ⟨served, hserved, rfl⟩ := hsame e rfl
          rw [hpromise, Option.mem_def.mp hserved] at hjoin
          exact hjoin.imp_right fun hreturned => ⟨served.decidedAt, hreturned⟩
      | _ => cases hagrees.2
  current p served hp := (h.calls p _ hp).1 served rfl

/-- A call that has its entry in `_inFlight` has waited on none but failed ones. -/
theorem PricesKept.joined_of_active (h : PricesKept cfg s) {p q : Nat} {c : RatesCall ρ}
    (hp : s.calls p = some c) (hactive : c.active = true) (hjoined : (p, q) ∈ s.joined) :
    s.promises q = some none := by
  have hjoin := h.joined p q hjoined
  rw [hp] at hjoin
  rcases hq : s.promises q with - | (- | served)
  · rw [hq] at hjoin
    obtain ⟨cached, heq⟩ := hjoin
    cases heq
    cases hactive
  · rfl
  · rw [hq] at hjoin
    rcases hjoin with ⟨cached, heq⟩ | heq <;> cases heq <;> cases hactive

theorem PricesKept.inFlight_ne (h : PricesKept cfg s) {p : Nat} {c : RatesCall ρ}
    (hp : s.calls p = some c) (hactive : c.active = false) : s.inFlight ≠ some p := by
  intro hs
  have hown := (h.inFlight p).mpr hs
  rw [hp, Option.any_some, hactive] at hown
  cases hown

theorem PricesKept.not_joined (h : PricesKept cfg s) {p q : Nat}
    (hp : s.calls p = none ∨ s.calls p = some .reading) : (p, q) ∉ s.joined := by
  intro hjoined
  have hjoin := h.joined p q hjoined
  rcases hq : s.promises q with - | (- | served)
  · rw [hq] at hjoin
    obtain ⟨cached, heq⟩ := hjoin
    rcases hp with hp | hp <;> cases hp.symm.trans heq
  · rw [hq] at hjoin
    exact hp.elim hjoin.1 hjoin.2
  · rw [hq] at hjoin
    rcases hjoin with ⟨cached, heq⟩ | heq <;> rcases hp with hp | hp <;> cases hp.symm.trans heq

/-- Call `p` goes on to `c`, and its entry in `_inFlight` and its promise go along. -/
theorem PricesKept.move (h : PricesKept cfg s) {p : Nat} {c : RatesCall ρ}
    (hcalls : t.calls = Function.update s.calls p (some c))
    (hinFlight : c.active = true ↔ t.inFlight = some p)
    (hinFlight' : ∀ q ≠ p, (s.inFlight = some q ↔ t.inFlight = some q))
    (hagrees : c.Agrees cfg (t.promises p) (t.fetched p))
    (hsame : ∀ q ≠ p, t.promises q = s.promises q ∧ t.fetched q = s.fetched q)
    (hcache : t.cache = s.cache)
    (hjoined : ∀ q, (p, q) ∈ t.joined → JoinAgrees (some c) q (t.promises q))
    (hothers : ∀ q q', q ≠ p → (q, q') ∈ t.joined → (q, q') ∈ s.joined)
    (hwaiters : ∀ q ≠ p, (q, p) ∈ s.joined → JoinAgrees (s.calls q) p (t.promises p)) :
    PricesKept cfg t := by
  refine ⟨fun q => ?_, fun q hq => ?_, fun q d hq => ?_, fun q q' hq => ?_, ?_⟩
  · rw [hcalls]
    by_cases hqp : q = p
    · subst hqp
      rw [Function.update_self]
      exact hinFlight
    · rw [Function.update_of_ne hqp, h.inFlight q]
      exact hinFlight' q hqp
  · rw [hcalls] at hq
    by_cases hqp : q = p
    · subst hqp
      rw [Function.update_self] at hq
      cases hq
    · rw [Function.update_of_ne hqp] at hq
      rw [(hsame q hqp).1, (hsame q hqp).2]
      exact h.absent q hq
  · rw [hcalls] at hq
    rcases update_some_iff.mp hq with ⟨rfl, rfl⟩ | ⟨hqp, hq⟩
    · exact hagrees
    · rw [(hsame q hqp).1, (hsame q hqp).2]
      exact h.calls q d hq
  · rw [hcalls]
    by_cases hqp : q = p
    · subst hqp
      rw [Function.update_self]
      exact hjoined q' hq
    · rw [Function.update_of_ne hqp]
      have hold := hothers q q' hqp hq
      by_cases hqp' : q' = p
      · subst hqp'
        exact hwaiters q hqp hold
      · rw [(hsame q' hqp').1]
        exact h.joined q q' hold
  · rw [hcache]
    exact h.cache

/-- Nothing but the call itself changes. -/
theorem PricesKept.setCall (h : PricesKept cfg s) {p : Nat} {c : RatesCall ρ}
    (hinFlight : c.active = true ↔ s.inFlight = some p)
    (hagrees : c.Agrees cfg (s.promises p) (s.fetched p))
    (hjoined : ∀ q, (p, q) ∈ s.joined → JoinAgrees (some c) q (s.promises q)) :
    PricesKept cfg (s.setCall p c) :=
  h.move rfl hinFlight (fun _ _ => Iff.rfl) hagrees (fun _ _ => ⟨rfl, rfl⟩) rfl hjoined
    (fun _ _ _ hq => hq) fun q _ hq => h.joined q p hq

theorem PricesKept.startFetch (h : PricesKept cfg s) {p : Nat} (cached : Option (PriceEntry ρ))
    (hfree : s.inFlight = none) (hnew : s.promises p = none ∧ s.fetched p = none)
    (hjoined : ∀ q, (p, q) ∈ s.joined → s.promises q = some none) :
    PricesKept cfg (s.startFetch p cached) := by
  refine h.move (c := .fetching cached) rfl (iff_of_true rfl rfl) (fun q hq => ?_) hnew
    (fun _ _ => ⟨rfl, rfl⟩) rfl (fun q hq => ?_) (fun _ _ _ hq => hq) fun q _ hq => h.joined q p hq
  · rw [hfree]
    exact iff_of_false nofun fun hs => hq (Option.some.inj hs).symm
  · change JoinAgrees _ q (s.promises q)
    rw [hjoined q hq]
    exact ⟨nofun, nofun⟩

theorem PricesKept.settle (h : PricesKept cfg s) {p : Nat} {c : RatesCall ρ}
    (hp : s.calls p = some c) (hactive : c.active = true) (answer : Option (Served ρ))
    (hcurrent : ∀ served ∈ answer, served.Current cfg)
    (hfetched : ∀ e ∈ s.fetched p, ∃ served ∈ answer, served.entry = e)
    (hpromise : s.promises p = none) : PricesKept cfg (s.settle p answer) := by
  have hown := (h.inFlight p).mp (by rw [hp]; exact hactive)
  refine h.move (c := .returned answer) rfl (iff_of_false nofun nofun) (fun q hq => ?_)
    ⟨hcurrent, .inr ⟨Function.update_self .., hfetched⟩⟩
    (fun q hq => ⟨Function.update_of_ne hq .., rfl⟩)
    rfl (fun q hq => ?_) (fun _ _ _ hq => hq) fun q hq hjoined => ?_
  · rw [hown]
    exact iff_of_false (fun hs => hq (Option.some.inj hs).symm) nofun
  · have hrejected := h.joined_of_active hp hactive hq
    have hne : q ≠ p := by
      rintro rfl
      cases hpromise.symm.trans hrejected
    have hsame : (s.settle p answer).promises q = s.promises q := Function.update_of_ne hne ..
    rw [hsame, hrejected]
    exact ⟨nofun, nofun⟩
  · have hjoin := h.joined q p hjoined
    rw [hpromise] at hjoin
    have hnew : (s.settle p answer).promises p = some answer := Function.update_self ..
    rw [hnew]
    cases answer with
    | none =>
      obtain ⟨cached, hwaiting⟩ := hjoin
      rw [hwaiting]
      exact ⟨nofun, nofun⟩
    | some served => exact .inl hjoin

/-! Each step -/

theorem current_of_staleEntry {now : Int} {cached : Option (PriceEntry ρ)} {served : Served ρ}
    (h : staleEntry cfg now cached = some served) : served.Current cfg := by
  cases cached with
  | none => cases h
  | some e =>
    rw [staleEntry] at h
    split_ifs at h with hcurrent
    obtain rfl := Option.some.inj h
    exact hcurrent

theorem current_of_freshEntry {now : Int} {cached : Option (PriceEntry ρ)} {served : Served ρ}
    (hcache : ∀ e ∈ cached, e.fetchedAt = e.lastSuccessfulFetch)
    (hapart : ∀ e ∈ cached, now - e.fetchedAt < cfg.cacheTtlMs →
      now - e.fetchedAt < cfg.staleThresholdMs)
    (h : freshEntry cfg now cached = some served) : served.Current cfg := by
  cases cached with
  | none => cases h
  | some e =>
    rw [freshEntry] at h
    split_ifs at h with hfresh
    obtain rfl := Option.some.inj h
    have hcurrent := hapart e rfl hfresh
    rwa [hcache e rfl] at hcurrent

theorem PricesKept.mem_cache (h : PricesKept cfg s) (index : Option Nat) :
    ∀ e ∈ s.cached index, e.fetchedAt = e.lastSuccessfulFetch := by
  intro e he
  obtain ⟨i, -, hi⟩ := Option.bind_eq_some_iff.mp he
  exact h.cache e (List.mem_of_getElem? hi)

theorem PricesKept.returned (h : PricesKept cfg s) {p : Nat} {served : Served ρ}
    (hp : s.calls p = some .reading) (hcurrent : served.Current cfg) :
    PricesKept cfg (s.setCall p (.returned (some served))) := by
  refine h.setCall (iff_of_false nofun (h.inFlight_ne hp rfl))
    ⟨?_, .inl (h.calls p .reading hp)⟩ fun q hq => absurd hq (h.not_joined (.inr hp))
  intro other hother
  obtain rfl := Option.some.inj hother
  exact hcurrent

theorem PricesKept.joinFetch (h : PricesKept cfg s) {p q : Nat} (cached : Option (PriceEntry ρ))
    (hp : s.calls p = some .reading) (hq : s.inFlight = some q) :
    PricesKept cfg (s.joinFetch p q cached) := by
  have hpending : s.promises q = none := by
    have hactive := (h.inFlight q).mpr hq
    cases hcall : s.calls q with
    | none => exact (h.absent q hcall).1
    | some c =>
      have hagrees := h.calls q c hcall
      rw [hcall] at hactive
      cases c with
      | reading | waiting _ _ | returned _ => cases hactive
      | fetching _ | failed _ | writing _ => exact hagrees.1
  refine h.move (c := .waiting q cached) rfl (iff_of_false nofun (h.inFlight_ne hp rfl))
    (fun _ _ => Iff.rfl) (h.calls p .reading hp) (fun _ _ => ⟨rfl, rfl⟩) rfl (fun q' hjoined => ?_)
    (fun r r' hr hjoined => ?_) fun r _ hr => h.joined r p hr
  · rcases List.mem_cons.mp hjoined with heq | hjoined
    · obtain ⟨-, rfl⟩ := Prod.mk.inj heq
      change JoinAgrees _ q' (s.promises q')
      rw [hpending]
      exact ⟨cached, rfl⟩
    · exact absurd hjoined (h.not_joined (.inr hp))
  · rcases List.mem_cons.mp hjoined with heq | hjoined
    · exact absurd (Prod.mk.inj heq).1 hr
    · exact hjoined

theorem PricesKept.afterRead (h : PricesKept cfg s) {p : Nat} {index : Option Nat}
    {bothCircuitsOpen : Bool} (hp : s.calls p = some .reading)
    (hapart : FetchesApart cfg s (.read p index bothCircuitsOpen)) :
    PricesKept cfg (s.afterRead p cfg (s.cached index) bothCircuitsOpen) := by
  unfold PriceState.afterRead
  cases hfresh : freshEntry cfg s.now (s.cached index) with
  | some served =>
    exact h.returned hp (current_of_freshEntry (h.mem_cache index) hapart hfresh)
  | none =>
    dsimp only
    cases hstale : if bothCircuitsOpen then staleEntry cfg s.now (s.cached index) else none with
    | some served =>
      split_ifs at hstale
      exact h.returned hp (current_of_staleEntry hstale)
    | none =>
      dsimp only
      cases hinFlight : s.inFlight with
      | some q => exact h.joinFetch _ hp hinFlight
      | none =>
        exact h.startFetch _ hinFlight (h.calls p .reading hp) fun q hq =>
          absurd hq (h.not_joined (.inr hp))

/-- Whoever waits on a fetch has waited on no other but failed ones. -/
theorem PricesKept.joined_of_waiting (h : PricesKept cfg s) {p q q' : Nat}
    {cached : Option (PriceEntry ρ)} (hp : s.calls p = some (.waiting q cached))
    (hjoined : (p, q') ∈ s.joined) : q' = q ∨ s.promises q' = some none := by
  have hjoin := h.joined p q' hjoined
  rw [hp] at hjoin
  rcases hq' : s.promises q' with - | (- | served)
  · rw [hq'] at hjoin
    obtain ⟨cached', heq⟩ := hjoin
    cases heq
    exact .inl rfl
  · exact .inr rfl
  · rw [hq'] at hjoin
    rcases hjoin with ⟨cached', heq⟩ | heq <;> cases heq
    exact .inl rfl

theorem PricesKept.resume (h : PricesKept cfg s) {p q : Nat} {cached : Option (PriceEntry ρ)}
    (hp : s.calls p = some (.waiting q cached)) {served : Served ρ}
    (hq : s.promises q = some (some served)) :
    PricesKept cfg (s.setCall p (.returned (some served))) := by
  -- the promise settled with an entry when the call it belongs to returned it
  have hcurrent : served.Current cfg := by
    cases hcall : s.calls q with
    | none => cases (h.absent q hcall).1.symm.trans hq
    | some c =>
      have hagrees := h.calls q c hcall
      rw [hq] at hagrees
      cases c with
      | returned answer =>
        rcases hagrees.2 with ⟨hnone, -⟩ | ⟨hsome, -⟩
        · cases hnone
        · exact hagrees.1 served (Option.some.inj hsome).symm
      | _ => cases hagrees.1
  refine h.setCall (iff_of_false nofun (h.inFlight_ne hp rfl))
    ⟨?_, .inl (h.calls p (.waiting q cached) hp)⟩ fun q' hq' => ?_
  · intro other hother
    obtain rfl := Option.some.inj hother
    exact hcurrent
  · rcases h.joined_of_waiting hp hq' with rfl | hfailed
    · rw [hq]
      exact .inr rfl
    · rw [hfailed]
      exact ⟨nofun, nofun⟩

theorem PricesKept.refetch (h : PricesKept cfg s) {p q : Nat} {cached : Option (PriceEntry ρ)}
    (hp : s.calls p = some (.waiting q cached)) (hq : s.promises q = some none)
    (hfree : s.inFlight = none) : PricesKept cfg (s.startFetch p cached) := by
  refine h.startFetch cached hfree (h.calls p (.waiting q cached) hp) fun q' hq' => ?_
  rcases h.joined_of_waiting hp hq' with rfl | hfailed
  · exact hq
  · exact hfailed

theorem PricesKept.fetchDone (h : PricesKept cfg s) {p : Nat} {cached : Option (PriceEntry ρ)}
    (hp : s.calls p = some (.fetching cached)) {e : PriceEntry ρ} (hnow : e.fetchedAt = s.now)
    (hsame : e.fetchedAt = e.lastSuccessfulFetch) (hpositive : 0 < cfg.staleThresholdMs) :
    PricesKept cfg { s.setCall p (.writing ⟨e, s.now⟩) with
      fetched := Function.update s.fetched p (some e) } := by
  have hcurrent : (⟨e, s.now⟩ : Served ρ).Current cfg := by
    rw [Served.Current, ← hsame, hnow, Int.sub_self]
    exact hpositive
  have hown := (h.inFlight p).mp (by rw [hp]; rfl)
  exact h.move (c := .writing ⟨e, s.now⟩) rfl (iff_of_true rfl hown) (fun _ _ => Iff.rfl)
    ⟨(h.calls p _ hp).1, Function.update_self .., hcurrent, hsame⟩
    (fun q hq => ⟨rfl, Function.update_of_ne hq ..⟩) rfl
    (fun q hq => by
      change JoinAgrees _ q (s.promises q)
      rw [h.joined_of_active hp rfl hq]
      exact ⟨nofun, nofun⟩)
    (fun _ _ _ hq => hq) fun q _ hq => h.joined q p hq

theorem PricesKept.fetchFailed (h : PricesKept cfg s) {p : Nat} {cached : Option (PriceEntry ρ)}
    (hp : s.calls p = some (.fetching cached)) : PricesKept cfg (s.setCall p (.failed cached)) := by
  have hown := (h.inFlight p).mp (by rw [hp]; rfl)
  refine h.setCall (iff_of_true rfl hown) (h.calls p (.fetching cached) hp) fun q hq => ?_
  rw [h.joined_of_active hp rfl hq]
  exact ⟨nofun, nofun⟩

/-- What is stored was fetched when it says. -/
theorem PricesKept.store (h : PricesKept cfg s) {e : PriceEntry ρ}
    (he : e.fetchedAt = e.lastSuccessfulFetch) :
    PricesKept cfg { s with cache := e :: s.cache } :=
  { h with cache := List.forall_mem_cons.mpr ⟨he, h.cache⟩ }

theorem PricesKept.step (h : PricesKept cfg s) {a : PriceAction ρ} (hapart : FetchesApart cfg s a)
    (hstep : priceStep cfg s a = some t) : PricesKept cfg t := by
  cases a with
  | tick ms =>
    obtain rfl := Option.some.inj hstep
    exact { h with }
  | call p =>
    simp only [priceStep] at hstep
    split at hstep
    · rename_i hp
      obtain rfl := Option.some.inj hstep
      refine h.setCall (iff_of_false nofun fun hs => ?_) (h.absent p hp) fun q hq =>
        absurd hq (h.not_joined (.inl hp))
      have hactive := (h.inFlight p).mpr hs
      rw [hp] at hactive
      cases hactive
    · cases hstep
  | read p index bothCircuitsOpen =>
    simp only [priceStep] at hstep
    split at hstep
    · rename_i hp
      obtain rfl := Option.some.inj hstep
      exact h.afterRead hp hapart
    · cases hstep
  | resume p =>
    simp only [priceStep] at hstep
    split at hstep
    · rename_i q cached hp
      split at hstep
      · rename_i served hq
        obtain rfl := Option.some.inj hstep
        exact h.resume hp hq
      · rename_i hq
        obtain rfl := Option.some.inj hstep
        exact h.refetch hp hq (hapart q cached hp hq)
      · cases hstep
    · cases hstep
  | fetchDone p rates provider =>
    simp only [priceStep] at hstep
    split at hstep
    · rename_i cached hp
      obtain rfl := Option.some.inj hstep
      exact h.fetchDone hp rfl rfl hapart
    · cases hstep
  | fetchFailed p =>
    simp only [priceStep] at hstep
    split at hstep
    · rename_i cached hp
      obtain rfl := Option.some.inj hstep
      exact h.fetchFailed hp
    · cases hstep
  | stored p =>
    simp only [priceStep] at hstep
    split at hstep
    · rename_i served hp
      obtain rfl := Option.some.inj hstep
      exact h.store (h.calls p _ hp).2.2.2
    · cases hstep
  | written p =>
    simp only [priceStep] at hstep
    split at hstep
    · rename_i served hp
      obtain rfl := Option.some.inj hstep
      obtain ⟨hpromise, hfetched, hcurrent, -⟩ := h.calls p _ hp
      refine h.settle hp rfl (some served) (fun other hother => ?_) (fun e he => ?_) hpromise
      · obtain rfl := Option.some.inj hother
        exact hcurrent
      · exact ⟨served, rfl, Option.some.inj (hfetched.symm.trans he)⟩
    · cases hstep
  | handleFailure p =>
    simp only [priceStep] at hstep
    split at hstep
    · rename_i cached hp
      obtain rfl := Option.some.inj hstep
      obtain ⟨hpromise, hfetched⟩ := h.calls p _ hp
      refine h.settle hp rfl _ (fun served hserved => current_of_staleEntry hserved) (fun e he => ?_)
        hpromise
      cases hfetched.symm.trans he
    · cases hstep
  | storedElsewhere rates provider fetchedAt =>
    obtain rfl := Option.some.inj hstep
    exact h.store rfl

/-- A second fetch starts when a call goes on after one that failed while another is fetching. -/
theorem two_fetches {p q r : Nat} {cached cached' : Option (PriceEntry ρ)}
    (hp : s.calls p = some (.waiting q cached)) (hq : s.promises q = some none)
    (hr : s.calls r = some (.fetching cached')) :
    ∃ t, priceStep cfg s (.resume p) = some t ∧ ¬PricesHeld cfg t := by
  have hne : r ≠ p := by
    rintro rfl
    cases hp.symm.trans hr
  refine ⟨s.startFetch p cached, by simp only [priceStep, hp, hq], fun h => ?_⟩
  exact hne (h.oneFetch r p cached' cached ((Function.update_of_ne hne ..).trans hr)
    (Function.update_self ..))

end

/-- **One fetch at a time**, shared by all who wait on it, and nothing too stale, as long as whoever
waited on a fetch that failed finds no other. -/
theorem prices_held {ρ : Type} (cfg : PriceConfig) (now : Int) (s : PriceState ρ)
    (hrun : Reach (priceStep cfg) (FetchesApart cfg) (.start now) s) : PricesHeld cfg s := by
  have h : PricesKept cfg s :=
    hrun.invariant (.start now) fun hkept hapart hstep => hkept.step hapart hstep
  exact h.held

theorem prices_held_fetched :
    ∃ s : PriceState Nat, s.calls 0 = some (.writing ⟨⟨7, 0, 0, "coingecko", none⟩, 0⟩) ∧
      PricesHeld {} s := by
  have hcall : Reach (priceStep {}) (FetchesApart {}) (.start 0 : PriceState Nat)
      (PriceState.setCall (.start 0) 0 .reading) := .tail (a := .call 0) .refl trivial rfl
  have hread := hcall.tail (a := .read 0 none false) (by exact nofun) rfl
  have hpositive : (0 : Int) < PriceConfig.staleThresholdMs {} := by decide
  have hdone := hread.tail (a := .fetchDone 0 7 "coingecko") (by exact hpositive) rfl
  exact ⟨_, rfl, prices_held {} 0 _ hdone⟩

/-- A fetch fails on two calls that wait on it; one goes on to fetch, and then the other. -/
theorem prices_twoFetches : ¬∀ (cfg : PriceConfig) (now : Int) (s : PriceState Nat),
    Reach (priceStep cfg) Free (.start now) s → PricesHeld cfg s := by
  intro h
  have hexec : ∃ s, exec (priceStep {}) (.start 0 : PriceState Nat)
      [.call 0, .call 1, .call 2, .read 0 none false, .read 1 none false, .read 2 none false,
        .fetchFailed 0, .handleFailure 0, .resume 1] = some s ∧
      s.calls 2 = some (.waiting 0 none) ∧ s.promises 0 = some none ∧
      s.calls 1 = some (.fetching none) :=
    ⟨_, rfl, rfl, rfl, rfl⟩
  obtain ⟨s, hs, hwaiting, hfailed, hfetching⟩ := hexec
  have htwo : ∃ t, priceStep {} s (.resume 2) = some t ∧ ¬PricesHeld {} t :=
    two_fetches hwaiting hfailed hfetching
  obtain ⟨t, hstep, hnot⟩ := htwo
  exact hnot (h {} 0 t ((reach_of_exec hs).tail trivial hstep))

end StellarEduPay

import StellarEduPay.SseRegistry

/-! # The degraded banner (`hooks/usePaymentEvents.js`)

A replica tells its clients when its publisher goes down and when it is back, and a client that
connects meanwhile that it is down.  The page keeps one flag for all its connections and resets it only
when it is told so: what a new connection shows is right unless the flag was left set by an earlier
connection and this one has not been told anything yet.
-/
namespace StellarEduPay
open Broker JsonText Runs Function

/-- What a frame says of the publisher: `true` that it is down. -/
def SseFrame.signal : SseFrame → Option Bool
  | .degraded _ => some true
  | .recovered => some false
  | _ => none

/-- The `degraded` state of the hook after a frame. -/
def degradedBanner (degraded : Bool) (frame : SseFrame) : Bool := frame.signal.getD degraded

/-- Signals that alternate, from the one expected next; and which is expected then. -/
def nextSignal (expected : Bool) : List Bool → Option Bool
  | [] => some expected
  | signal :: rest => if signal = expected then nextSignal (!expected) rest else none

theorem nextSignal_concat {expected next signal : Bool} {signals : List Bool}
    (h : nextSignal expected signals = some next) :
    nextSignal expected (signals ++ [signal]) = if signal = next then some (!next) else none := by
  induction signals generalizing expected with
  | nil =>
    obtain rfl := Option.some.inj h
    rfl
  | cons first rest ih =>
    obtain ⟨hfirst, hrest⟩ := Option.ite_none_right_eq_some.mp h
    rw [List.cons_append, nextSignal, if_pos hfirst]
    exact ih hrest

namespace SseReplica
variable {redisEnabled : Bool} {maxConnections : Int} {p q : SseReplica} {schoolId t : String}
  {res x : Nat} {throws set : List Nat} {frame : SseFrame} {message : SseMessage}

/-- The signals a response was sent. -/
def signals (p : SseReplica) (x : Nat) : List Bool := (p.response x).written.filterMap SseFrame.signal

theorem signals_write :
    (p.write res frame).signals x = p.signals x ++ if x = res then frame.signal.toList else [] := by
  rw [signals, write, modify_response]
  by_cases hx : x = res
  · rw [if_pos hx, if_pos hx, List.filterMap_append, signals]
    cases hframe : frame.signal with
    | none => simp [hframe]
    | some b => simp [hframe]
  · rw [if_neg hx, if_neg hx, List.append_nil]
    rfl

theorem signals_removeClient : (p.removeClient redisEnabled schoolId res).signals x = p.signals x := by
  rw [signals, response_removeClient, clearHeartbeat, modify_response]
  split <;> rfl

theorem signals_endResponse : (p.endResponse res).signals x = p.signals x := by
  rw [signals, endResponse, modify_response]
  split <;> rfl

/-- A broadcast reaches each of a list of responses once, apart from those whose write throws. -/
theorem signals_writeEach (hset : set.Nodup) (hx : x ∉ throws) :
    (writeEach throws frame set p).signals x =
      p.signals x ++ if x ∈ set then frame.signal.toList else [] := by
  induction set generalizing p with
  | nil => simp [writeEach]
  | cons res rest ih =>
    obtain ⟨hnew, hrest⟩ := List.nodup_cons.mp hset
    rw [writeEach, ih hrest]
    by_cases heq : x = res
    · subst heq
      rw [if_neg hx, signals_write, if_neg hnew]
      simp
    · have hkept : (if res ∈ throws then p else p.write res frame).signals x = p.signals x := by
        split
        · rfl
        · rw [signals_write, if_neg heq, List.append_nil]
      rw [hkept]
      simp [heq]

/-- The signals sent to a response alternate, starting with "down"; a registered response expects next
the one that its replica's publisher would give next. -/
structure Told (x : Nat) (p : SseReplica) : Prop where
  alternate : ∃ next, nextSignal true (p.signals x) = some next ∧
    ((p.response x).heartbeat = true ∧ (p.response x).schoolId.isSome → next = p.publisherHealthy)

/-- No signal was sent, the publisher's health is the same, and nothing was registered. -/
theorem Told.of_eq (h : p.Told x) (hsignals : q.signals x = p.signals x)
    (hhealthy : q.publisherHealthy = p.publisherHealthy)
    (hregistered : (q.response x).heartbeat = true ∧ (q.response x).schoolId.isSome →
      (p.response x).heartbeat = true ∧ (p.response x).schoolId.isSome) : q.Told x := by
  obtain ⟨next, hnext, hkept⟩ := h.alternate
  exact ⟨next, hsignals ▸ hnext, fun hq => (hkept (hregistered hq)).trans hhealthy.symm⟩

theorem Told.write (h : p.Told x) (hframe : frame.signal = none) : (p.write res frame).Told x := by
  refine h.of_eq (by simp [signals_write, hframe]) rfl fun hreg => ?_
  rw [SseReplica.write, modify_response] at hreg
  split at hreg <;> exact hreg

theorem Told.endResponse (h : p.Told x) : (p.endResponse res).Told x := by
  refine h.of_eq signals_endResponse rfl fun hreg => ?_
  rw [SseReplica.endResponse, modify_response] at hreg
  split at hreg <;> exact hreg

theorem Told.removeClient (h : p.Told x) : (p.removeClient redisEnabled schoolId res).Told x := by
  refine h.of_eq signals_removeClient publisherHealthy_removeClient fun hreg => ?_
  rw [response_removeClient, clearHeartbeat, modify_response] at hreg
  split at hreg
  · cases hreg.1
  · exact hreg

theorem Told.fanout (h : p.Told x) : (p.fanout redisEnabled throws schoolId message).Told x := by
  unfold SseReplica.fanout
  split
  · exact h
  · exact fanoutTo_rule (fun _ _ _ hq => hq.write rfl) (fun _ _ _ => Told.removeClient) h

theorem Told.closeAll (h : p.Told x) : (p.closeAll redisEnabled throws).Told x := by
  refine closeSchools_rule (fun entry _ res _ q hq => ?_) h
  rw [endClient_eq]
  exact (hq.write rfl).endResponse.removeClient

theorem registered_writeEach :
    ((writeEach throws frame set p).response x).heartbeat = (p.response x).heartbeat ∧
      ((writeEach throws frame set p).response x).schoolId = (p.response x).schoolId := by
  refine writeEach_rule (P := fun q => (q.response x).heartbeat = (p.response x).heartbeat ∧
    (q.response x).schoolId = (p.response x).schoolId) (fun res q hq => ?_) ⟨rfl, rfl⟩
  rw [SseReplica.write, modify_response]
  split <;> exact hq

theorem publisherHealthy_writeEach :
    (writeEach throws frame set p).publisherHealthy = p.publisherHealthy :=
  writeEach_rule (P := fun q => q.publisherHealthy = p.publisherHealthy) (fun _ _ hq => hq) rfl

/-- The publisher's health turned, and every client was told. -/
theorem Told.turn (h : p.Told x) (hreg : p.Registered maxConnections) (hx : x ∉ throws)
    (hframe : frame.signal = some p.publisherHealthy) :
    (broadcastSystemEvent { p with publisherHealthy := !p.publisherHealthy } throws frame).Told x := by
  obtain ⟨next, hnext, hkept⟩ := h.alternate
  refine ⟨?_⟩
  simp only [broadcastSystemEvent]
  rw [registered_writeEach.1, registered_writeEach.2, publisherHealthy_writeEach]
  change ∃ next, nextSignal true ((writeEach throws frame p.clientList _).signals x) = _ ∧ _
  rw [signals_writeEach hreg.nodup_clientList hx, hframe]
  by_cases hmem : x ∈ p.clientList
  · rw [if_pos hmem]
    obtain rfl := hkept (hreg.mem_clientList.mp hmem)
    refine ⟨!p.publisherHealthy, ?_, fun _ => rfl⟩
    exact (nextSignal_concat hnext).trans (if_pos rfl)
  · rw [if_neg hmem, List.append_nil]
    exact ⟨next, hnext, fun hq => absurd (hreg.mem_clientList.mpr hq) hmem⟩

theorem Told.onPublisherDown {reason : String} (h : p.Told x) (hreg : p.Registered maxConnections)
    (hx : x ∉ throws) : (p.onPublisherDown throws reason).Told x := by
  unfold SseReplica.onPublisherDown
  split
  · rename_i hhealthy
    have hframe : (SseFrame.degraded reason).signal = some p.publisherHealthy :=
      congrArg some hhealthy.symm
    have hturn := h.turn hreg hx hframe
    rwa [hhealthy] at hturn
  · exact h

theorem Told.onPublisherUp (h : p.Told x) (hreg : p.Registered maxConnections) (hx : x ∉ throws) :
    (p.onPublisherUp throws).Told x := by
  unfold SseReplica.onPublisherUp
  split
  · exact h
  · rename_i hdown
    rw [Bool.not_eq_true] at hdown
    have hframe : SseFrame.recovered.signal = some p.publisherHealthy := congrArg some hdown.symm
    have hturn := h.turn hreg hx hframe
    rwa [hdown] at hturn

theorem Told.streamPaymentEvents (h : p.Told x) (hunwritten : (p.response res).written = [])
    (hx : x ∉ throws) : (p.streamPaymentEvents true maxConnections throws schoolId res).Told x := by
  unfold SseReplica.streamPaymentEvents
  split
  · rename_i q hq
    rcases addClient_cases hq with ⟨hcontra, -⟩ | ⟨-, hregisters⟩
    · cases hcontra
    · by_cases heq : x = res
      · subst heq
        refine ⟨⟨p.publisherHealthy, ?_, fun _ => hregisters.publisherHealthy.symm⟩⟩
        rw [signals, hregisters.response, if_pos rfl]
        cases hhealthy : p.publisherHealthy <;>
          simp [hunwritten, connectFrames, hx, SseFrame.signal, nextSignal]
      · refine h.of_eq ?_ hregisters.publisherHealthy fun hreg => ?_
        · rw [signals, hregisters.response, if_neg heq]
          rfl
        · rwa [hregisters.response, if_neg heq] at hreg
  · rename_i q hq
    rcases addClient_cases hq with ⟨-, rfl⟩ | ⟨hcontra, -⟩
    · exact (h.write rfl).endResponse
    · cases hcontra

end SseReplica

namespace SseSystem
open SseReplica
variable {maxConnections : Int} {s t : SseSystem} {a : SseAction} {q x : Nat}

/-- What the step tells the clients of replica `q` reaches the response. -/
def Reaches (q x : Nat) (s : SseSystem) : SseAction → Prop
  | .connect r throws _ _ | .publisherError r throws _ | .publisherReady r throws
  | .publisherEnd r throws => r = q → x ∉ throws
  | .reject id throws _ => ∀ e ∈ s.emits id, e.replica = q → x ∉ throws
  | _ => True

theorem told_step (h : (s.replica q).Told x) (hreg : (s.replica q).Registered maxConnections)
    (hok : Reaches q x s a) (hs : step true maxConnections s a = some t) : (t.replica q).Told x := by
  have hlink (link : Link String SseMessage) :
      ({ s.replica q with subscriber := link } : SseReplica).Told x := ⟨h.alternate⟩
  cases takes_of_step hs with
  | connect hnew hunwritten =>
    exact setReplica_of h fun hr => hr ▸ h.streamPaymentEvents (hr ▸ hunwritten) (hok hr)
  | close => exact setReplica_of h fun hr => hr ▸ h.removeClient
  | heartbeat =>
    refine setReplica_of h fun hr => ?_
    subst hr
    unfold SseReplica.heartbeat
    split
    · exact h.removeClient
    · exact h.write rfl
  | emit => exact h
  | carryOut => exact hlink _
  | resolve => exact h
  | reject he => exact setReplica_of h fun hr => hr ▸ (h.onPublisherDown hreg (hok _ he hr)).fanout
  | publisherError => exact setReplica_of h fun hr => hr ▸ h.onPublisherDown hreg (hok hr)
  | publisherReady => exact setReplica_of h fun hr => hr ▸ h.onPublisherUp hreg (hok hr)
  | publisherEnd => exact setReplica_of h fun hr => hr ▸ h.onPublisherDown hreg (hok hr)
  | commandCarriedOut => exact setReplica_of h fun hr => hr ▸ hlink _
  | commandRefused => exact setReplica_of h fun hr => hr ▸ hlink _
  | receive =>
    refine setReplica_of h fun hr => ?_
    subst hr
    unfold onSubscriberMessage
    split
    · exact hlink _
    · exact (hlink _).fanout
  | lose => exact setReplica_of h fun hr => hr ▸ hlink _
  | closeAll => exact setReplica_of h fun hr => hr ▸ h.closeAll

end SseSystem

/-- A page that reads alternating signals shows the last of them. -/
theorem foldl_degradedBanner (shown : Bool) {frames : List SseFrame} {expected next : Bool}
    (h : nextSignal expected (frames.filterMap SseFrame.signal) = some next) :
    frames.foldl degradedBanner shown =
      if frames.filterMap SseFrame.signal = [] then shown else !next := by
  induction frames generalizing shown expected with
  | nil => rfl
  | cons frame rest ih =>
    rw [List.foldl_cons]
    cases hframe : frame.signal with
    | none =>
      rw [List.filterMap_cons_none hframe] at h ⊢
      rw [degradedBanner, hframe]
      exact ih shown h
    | some b =>
      rw [List.filterMap_cons_some hframe] at h ⊢
      obtain ⟨rfl, hrest⟩ := Option.ite_none_right_eq_some.mp h
      rw [if_neg (List.cons_ne_nil _ _), degradedBanner, hframe, Option.getD_some, ih b hrest]
      split
      · rename_i hnil
        rw [hnil] at hrest
        obtain rfl := Option.some.inj hrest
        exact (Bool.not_not b).symm
      · rfl

/-- **The banner.**  In every run in which a response is told what its replica tells its clients, the
signals it is sent alternate, starting with "down"; and once it is registered, a page that reads them
shows the state of its replica's publisher exactly when the page showed no banner before this
connection or was sent a signal on it. -/
theorem banner_iff {maxConnections : Int} {connected : Nat → Bool} {s : SseSystem} {q x : Nat}
    (h : Reach (SseSystem.step true maxConnections) (SseSystem.Reaches q x)
      (SseSystem.init true connected) s) :
    (∃ next, nextSignal true ((s.replica q).signals x) = some next) ∧
      ∀ schoolId, x ∈ (s.replica q).members schoolId → ∀ shown,
        (((s.replica q).response x).written.foldl degradedBanner shown = !(s.replica q).publisherHealthy ↔
          shown = false ∨ (s.replica q).signals x ≠ []) := by
  obtain ⟨htold, hreg⟩ := @Reach.invariant _ _ _ _
    (fun u => (u.replica q).Told x ∧ (u.replica q).Registered maxConnections) _ _ h
    ⟨⟨true, rfl, fun hreg => Bool.noConfusion hreg.1⟩, .new⟩
    fun hinv hok hs => ⟨SseSystem.told_step hinv.1 hinv.2 hok hs, SseSystem.registered_step hinv.2 hs⟩
  obtain ⟨next, hnext, hkept⟩ := htold.alternate
  refine ⟨⟨next, hnext⟩, fun schoolId hmem shown => ?_⟩
  obtain rfl := hkept (hreg.mem_clientList.mp (SseReplica.mem_clientList.mpr ⟨schoolId, hmem⟩))
  rw [foldl_degradedBanner shown hnext]
  change (if (s.replica q).signals x = [] then shown else _) = _ ↔ _
  split
  · rename_i hnil
    have hhealthy : (s.replica q).publisherHealthy = true := by
      rw [hnil] at hnext
      exact (Option.some.inj hnext).symm
    simp [hnil, hhealthy]
  · simp [*]

/-- A page that showed the banner before its connection to a replica whose publisher is well. -/
theorem banner_iff_left_over :
    let s := (exec (SseSystem.step true 100) (SseSystem.init true fun _ => true)
      [.connect 0 [] "s" 7]).get (by decide)
    (∃ next, nextSignal true ((s.replica 0).signals 7) = some next) ∧
      ∀ schoolId, 7 ∈ (s.replica 0).members schoolId → ∀ shown,
        (((s.replica 0).response 7).written.foldl degradedBanner shown = !(s.replica 0).publisherHealthy ↔
          shown = false ∨ (s.replica 0).signals 7 ≠ []) :=
  banner_iff (.get (by simp [SseSystem.Reaches]) (by decide))

end StellarEduPay

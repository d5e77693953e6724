import Mathlib.Data.List.Nodup
import Mathlib.Data.Set.Card
import StellarEduPay.SseService

/-! # The registry of a replica

What each operation of a replica does to its registry, its responses and its subscriber; and, from it,
what holds of every replica in every run: a school is in the registry exactly while it has clients, at
most `SSE_MAX_CONNECTIONS_PER_SCHOOL` of them, and a heartbeat runs exactly for the registered
responses.
-/
namespace StellarEduPay
open Broker JsonText Runs Function

namespace SseReplica
variable {redisEnabled : Bool} {maxConnections : Int} {p q : SseReplica} {schoolId t : String}
  {res x : Nat} {throws : List Nat} {frame : SseFrame} {message : SseMessage}

/-! ## Single operations -/

section Modify
variable {f : SseResponse → SseResponse}

@[simp] theorem modify_clients : (p.modify res f).clients = p.clients := rfl
@[simp] theorem modify_publisherHealthy : (p.modify res f).publisherHealthy = p.publisherHealthy := rfl
@[simp] theorem modify_subscriber : (p.modify res f).subscriber = p.subscriber := rfl
@[simp] theorem modify_members : (p.modify res f).members t = p.members t := rfl

theorem modify_response : (p.modify res f).response x = if x = res then f (p.response x) else p.response x := by
  simp only [modify, update_apply]
  split
  · rw [‹x = res›]
  · rfl

end Modify

@[simp] theorem write_clients : (p.write res frame).clients = p.clients := rfl
@[simp] theorem write_publisherHealthy : (p.write res frame).publisherHealthy = p.publisherHealthy := rfl
@[simp] theorem write_subscriber : (p.write res frame).subscriber = p.subscriber := rfl
@[simp] theorem write_members : (p.write res frame).members t = p.members t := rfl

@[simp] theorem command_clients {c : Command String} :
    (p.command redisEnabled c).clients = p.clients := by
  unfold command
  split <;> rfl

@[simp] theorem command_publisherHealthy {c : Command String} :
    (p.command redisEnabled c).publisherHealthy = p.publisherHealthy := by
  unfold command
  split <;> rfl

@[simp] theorem command_response {c : Command String} :
    (p.command redisEnabled c).response = p.response := by
  unfold command
  split <;> rfl

theorem command_subscriber {c : Command String} :
    (p.command redisEnabled c).subscriber =
      if redisEnabled then p.subscriber.send c else p.subscriber := by
  unfold command
  split <;> rfl

theorem mem_clients_iff : t ∈ p.clients ↔ ∃ set, p.clients.lookup t = some set := by
  rw [← AList.lookup_isSome, Option.isSome_iff_exists]

theorem members_of_lookup {set : List Nat} (h : p.clients.lookup t = some set) : p.members t = set := by
  rw [members, h]
  rfl

theorem members_of_notMem (h : t ∉ p.clients) : p.members t = [] := by
  rw [members, AList.lookup_eq_none.mpr h]
  rfl

section SetClients
variable {set : List Nat}

theorem setClients_members :
    (p.setClients schoolId set).members t = if t = schoolId then set else p.members t := by
  unfold members setClients
  split
  · rename_i heq
    rw [heq, AList.lookup_insert]
    rfl
  · rw [AList.lookup_insert_ne ‹_›]

@[simp] theorem mem_setClients : t ∈ (p.setClients schoolId set).clients ↔ t = schoolId ∨ t ∈ p.clients :=
  AList.mem_insert _

@[simp] theorem setClients_response : (p.setClients schoolId set).response = p.response := rfl
@[simp] theorem setClients_publisherHealthy :
    (p.setClients schoolId set).publisherHealthy = p.publisherHealthy := rfl
@[simp] theorem setClients_subscriber : (p.setClients schoolId set).subscriber = p.subscriber := rfl

end SetClients

theorem deleteClients_members :
    (p.deleteClients schoolId).members t = if t = schoolId then [] else p.members t := by
  unfold members deleteClients
  split
  · rename_i heq
    rw [heq, AList.lookup_erase]
    rfl
  · rw [AList.lookup_erase_ne ‹_›]

@[simp] theorem mem_deleteClients : t ∈ (p.deleteClients schoolId).clients ↔ t ≠ schoolId ∧ t ∈ p.clients :=
  AList.mem_erase

@[simp] theorem deleteClients_response : (p.deleteClients schoolId).response = p.response := rfl
@[simp] theorem deleteClients_publisherHealthy :
    (p.deleteClients schoolId).publisherHealthy = p.publisherHealthy := rfl
@[simp] theorem deleteClients_subscriber : (p.deleteClients schoolId).subscriber = p.subscriber := rfl

@[simp] theorem command_members {c : Command String} :
    (p.command redisEnabled c).members t = p.members t := by
  rw [members, command_clients]
  rfl

/-! ## The loops -/

section Rules
variable {P : SseReplica → Prop} {set : List Nat}

/-- What each write keeps, a broadcast keeps. -/
theorem writeEach_rule (hwrite : ∀ res p, P p → P (p.write res frame)) (h : P p) :
    P (writeEach throws frame set p) := by
  induction set generalizing p with
  | nil => exact h
  | cons res rest ih =>
    refine ih ?_
    split
    · exact h
    · exact hwrite res p h

/-- What each write and each removal keeps, a fan-out keeps. -/
theorem fanoutTo_rule (hwrite : ∀ res ∈ set, ∀ p, P p → P (p.write res (.event message)))
    (hremove : ∀ res ∈ set, ∀ p, P p → P (p.removeClient redisEnabled schoolId res)) (h : P p) :
    P (fanoutTo redisEnabled throws schoolId message set p) := by
  induction set generalizing p with
  | nil => exact h
  | cons res rest ih =>
    refine ih (fun x hx => hwrite x (List.mem_cons_of_mem res hx))
      (fun x hx => hremove x (List.mem_cons_of_mem res hx)) ?_
    split
    · exact hremove res List.mem_cons_self p h
    · exact hwrite res List.mem_cons_self p h

theorem closeEach_rule (hend : ∀ res ∈ set, ∀ p, P p → P (p.endClient redisEnabled schoolId res))
    (h : P p) : P (closeEach redisEnabled throws schoolId set p) := by
  induction set generalizing p with
  | nil => exact h
  | cons res rest ih =>
    refine ih (fun x hx => hend x (List.mem_cons_of_mem res hx)) ?_
    split
    · exact h
    · exact hend res List.mem_cons_self p h

/-- What ending each response keeps, closing all keeps. -/
theorem closeSchools_rule {entries : List (Σ _ : String, List Nat)}
    (hend : ∀ entry ∈ entries, ∀ res ∈ entry.2, ∀ p, P p →
      P (p.endClient redisEnabled entry.1 res)) (h : P p) :
    P (closeSchools redisEnabled throws entries p) := by
  induction entries generalizing p with
  | nil => exact h
  | cons entry rest ih =>
    exact ih (fun other hother => hend other (List.mem_cons_of_mem entry hother))
      (closeEach_rule (hend entry List.mem_cons_self) h)

end Rules

/-! ## `removeClient` -/

theorem members_removeClient :
    (p.removeClient redisEnabled schoolId res).members t =
      if t = schoolId then (p.members schoolId).erase res else p.members t := by
  unfold removeClient clearHeartbeat
  dsimp only
  rw [modify_clients]
  split
  · rename_i hnone
    rw [modify_members, members_of_notMem (AList.lookup_eq_none.mp hnone)]
    split
    · rename_i heq
      rw [heq, members_of_notMem (AList.lookup_eq_none.mp hnone)]
      rfl
    · rfl
  · rename_i set hset
    rw [members_of_lookup hset]
    split
    · rename_i hempty
      rw [List.length_eq_zero_iff.mp hempty, unsubscribeSchool, command_members, deleteClients_members]
      rfl
    · exact setClients_members

theorem mem_clients_removeClient :
    t ∈ (p.removeClient redisEnabled schoolId res).clients ↔
      t ∈ p.clients ∧ (t = schoolId → (p.members schoolId).erase res ≠ []) := by
  unfold removeClient clearHeartbeat
  dsimp only
  rw [modify_clients]
  split
  · rename_i hnone
    rw [modify_clients]
    refine ⟨fun h => ⟨h, fun heq => ?_⟩, And.left⟩
    exact absurd (heq ▸ h) (AList.lookup_eq_none.mp hnone)
  · rename_i set hset
    have hmem : schoolId ∈ p.clients := mem_clients_iff.mpr ⟨set, hset⟩
    rw [members_of_lookup hset]
    split
    · rename_i hempty
      rw [unsubscribeSchool, command_clients, mem_deleteClients, and_comm]
      simp [List.length_eq_zero_iff.mp hempty]
    · rename_i hleft
      rw [mem_setClients]
      refine ⟨fun h => ⟨?_, fun _ hnil => hleft (by rw [hnil]; rfl)⟩, fun h => .inr h.1⟩
      rcases h with rfl | h
      · exact hmem
      · exact h

theorem response_removeClient :
    (p.removeClient redisEnabled schoolId res).response = (p.clearHeartbeat res).response := by
  unfold removeClient
  dsimp only
  split
  · rfl
  · split
    · exact command_response
    · rfl

@[simp] theorem publisherHealthy_removeClient :
    (p.removeClient redisEnabled schoolId res).publisherHealthy = p.publisherHealthy := by
  unfold removeClient
  dsimp only
  split
  · rfl
  · split
    · exact command_publisherHealthy
    · rfl

/-- The last client of a school takes the subscription with it. -/
theorem subscriber_removeClient :
    (p.removeClient redisEnabled schoolId res).subscriber =
      if schoolId ∈ p.clients ∧ (p.members schoolId).erase res = [] ∧ redisEnabled then
        p.subscriber.send (.unsubscribe (sseChannel schoolId))
      else p.subscriber := by
  unfold removeClient clearHeartbeat
  dsimp only
  rw [modify_clients]
  split
  · rename_i hnone
    rw [if_neg fun h => AList.lookup_eq_none.mp hnone h.1]
    rfl
  · rename_i set hset
    have hmem : schoolId ∈ p.clients := mem_clients_iff.mpr ⟨set, hset⟩
    rw [members_of_lookup hset]
    split
    · rename_i hempty
      rw [unsubscribeSchool, command_subscriber]
      simp [hmem, List.length_eq_zero_iff.mp hempty]
    · rename_i hleft
      rw [if_neg fun h => hleft (by rw [h.2.1]; rfl)]
      rfl

/-! ## `addClient` -/

theorem openSchool_clients :
    t ∈ (p.openSchool redisEnabled schoolId).clients ↔ t = schoolId ∨ t ∈ p.clients := by
  unfold openSchool
  split
  · rename_i set hset
    refine ⟨.inr, fun h => ?_⟩
    rcases h with rfl | h
    · exact mem_clients_iff.mpr ⟨set, hset⟩
    · exact h
  · rw [subscribeSchool, command_clients, mem_setClients]

theorem openSchool_members : (p.openSchool redisEnabled schoolId).members t = p.members t := by
  unfold openSchool
  split
  · rfl
  · rename_i hnone
    rw [subscribeSchool, command_members, setClients_members]
    split
    · rename_i heq
      rw [heq, members_of_notMem (AList.lookup_eq_none.mp hnone)]
    · rfl

@[simp] theorem openSchool_response : (p.openSchool redisEnabled schoolId).response = p.response := by
  unfold openSchool
  split
  · rfl
  · exact command_response

@[simp] theorem openSchool_publisherHealthy :
    (p.openSchool redisEnabled schoolId).publisherHealthy = p.publisherHealthy := by
  unfold openSchool
  split
  · rfl
  · exact command_publisherHealthy

theorem openSchool_subscriber :
    (p.openSchool redisEnabled schoolId).subscriber =
      if schoolId ∉ p.clients ∧ redisEnabled then
        p.subscriber.send (.subscribe (sseChannel schoolId))
      else p.subscriber := by
  unfold openSchool
  split
  · rename_i set hset
    rw [if_neg fun h => h.1 (mem_clients_iff.mpr ⟨set, hset⟩)]
  · rename_i hnone
    rw [subscribeSchool, command_subscriber]
    simp [AList.lookup_eq_none.mp hnone]

/-- The frame a client is sent when it connects while Redis cannot be reached. -/
def connectFrames (redisEnabled healthy failing : Bool) : List SseFrame :=
  if redisEnabled && !healthy && !failing then [.degraded "degraded at connect time"] else []

@[simp] theorem warnDegraded_clients : (p.warnDegraded redisEnabled throws res).clients = p.clients := by
  unfold warnDegraded
  split <;> rfl

@[simp] theorem warnDegraded_publisherHealthy :
    (p.warnDegraded redisEnabled throws res).publisherHealthy = p.publisherHealthy := by
  unfold warnDegraded
  split <;> rfl

@[simp] theorem warnDegraded_subscriber :
    (p.warnDegraded redisEnabled throws res).subscriber = p.subscriber := by
  unfold warnDegraded
  split <;> rfl

theorem warnDegraded_response :
    (p.warnDegraded redisEnabled throws res).response =
      (p.modify res fun y => { y with
        written := y.written ++
          connectFrames redisEnabled p.publisherHealthy (decide (res ∈ throws)) }).response := by
  unfold warnDegraded connectFrames
  split
  · rfl
  · simp [modify]

/-- What registering a connection does. -/
structure Registers (redisEnabled : Bool) (maxConnections : Int) (throws : List Nat)
    (schoolId : String) (res : Nat) (p q : SseReplica) : Prop where
  room : schoolId ∈ p.clients → ((p.members schoolId).length : Int) < maxConnections
  members : ∀ t, q.members t = if t = schoolId then
    (if res ∈ p.members schoolId then p.members schoolId else p.members schoolId ++ [res])
    else p.members t
  clients : ∀ t, t ∈ q.clients ↔ t = schoolId ∨ t ∈ p.clients
  response : ∀ x, q.response x = if x = res then
    { p.response x with
      written := (p.response x).written ++
        connectFrames redisEnabled p.publisherHealthy (decide (res ∈ throws))
      heartbeat := true
      schoolId := some schoolId } else p.response x
  publisherHealthy : q.publisherHealthy = p.publisherHealthy
  subscriber : q.subscriber = if schoolId ∉ p.clients ∧ redisEnabled then
    p.subscriber.send (.subscribe (sseChannel schoolId)) else p.subscriber

/-- A connection is turned away, or it is registered. -/
theorem addClient_cases {accepted : Bool}
    (h : p.addClient redisEnabled maxConnections throws schoolId res = (accepted, q)) :
    (accepted = false ∧ q = p) ∨
      (accepted = true ∧ Registers redisEnabled maxConnections throws schoolId res p q) := by
  unfold addClient at h
  split at h
  · cases h
    exact .inl ⟨rfl, rfl⟩
  · rename_i hroom
    obtain ⟨rfl, rfl⟩ := Prod.mk.inj h
    refine .inr ⟨rfl, ?_⟩
    constructor
    case room =>
      intro hmem
      obtain ⟨set, hset⟩ := mem_clients_iff.mp hmem
      rw [members_of_lookup hset]
      simpa [hset] using hroom
    case members =>
      intro t
      rw [modify_members, SseReplica.members, warnDegraded_clients, ← SseReplica.members,
        setClients_members, openSchool_members, openSchool_members]
    case clients =>
      intro t
      rw [modify_clients, warnDegraded_clients, mem_setClients, openSchool_clients, or_self_left]
    case response =>
      intro x
      rw [modify_response, warnDegraded_response, modify_response]
      split
      · simp
      · simp
    case publisherHealthy => simp
    case subscriber => simp [openSchool_subscriber]

/-! ## The registry -/

/-- A school is there exactly while it has clients, each once and not too many; and a response is
among them exactly while its heartbeat runs. -/
structure Registered (maxConnections : Int) (p : SseReplica) : Prop where
  nonempty : ∀ t ∈ p.clients, p.members t ≠ []
  nodup : ∀ t, (p.members t).Nodup
  bound : ∀ t, ((p.members t).length : Int) ≤ max 1 maxConnections
  member : ∀ t x, x ∈ p.members t ↔
    (p.response x).heartbeat = true ∧ (p.response x).schoolId = some t

theorem Registered.new {connected : Bool} : (new redisEnabled connected).Registered maxConnections where
  nonempty t ht := absurd ht (AList.notMem_empty t)
  nodup _ := List.nodup_nil
  bound _ := by
    change (0 : Int) ≤ max 1 maxConnections
    omega
  member _ _ := by simp [SseReplica.new, members]

/-- The registered responses of all schools, as a broadcast goes through them. -/
def clientList (p : SseReplica) : List Nat := p.clients.entries.flatMap (·.2)

theorem mem_clientList : x ∈ p.clientList ↔ ∃ t, x ∈ p.members t := by
  rw [clientList, List.mem_flatMap]
  constructor
  · rintro ⟨⟨t, set⟩, hentry, hx⟩
    exact ⟨t, members_of_lookup (AList.mem_lookup_iff.mpr hentry) ▸ hx⟩
  · rintro ⟨t, hx⟩
    by_cases ht : t ∈ p.clients
    · obtain ⟨set, hset⟩ := mem_clients_iff.mp ht
      exact ⟨⟨t, set⟩, AList.mem_lookup_iff.mp hset, members_of_lookup hset ▸ hx⟩
    · rw [members_of_notMem ht] at hx
      cases hx

theorem Registered.mem_clientList (h : p.Registered maxConnections) :
    x ∈ p.clientList ↔ (p.response x).heartbeat = true ∧ (p.response x).schoolId.isSome := by
  rw [SseReplica.mem_clientList, Option.isSome_iff_exists]
  simp only [h.member, exists_and_left]

/-- No response is registered twice. -/
theorem Registered.nodup_clientList (h : p.Registered maxConnections) : p.clientList.Nodup := by
  have hmem {entry : Σ _ : String, List Nat} (hentry : entry ∈ p.clients.entries) :
      p.members entry.1 = entry.2 := members_of_lookup (AList.mem_lookup_iff.mpr hentry)
  refine List.nodup_flatMap.mpr ⟨fun entry hentry => hmem hentry ▸ h.nodup entry.1, ?_⟩
  refine (List.nodupKeys_iff_pairwise.mp p.clients.nodupKeys).imp_of_mem
    fun {entry other} hentry hother hne x hx hx' => hne ?_
  have hschool := ((h.member entry.1 x).mp (hmem hentry ▸ hx)).2
  exact Option.some.inj (hschool.symm.trans ((h.member other.1 x).mp (hmem hother ▸ hx')).2)

/-- The gauge of connections counts the responses whose heartbeat runs. -/
theorem Registered.getStats_connections (h : p.Registered maxConnections) :
    p.getStats.2 =
      {x | (p.response x).heartbeat = true ∧ (p.response x).schoolId.isSome}.ncard := by
  have hset : {x | (p.response x).heartbeat = true ∧ (p.response x).schoolId.isSome} =
      (p.clientList.toFinset : Set Nat) := by
    ext x
    simp [h.mem_clientList]
  rw [hset, Set.ncard_coe_finset, List.toFinset_card_of_nodup h.nodup_clientList, clientList,
    List.length_flatMap]
  rfl

/-- Neither the registry nor the heartbeats changed. -/
theorem Registered.of_eq (h : p.Registered maxConnections) (hclients : q.clients = p.clients)
    (hresponse : ∀ x, (q.response x).heartbeat = (p.response x).heartbeat ∧
      (q.response x).schoolId = (p.response x).schoolId) : q.Registered maxConnections := by
  have hmembers (t : String) : q.members t = p.members t := by rw [members, hclients]; rfl
  constructor
  case nonempty => exact fun t ht => hmembers t ▸ h.nonempty t (hclients ▸ ht)
  case nodup => exact fun t => hmembers t ▸ h.nodup t
  case bound => exact fun t => hmembers t ▸ h.bound t
  case member =>
    intro t x
    rw [hmembers, (hresponse x).1, (hresponse x).2]
    exact h.member t x

theorem Registered.write (h : p.Registered maxConnections) :
    (p.write res frame).Registered maxConnections := by
  refine h.of_eq rfl fun x => ?_
  rw [SseReplica.write, modify_response]
  split <;> exact ⟨rfl, rfl⟩

theorem Registered.removeClient (h : p.Registered maxConnections)
    (hschool : (p.response res).schoolId = some schoolId) :
    (p.removeClient redisEnabled schoolId res).Registered maxConnections := by
  constructor
  case nonempty =>
    intro t ht
    obtain ⟨hmem, hleft⟩ := mem_clients_removeClient.mp ht
    rw [members_removeClient]
    split
    · exact hleft ‹_›
    · exact h.nonempty t hmem
  case nodup =>
    intro t
    rw [members_removeClient]
    split
    · exact (h.nodup schoolId).erase res
    · exact h.nodup t
  case bound =>
    intro t
    rw [members_removeClient]
    split
    · have hle := List.length_erase_le (a := res) (l := p.members schoolId)
      have hbound := h.bound schoolId
      omega
    · exact h.bound t
  case member =>
    intro t x
    rw [members_removeClient, response_removeClient, clearHeartbeat, modify_response]
    by_cases hx : x = res
    · subst hx
      rw [if_pos rfl]
      split
      · simp [(h.nodup schoolId).not_mem_erase]
      · rename_i hne
        have hout : x ∉ p.members t := fun hmem =>
          hne (Option.some.inj (((h.member t x).mp hmem).2.symm.trans hschool))
        simp [hout]
    · rw [if_neg hx]
      split
      · rename_i heq
        rw [heq, List.mem_erase_of_ne hx]
        exact h.member schoolId x
      · exact h.member t x

theorem Registered.registers (h : p.Registered maxConnections)
    (hnew : (p.response res).schoolId = none)
    (hq : Registers redisEnabled maxConnections throws schoolId res p q) :
    q.Registered maxConnections := by
  have hout (t : String) : res ∉ p.members t := fun hmem => by
    have := ((h.member t res).mp hmem).2
    rw [hnew] at this
    cases this
  have hmembers (t : String) : q.members t =
      if t = schoolId then p.members schoolId ++ [res] else p.members t := by
    rw [hq.members, if_neg (hout schoolId)]
  constructor
  case nonempty =>
    intro t ht
    rw [hmembers]
    split
    · exact List.append_ne_nil_of_right_ne_nil _ (List.cons_ne_nil _ _)
    · rename_i hne
      exact h.nonempty t (((hq.clients t).mp ht).resolve_left hne)
  case nodup =>
    intro t
    rw [hmembers]
    split
    · exact List.concat_eq_append ▸ (h.nodup schoolId).concat (hout schoolId)
    · exact h.nodup t
  case bound =>
    intro t
    rw [hmembers]
    split
    · by_cases hmem : schoolId ∈ p.clients
      · have hroom := hq.room hmem
        rw [List.length_append, List.length_singleton]
        omega
      · rw [members_of_notMem hmem, List.nil_append, List.length_singleton]
        omega
    · exact h.bound t
  case member =>
    intro t x
    rw [hmembers, hq.response]
    by_cases hx : x = res
    · subst hx
      rw [if_pos rfl]
      split
      · rename_i heq
        simp [heq]
      · rename_i hne
        simp [hout t, Ne.symm hne]
    · rw [if_neg hx]
      split
      · rename_i heq
        simp only [List.mem_append, List.mem_singleton, hx, or_false]
        exact heq ▸ h.member schoolId x
      · exact h.member t x

theorem Registered.onPublisherDown {reason : String} (h : p.Registered maxConnections) :
    (p.onPublisherDown throws reason).Registered maxConnections := by
  unfold SseReplica.onPublisherDown
  split
  · exact writeEach_rule (fun _ _ => Registered.write) (h.of_eq rfl fun _ => ⟨rfl, rfl⟩)
  · exact h

theorem Registered.onPublisherUp (h : p.Registered maxConnections) :
    (p.onPublisherUp throws).Registered maxConnections := by
  unfold SseReplica.onPublisherUp
  split
  · exact h
  · exact writeEach_rule (fun _ _ => Registered.write) (h.of_eq rfl fun _ => ⟨rfl, rfl⟩)

theorem write_schoolId : ((p.write res frame).response x).schoolId = (p.response x).schoolId := by
  rw [SseReplica.write, modify_response]
  split <;> rfl

theorem removeClient_schoolId :
    ((p.removeClient redisEnabled schoolId res).response x).schoolId = (p.response x).schoolId := by
  rw [response_removeClient, clearHeartbeat, modify_response]
  split <;> rfl

/-- The registered responses of a school have its `close` handlers. -/
theorem Registered.schoolId_of_lookup (h : p.Registered maxConnections) {set : List Nat}
    (hset : p.clients.lookup schoolId = some set) :
    ∀ x ∈ set, (p.response x).schoolId = some schoolId := fun x hx =>
  ((h.member schoolId x).mp (members_of_lookup hset ▸ hx)).2

/-- Registered, with the `close` handlers of some responses. -/
def RegisteredFor (maxConnections : Int) (closes : Nat → Option String) (p : SseReplica) : Prop :=
  p.Registered maxConnections ∧ ∀ x, (p.response x).schoolId = closes x

theorem Registered.fanout (h : p.Registered maxConnections) :
    (p.fanout redisEnabled throws schoolId message).Registered maxConnections := by
  unfold SseReplica.fanout
  split
  · exact h
  · rename_i set hset
    refine (fanoutTo_rule (P := RegisteredFor maxConnections fun x => (p.response x).schoolId)
      (fun res _ q hq => ⟨hq.1.write, fun x => write_schoolId.trans (hq.2 x)⟩) (fun res hres q hq => ?_)
      ⟨h, fun _ => rfl⟩).1
    exact ⟨hq.1.removeClient ((hq.2 res).trans (h.schoolId_of_lookup hset res hres)),
      fun x => removeClient_schoolId.trans (hq.2 x)⟩

theorem endResponse_schoolId :
    ((p.endResponse res).response x).schoolId = (p.response x).schoolId := by
  rw [endResponse, modify_response]
  split <;> rfl

theorem Registered.endResponse (h : p.Registered maxConnections) :
    (p.endResponse res).Registered maxConnections := by
  refine h.of_eq rfl fun x => ?_
  rw [SseReplica.endResponse, modify_response]
  split <;> exact ⟨rfl, rfl⟩

/-- The heartbeat that `closeAll` clears, `removeClient` would. -/
theorem endClient_eq :
    p.endClient redisEnabled schoolId res =
      ((p.write res .retry).endResponse res).removeClient redisEnabled schoolId res := by
  simp [endClient, removeClient, clearHeartbeat, SseReplica.write, SseReplica.endResponse, modify]

theorem endClient_schoolId :
    ((p.endClient redisEnabled schoolId res).response x).schoolId = (p.response x).schoolId := by
  rw [endClient_eq, removeClient_schoolId, endResponse_schoolId, write_schoolId]

theorem Registered.endClient (h : p.Registered maxConnections)
    (hschool : (p.response res).schoolId = some schoolId) :
    (p.endClient redisEnabled schoolId res).Registered maxConnections := by
  rw [endClient_eq]
  exact h.write.endResponse.removeClient (endResponse_schoolId.trans (write_schoolId.trans hschool))

theorem Registered.closeAll (h : p.Registered maxConnections) :
    (p.closeAll redisEnabled throws).Registered maxConnections := by
  refine (closeSchools_rule (P := RegisteredFor maxConnections fun x => (p.response x).schoolId)
    (fun entry hentry res hres q hq => ?_) ⟨h, fun _ => rfl⟩).1
  have hschool := h.schoolId_of_lookup (AList.mem_lookup_iff.mpr hentry) res hres
  exact ⟨hq.1.endClient ((hq.2 res).trans hschool), fun x => endClient_schoolId.trans (hq.2 x)⟩

theorem Registered.streamPaymentEvents (h : p.Registered maxConnections)
    (hnew : (p.response res).schoolId = none) :
    (p.streamPaymentEvents redisEnabled maxConnections throws schoolId res).Registered
      maxConnections := by
  unfold SseReplica.streamPaymentEvents
  split
  · rename_i q hq
    rcases addClient_cases hq with ⟨hcontra, -⟩ | ⟨-, hregisters⟩
    · cases hcontra
    · exact h.registers hnew hregisters
  · rename_i q hq
    rcases addClient_cases hq with ⟨-, rfl⟩ | ⟨hcontra, -⟩
    · exact h.write.endResponse
    · cases hcontra

/-! ## The subscription -/

theorem sseChannel_inj : sseChannel schoolId = sseChannel t ↔ schoolId = t := by
  simp [sseChannel, String.ext_iff]

theorem sseSchool_sseChannel : sseSchool (sseChannel t) = some t := by
  rw [sseSchool, sseChannel, String.toList_append, if_pos (List.isPrefixOf_iff_prefix.mpr ⟨_, rfl⟩),
    ← String.length_toList, List.drop_left, String.ofList_toList]

/-- Once its commands are carried out, the subscriber listens to the school exactly while the
school is in the registry. -/
def Subscribed (t : String) (p : SseReplica) : Prop :=
  sseChannel t ∈ p.subscriber.settled ↔ t ∈ p.clients

theorem Subscribed.settled_iff (h : p.Subscribed t) :
    sseChannel t ∈ p.subscriber.settled ↔ t ∈ p.clients := h

theorem Subscribed.link {link : Link String SseMessage} (h : p.Subscribed t)
    (hsettled : sseChannel t ∈ link.settled ↔ sseChannel t ∈ p.subscriber.settled) :
    ({ p with subscriber := link } : SseReplica).Subscribed t := hsettled.trans h

theorem Subscribed.write (h : p.Subscribed t) : (p.write res frame).Subscribed t := h

theorem Subscribed.removeClient (h : p.Subscribed t) :
    (p.removeClient true schoolId res).Subscribed t := by
  rw [Subscribed, mem_clients_removeClient, subscriber_removeClient]
  by_cases ht : t = schoolId
  · subst ht
    split
    · rename_i hlast
      simp [hlast.2.1]
    · rename_i hleft
      rw [h.settled_iff]
      exact ⟨fun hmem => ⟨hmem, fun _ hnil => hleft ⟨hmem, hnil, rfl⟩⟩, And.left⟩
  · split
    · simp [h.settled_iff, sseChannel_inj, ht]
    · simp [h.settled_iff, ht]

theorem Subscribed.registers (h : p.Subscribed t)
    (hq : Registers true maxConnections throws schoolId res p q) : q.Subscribed t := by
  rw [Subscribed, hq.clients, hq.subscriber]
  split
  · rw [Link.settled_send, Command.mem_apply_subscribe, sseChannel_inj, h.settled_iff, or_comm]
  · rename_i hknown
    rw [h.settled_iff]
    refine ⟨.inr, fun hor => hor.elim (fun heq => ?_) id⟩
    subst heq
    exact Decidable.byContradiction fun hout => hknown ⟨hout, rfl⟩

theorem Subscribed.onPublisherDown {reason : String} (h : p.Subscribed t) :
    (p.onPublisherDown throws reason).Subscribed t := by
  unfold SseReplica.onPublisherDown
  split
  · exact writeEach_rule (fun _ _ => Subscribed.write) h
  · exact h

theorem Subscribed.onPublisherUp (h : p.Subscribed t) : (p.onPublisherUp throws).Subscribed t := by
  unfold SseReplica.onPublisherUp
  split
  · exact h
  · exact writeEach_rule (fun _ _ => Subscribed.write) h

theorem Subscribed.fanout (h : p.Subscribed t) :
    (p.fanout true throws schoolId message).Subscribed t := by
  unfold SseReplica.fanout
  split
  · exact h
  · exact fanoutTo_rule (fun _ _ _ => Subscribed.write) (fun _ _ _ => Subscribed.removeClient) h

theorem Subscribed.closeAll (h : p.Subscribed t) : (p.closeAll true throws).Subscribed t := by
  refine closeSchools_rule (fun entry _ res _ q hq => ?_) h
  rw [endClient_eq]
  exact Subscribed.removeClient (p := (q.write res .retry).endResponse res) hq

theorem Subscribed.streamPaymentEvents (h : p.Subscribed t) :
    (p.streamPaymentEvents true maxConnections throws schoolId res).Subscribed t := by
  unfold SseReplica.streamPaymentEvents
  split
  · rename_i q hq
    rcases addClient_cases hq with ⟨hcontra, -⟩ | ⟨-, hregisters⟩
    · cases hcontra
    · exact h.registers hregisters
  · rename_i q hq
    rcases addClient_cases hq with ⟨-, rfl⟩ | ⟨hcontra, -⟩
    · exact h
    · cases hcontra

end SseReplica

namespace SseSystem
open SseReplica
variable {redisEnabled : Bool} {maxConnections : Int} {s t : SseSystem} {a : SseAction} {q : Nat}

theorem registered_step (h : (s.replica q).Registered maxConnections)
    (hs : step redisEnabled maxConnections s a = some t) :
    (t.replica q).Registered maxConnections := by
  have hlink (link : Link String SseMessage) :
      ({ s.replica q with subscriber := link } : SseReplica).Registered maxConnections :=
    h.of_eq rfl fun _ => ⟨rfl, rfl⟩
  cases takes_of_step hs with
  | connect hnew => exact setReplica_of h fun hr => hr ▸ h.streamPaymentEvents (hr ▸ hnew)
  | close hschool => exact setReplica_of h fun hr => hr ▸ h.removeClient (hr ▸ hschool)
  | heartbeat hrunning hschool =>
    refine setReplica_of h fun hr => ?_
    subst hr
    unfold SseReplica.heartbeat
    split
    · exact h.removeClient hschool
    · exact h.write
  | emit =>
    unfold SseSystem.emit
    split
    · exact h
    · exact setReplica_of h fun hr => hr ▸ h.fanout
  | carryOut he hway => exact hlink _
  | resolve he hway => exact h
  | reject he hway => exact setReplica_of h fun hr => hr ▸ h.onPublisherDown.fanout
  | publisherError => exact setReplica_of h fun hr => hr ▸ h.onPublisherDown
  | publisherReady => exact setReplica_of h fun hr => hr ▸ h.onPublisherUp
  | publisherEnd => exact setReplica_of h fun hr => hr ▸ h.onPublisherDown
  | commandCarriedOut => exact setReplica_of h fun hr => hr ▸ hlink _
  | commandRefused => exact setReplica_of h fun hr => hr ▸ hlink _
  | receive =>
    refine setReplica_of h fun hr => ?_
    subst hr
    unfold onSubscriberMessage
    split
    · exact hlink _
    · exact (hlink _).fanout
  | lose => exact setReplica_of h fun hr => hr ▸ hlink _
  | closeAll => exact setReplica_of h fun hr => hr ▸ h.closeAll

/-- **The registry of every replica in every run.**  It holds a school exactly while the school has
clients, at most as many as the cap, a heartbeat runs exactly for the registered responses, and the
gauge of connections counts these. -/
theorem registered_of_reach {connected : Nat → Bool}
    (h : Reach (step redisEnabled maxConnections) Free (init redisEnabled connected) s) (r : Nat) :
    (s.replica r).Registered maxConnections ∧
      (s.replica r).getStats.2 = {x | ((s.replica r).response x).heartbeat = true ∧
        ((s.replica r).response x).schoolId.isSome}.ncard := by
  have hreg : (s.replica r).Registered maxConnections :=
    h.invariant .new fun hinv _ hs => registered_step hinv hs
  exact ⟨hreg, hreg.getStats_connections⟩

/-- Two connections of a school that may have one. -/
theorem registered_of_reach_turned_away :
    let s := (exec (step true 1) (init true fun _ => true)
      [.connect 0 [] "s" 7, .connect 0 [] "s" 8]).get (by decide)
    (s.replica 0).Registered 1 ∧
      (s.replica 0).getStats.2 = {x | ((s.replica 0).response x).heartbeat = true ∧
        ((s.replica 0).response x).schoolId.isSome}.ncard :=
  registered_of_reach (reach_get (by decide)) 0

/-- No step of the run refuses a command for the school's channel. -/
def Unrefused (q : Nat) (schoolId : String) (s : SseSystem) : SseAction → Prop
  | .commandRefused r => r = q →
      ∀ command ∈ (s.replica q).subscriber.commands.head?, command.channel ≠ sseChannel schoolId
  | _ => True

theorem subscribed_step {schoolId : String} (h : (s.replica q).Subscribed schoolId)
    (hok : Unrefused q schoolId s a) (hs : step true maxConnections s a = some t) :
    (t.replica q).Subscribed schoolId := by
  cases takes_of_step hs with
  | connect => exact setReplica_of h fun hr => hr ▸ h.streamPaymentEvents
  | close => exact setReplica_of h fun hr => hr ▸ h.removeClient
  | heartbeat =>
    refine setReplica_of h fun hr => ?_
    subst hr
    unfold SseReplica.heartbeat
    split
    · exact h.removeClient
    · exact h
  | emit => exact h
  | carryOut => exact h.link (by rw [Link.settled_deliver]; rfl)
  | resolve => exact h
  | reject => exact setReplica_of h fun hr => hr ▸ h.onPublisherDown.fanout
  | publisherError => exact setReplica_of h fun hr => hr ▸ h.onPublisherDown
  | publisherReady => exact setReplica_of h fun hr => hr ▸ h.onPublisherUp
  | publisherEnd => exact setReplica_of h fun hr => hr ▸ h.onPublisherDown
  | commandCarriedOut hlink =>
    refine setReplica_of h fun hr => ?_
    subst hr
    exact h.link (by rw [Link.settled_carryOut hlink])
  | commandRefused hlink =>
    refine setReplica_of h fun hr => ?_
    subst hr
    exact h.link (Link.mem_settled_refuse hlink (hok rfl))
  | receive hlink =>
    refine setReplica_of h fun hr => ?_
    subst hr
    have hreceived := h.link (by rw [Link.settled_receive hlink])
    unfold onSubscriberMessage
    split
    · exact hreceived
    · exact hreceived.fanout
  | lose hlink =>
    refine setReplica_of h fun hr => ?_
    subst hr
    exact h.link (by rw [Link.settled_receive hlink])
  | closeAll => exact setReplica_of h fun hr => hr ▸ h.closeAll

/-- **The subscription follows the registry.**  In every run in which no command for the school's
channel fails, a replica's subscriber, once it has carried out what it was asked, listens to the
channel exactly while the replica has clients of the school. -/
theorem subscribed_of_reach {connected : Nat → Bool} {r : Nat} {schoolId : String}
    (h : Reach (step true maxConnections) (Unrefused r schoolId) (init true connected) s) :
    sseChannel schoolId ∈ (s.replica r).subscriber.settled ↔
      (s.replica r).members schoolId ≠ [] := by
  have hsub : (s.replica r).Subscribed schoolId :=
    h.invariant (iff_of_false List.not_mem_nil (AList.notMem_empty _))
      fun hinv hok hs => subscribed_step hinv hok hs
  have hreg := (registered_of_reach (h.mono fun _ _ _ => trivial) r).1
  rw [hsub.settled_iff]
  exact ⟨hreg.nonempty schoolId, fun hne => Decidable.byContradiction fun hout =>
    hne (members_of_notMem hout)⟩

/-- The last client of a school leaves before the subscription is there. -/
theorem subscribed_of_reach_left :
    let s := (exec (step true 1) (init true fun _ => true)
      [.connect 0 [] "s" 7, .close 0 7, .commandCarriedOut 0]).get (by decide)
    sseChannel "s" ∈ (s.replica 0).subscriber.settled ↔ (s.replica 0).members "s" ≠ [] :=
  subscribed_of_reach (.get (by simp [Unrefused]) (by decide))

end SseSystem

end StellarEduPay

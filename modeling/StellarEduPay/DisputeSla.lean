import StellarEduPay.Collection
import StellarEduPay.Disputes
import StellarEduPay.Runs

/-! # The deadline of a dispute (`services/disputeNotificationService.js`, `models/disputeModel.js`)

A sweep claims the overdue disputes one after the other, each by one atomic update that marks it as
notified, and after each claim alerts the admins, the streams and the webhooks.  Sweeps of several
replicas may overlap, disputes are raised and change their status in between, and a replica may die
between a claim and its alerts.  No dispute is alerted twice, and after a sweep that was not cut off by
its batch no overdue dispute is left without an alert.
-/
namespace StellarEduPay
open Runs Function

/-! ## Disputes and their deadlines -/

/-- The fields of a dispute that the sweep reads and writes; dates in milliseconds. -/
structure SlaDispute where
  id : String
  status : DisputeStatus
  slaDeadline : Option Int
  slaBreachedAt : Option Int
  slaBreachNotifiedAt : Option Int
  escalationLevel : Nat
  escalatedAt : Option Int
  deriving DecidableEq

def HOUR_MS : Int := 60 * 60 * 1000

namespace SlaDispute
variable (now : Int) (d : SlaDispute)

/-- The pre-save hook. -/
def preSave : SlaDispute :=
  if d.status.active ∧ d.slaDeadline.any fun deadline => decide (deadline < now) then
    if d.slaBreachedAt.isNone then
      { d with slaBreachedAt := some now, escalationLevel := 2, escalatedAt := some now }
    else d
  else if d.status = .underReview ∧ d.escalationLevel < 1 ∧
      d.slaDeadline.any fun deadline => decide (now < deadline ∧ deadline ≤ now + 24 * HOUR_MS) then
    { d with escalationLevel := 1 }
  else d

/-- What `flagDispute` creates, with the defaults of the schema. -/
def flagged (slaHours : Int) (id : String) : SlaDispute :=
  preSave now ⟨id, .opened, some (now + slaHours * HOUR_MS), none, none, 0, none⟩

/-- The filter of the sweep: still active, past its deadline and not notified. -/
def due : Bool :=
  d.status.active && d.slaDeadline.any (fun deadline => decide (deadline < now)) &&
    d.slaBreachNotifiedAt.isNone

/-- The update of the sweep. -/
def breach : SlaDispute :=
  { d with
    slaBreachNotifiedAt := some now
    escalationLevel := 2
    slaBreachedAt := d.slaBreachedAt.or (some now)
    escalatedAt := d.escalatedAt.or (some now) }

end SlaDispute

abbrev SlaDisputes := Collection SlaDispute String SlaDispute.id

namespace SlaDisputes
variable (c : SlaDisputes)

/-- `sort: { slaDeadline: 1 }`: nothing that is due has an earlier deadline. -/
def First (now : Int) (d : SlaDispute) : Prop :=
  d ∈ c.docs ∧ d.due now = true ∧ ∀ e ∈ c.docs, e.due now = true →
    ∀ x ∈ d.slaDeadline, ∀ y ∈ e.slaDeadline, x ≤ y

instance (now : Int) (d : SlaDispute) : Decidable (First c now d) :=
  inferInstanceAs (Decidable (_ ∧ _ ∧ ∀ e ∈ c.docs, e.due now = true →
    ∀ x ∈ d.slaDeadline, ∀ y ∈ e.slaDeadline, x ≤ y))

/-- `findOneAndUpdate` by the sweep, which finds `d`. -/
def claim (now : Int) (d : SlaDispute) : SlaDisputes :=
  c.modify d.id (SlaDispute.breach now) fun _ => rfl

/-- The update of `resolveDispute`, which filters on the id only. -/
def setStatus (id : String) (status : DisputeStatus) : SlaDisputes :=
  c.modify id (fun d => { d with status }) fun _ => rfl

end SlaDisputes

/-! ## The system -/

/-- What is alerted of a breach: `notifyAdmins`, the SSE event and the webhook. -/
inductive SlaChannel
  | admins
  | sse
  | webhook
  deriving DecidableEq

/-- A call of an alert: where, and the dispute as the claim returned it. -/
abbrev SlaAlert := SlaChannel × SlaDispute

/-- Where, and of which dispute. -/
def slaTag (a : SlaAlert) : SlaChannel × String := (a.1, a.2.id)

/-- The alerts of a claimed dispute, in the order the sweep makes them. -/
def slaAlerts (d : SlaDispute) : List SlaAlert := [(.admins, d), (.sse, d), (.webhook, d)]

/-- A sweep under way: its date, the disputes it claimed so far, and the alerts that are left of the
last of them. -/
structure SlaSweep where
  now : Int
  breached : Nat
  work : List SlaAlert

/-- The disputes, the calls of `resolveDispute` that have read theirs, the sweeps by process, and the
alerts made, latest first. -/
structure SlaSystem where
  now : Int
  disputes : SlaDisputes
  resolving : Nat → Option (String × DisputeStatus)
  sweeps : Nat → Option SlaSweep
  alerts : List SlaAlert

def SLA_SWEEP_BATCH : Nat := 100

inductive SlaAction
  | tick (ms : Nat)
  | flag (id : String)
  | readDispute (request : Nat) (id : String) (target : DisputeStatus)
  | writeDispute (request : Nat)
  | giveUp (request : Nat)
  | startSweep (process : Nat)
  | claim (process : Nat) (d : SlaDispute)
  | alert (process : Nat)
  | endSweep (process : Nat)
  | crash (process : Nat)

namespace SlaSystem
variable (slaHours : Int) (s : SlaSystem)

/-- No disputes yet. -/
def init (now : Int) : SlaSystem := ⟨now, .empty, fun _ => none, fun _ => none, []⟩

def setSweep (process : Nat) (w : SlaSweep) : SlaSystem :=
  { s with sweeps := update s.sweeps process (some w) }

/-- Between any two database calls of a sweep anything else may happen; `_running` keeps a process to
one sweep.  A query that fails ends the sweep as a crash does. -/
def step : SlaAction → Option SlaSystem
  | .tick ms => some { s with now := s.now + ms }
  | .flag id =>
    (s.disputes.insert (.flagged s.now slaHours id)).map fun disputes => { s with disputes }
  | .readDispute request id target =>
    (s.disputes.findOne fun d => d.id == id).bind fun d =>
      if isValidTransition d.status target then
        some { s with resolving := update s.resolving request (some (id, target)) }
      else none
  | .writeDispute request =>
    (s.resolving request).map fun (id, target) =>
      { s with
        resolving := update s.resolving request none
        disputes := s.disputes.setStatus id target }
  | .giveUp request => some { s with resolving := update s.resolving request none }
  | .startSweep process =>
    if (s.sweeps process).isSome then none else some (s.setSweep process ⟨s.now, 0, []⟩)
  | .claim process d =>
    (s.sweeps process).bind fun w =>
      if w.work = [] ∧ w.breached < SLA_SWEEP_BATCH ∧ s.disputes.First w.now d then
        some { s with
          disputes := s.disputes.claim w.now d
          sweeps := update s.sweeps process
            (some { w with breached := w.breached + 1, work := slaAlerts (d.breach w.now) }) }
      else none
  | .alert process =>
    (s.sweeps process).bind fun w =>
      match w.work with
      | [] => none
      | a :: rest => some { (s.setSweep process { w with work := rest }) with alerts := a :: s.alerts }
  | .endSweep process =>
    (s.sweeps process).bind fun w =>
      if w.work = [] ∧
          (w.breached = SLA_SWEEP_BATCH ∨ ∀ d ∈ s.disputes.docs, d.due w.now = false) then
        some { s with sweeps := update s.sweeps process none }
      else none
  | .crash process => some { s with sweeps := update s.sweeps process none }

end SlaSystem

/-! ## What a dispute records -/

namespace SlaDispute
variable {now : Int} {d : SlaDispute}

theorem due_iff : d.due now = true ↔
    d.status.active = true ∧ (∃ deadline ∈ d.slaDeadline, deadline < now) ∧
      d.slaBreachNotifiedAt = none := by
  simp [due, and_assoc, Option.any_eq_true]

/-- The dispute was active and overdue when it was claimed, and its record says so. -/
structure Breached (d : SlaDispute) : Prop where
  active : d.status.active = true
  overdue : ∃ deadline ∈ d.slaDeadline, ∃ notified ∈ d.slaBreachNotifiedAt, deadline < notified
  breachedAt : d.slaBreachedAt.isSome = true
  escalatedAt : d.escalatedAt.isSome = true
  escalationLevel : d.escalationLevel = 2

theorem breach_breached (h : d.due now = true) : (d.breach now).Breached := by
  obtain ⟨hactive, ⟨deadline, hdeadline, hlt⟩, -⟩ := due_iff.mp h
  refine ⟨hactive, ⟨deadline, hdeadline, now, rfl, hlt⟩, ?_, ?_, rfl⟩
  · simp [breach]
  · simp [breach]

@[simp] theorem preSave_id : (d.preSave now).id = d.id := by
  unfold preSave
  repeat' split
  all_goals rfl

@[simp] theorem preSave_status : (d.preSave now).status = d.status := by
  unfold preSave
  repeat' split
  all_goals rfl

@[simp] theorem preSave_slaDeadline : (d.preSave now).slaDeadline = d.slaDeadline := by
  unfold preSave
  repeat' split
  all_goals rfl

@[simp] theorem preSave_slaBreachNotifiedAt :
    (d.preSave now).slaBreachNotifiedAt = d.slaBreachNotifiedAt := by
  unfold preSave
  repeat' split
  all_goals rfl

end SlaDispute

namespace SlaDisputes
variable {c c' : SlaDisputes} {now : Int} {d : SlaDispute}

/-- Every dispute is still there, and what was marked as notified is still marked so. -/
def Keeps (c c' : SlaDisputes) : Prop :=
  ∀ e ∈ c.docs, ∃ e' ∈ c'.docs, e'.id = e.id ∧
    (e.slaBreachNotifiedAt.isSome → e'.slaBreachNotifiedAt = e.slaBreachNotifiedAt)

theorem Keeps.refl : Keeps c c := fun e he => ⟨e, he, rfl, fun _ => rfl⟩

theorem keeps_insert (h : c.insert d = some c') : Keeps c c' := fun e he =>
  ⟨e, by rw [c.insert_docs h]; exact List.mem_append_left _ he, rfl, fun _ => rfl⟩

theorem mem_setStatus {id : String} {status : DisputeStatus} :
    d ∈ (c.setStatus id status).docs ↔
      ∃ e ∈ c.docs, (if e.id = id then { e with status } else e) = d :=
  List.mem_map

theorem keeps_setStatus (id : String) (status : DisputeStatus) : Keeps c (c.setStatus id status) := by
  intro e he
  refine ⟨_, mem_setStatus.mpr ⟨e, he, rfl⟩, ?_⟩
  split
  · exact ⟨rfl, fun _ => rfl⟩
  · exact ⟨rfl, fun _ => rfl⟩

/-- A claim changes a dispute that was not marked. -/
theorem keeps_claim (h : c.First now d) : Keeps c (c.claim now d) := by
  intro e he
  refine ⟨_, (c.mem_modify _).mpr ⟨e, he, rfl⟩, ?_⟩
  split
  · rename_i hid
    obtain rfl := c.eq_of_key he h.1 hid
    exact ⟨rfl, fun hsome => by simp [(SlaDispute.due_iff.mp h.2.1).2.2] at hsome⟩
  · exact ⟨rfl, fun _ => rfl⟩

theorem mem_claim (h : c.First now d) {e : SlaDispute} :
    e ∈ (c.claim now d).docs ↔ e = d.breach now ∨ (e ∈ c.docs ∧ e.id ≠ d.id) :=
  c.mem_modify_key _ h.1

/-- The dispute is marked as notified, at the time the alert says. -/
def Marks (c : SlaDisputes) (d : SlaDispute) : Prop :=
  ∃ e ∈ c.docs, e.id = d.id ∧ e.slaBreachNotifiedAt = d.slaBreachNotifiedAt

theorem Marks.keep (h : c.Marks d) (hd : d.Breached) (hkeeps : Keeps c c') : c'.Marks d := by
  obtain ⟨e, he, hid, hnotified⟩ := h
  obtain ⟨e', he', hid', hsame⟩ := hkeeps e he
  obtain ⟨-, -, notified, hsome, -⟩ := hd.overdue
  refine ⟨e', he', hid'.trans hid, (hsame ?_).trans hnotified⟩
  rw [hnotified, Option.mem_def.mp hsome]
  rfl

end SlaDisputes

/-! ## At most once -/

namespace SlaSystem
variable {slaHours : Int} {s t : SlaSystem} {a : SlaAction} {p : Nat} {w : SlaSweep} {x y : SlaAlert}

/-- The alert was made, or a sweep is about to make it. -/
def Tells (s : SlaSystem) (x : SlaAlert) : Prop :=
  x ∈ s.alerts ∨ ∃ p w, s.sweeps p = some w ∧ x ∈ w.work

/-- **The invariant.**  Nothing is alerted twice or still to be alerted twice, one sweep has a claimed
dispute, and what is alerted was overdue and is marked. -/
structure Alerted (s : SlaSystem) : Prop where
  alerts : (s.alerts.map slaTag).Nodup
  work : ∀ p w, s.sweeps p = some w → (w.work.map slaTag).Nodup
  fresh : ∀ p w, s.sweeps p = some w → ∀ x ∈ w.work, slaTag x ∉ s.alerts.map slaTag
  own : ∀ p q w v, s.sweeps p = some w → s.sweeps q = some v →
    ∀ x ∈ w.work, ∀ y ∈ v.work, x.2.id = y.2.id → p = q
  told : ∀ x, s.Tells x → x.2.Breached ∧ s.disputes.Marks x.2

theorem alerted_init (now : Int) : (init now).Alerted :=
  ⟨List.nodup_nil, fun _ _ hp => (nomatch hp), fun _ _ hp => (nomatch hp), fun _ _ _ _ hp => (nomatch hp),
    fun _ hx => hx.elim (fun hx => (nomatch hx)) fun ⟨_, _, hp, _⟩ => (nomatch hp)⟩

/-- The sweeps of the later state are sweeps of the earlier one, some with less to do. -/
def Fewer (s t : SlaSystem) : Prop :=
  ∀ p v, t.sweeps p = some v → v.work ≠ [] → ∃ w, s.sweeps p = some w ∧ v.work.Sublist w.work

/-- A step that alerts nothing and claims nothing. -/
theorem Alerted.calm (h : s.Alerted) (halerts : t.alerts = s.alerts) (hfewer : Fewer s t)
    (hkeeps : s.disputes.Keeps t.disputes) : t.Alerted := by
  have hold : ∀ p v, t.sweeps p = some v → ∀ x ∈ v.work, ∃ w, s.sweeps p = some w ∧ x ∈ w.work := by
    intro p v hv x hx
    obtain ⟨w, hw, hsub⟩ := hfewer p v hv (List.ne_nil_of_mem hx)
    exact ⟨w, hw, hsub.subset hx⟩
  constructor
  case alerts => rw [halerts]; exact h.alerts
  case work =>
    intro p v hv
    by_cases hnil : v.work = []
    · rw [hnil]
      exact List.nodup_nil
    · obtain ⟨w, hw, hsub⟩ := hfewer p v hv hnil
      exact (h.work p w hw).sublist (hsub.map slaTag)
  case fresh =>
    intro p v hv x hx
    obtain ⟨w, hw, hxw⟩ := hold p v hv x hx
    rw [halerts]
    exact h.fresh p w hw x hxw
  case own =>
    intro p q v v' hv hv' x hx y hy hid
    obtain ⟨w, hw, hxw⟩ := hold p v hv x hx
    obtain ⟨w', hw', hyw⟩ := hold q v' hv' y hy
    exact h.own p q w w' hw hw' x hxw y hyw hid
  case told =>
    intro x hx
    have hs : s.Tells x := by
      rcases hx with hx | ⟨p, v, hv, hx⟩
      · exact .inl (halerts ▸ hx)
      · obtain ⟨w, hw, hxw⟩ := hold p v hv x hx
        exact .inr ⟨p, w, hw, hxw⟩
    obtain ⟨hbreached, hmarks⟩ := h.told x hs
    exact ⟨hbreached, hmarks.keep hbreached hkeeps⟩

theorem fewer_of_sweeps (h : t.sweeps = s.sweeps) : Fewer s t := fun p v hv _ =>
  ⟨v, by rw [← h]; exact hv, List.Sublist.refl _⟩

/-- A sweep starts, or ends. -/
theorem fewer_update (hsweeps : t.sweeps = update s.sweeps p none ∨
    ∃ w, w.work = [] ∧ t.sweeps = update s.sweeps p (some w)) : Fewer s t := by
  intro q v hv hne
  rcases hsweeps with hsweeps | ⟨w, hnil, hsweeps⟩
  · rw [hsweeps] at hv
    exact ⟨v, (update_none_iff.mp hv).2, List.Sublist.refl _⟩
  · rw [hsweeps] at hv
    rcases update_some_iff.mp hv with ⟨-, rfl⟩ | ⟨-, hold⟩
    · exact absurd hnil hne
    · exact ⟨v, hold, List.Sublist.refl _⟩

/-- Nothing was alerted, or is about to be, of a dispute that is not marked. -/
theorem Alerted.unmarked (h : s.Alerted) {d : SlaDispute} (hd : d ∈ s.disputes.docs)
    (hnone : d.slaBreachNotifiedAt = none) (hx : s.Tells x) : x.2.id ≠ d.id := by
  intro hid
  obtain ⟨hbreached, e, he, heid, hmark⟩ := h.told x hx
  obtain rfl := s.disputes.eq_of_key he hd (heid.trans hid)
  obtain ⟨-, -, notified, hsome, -⟩ := hbreached.overdue
  rw [← hmark, hnone] at hsome
  exact nomatch hsome

theorem mem_slaAlerts {d : SlaDispute} : x ∈ slaAlerts d ↔ x.2 = d := by
  obtain ⟨c, e⟩ := x
  cases c <;> simp [slaAlerts]

theorem nodup_slaAlerts (d : SlaDispute) : ((slaAlerts d).map slaTag).Nodup := by
  simp [slaAlerts, slaTag]

/-- **A claim.** -/
theorem Alerted.claim (h : s.Alerted) (hw : s.sweeps p = some w) {d : SlaDispute}
    (hfirst : s.disputes.First w.now d) :
    ({ s with
      disputes := s.disputes.claim w.now d
      sweeps := update s.sweeps p
        (some { w with breached := w.breached + 1, work := slaAlerts (d.breach w.now) }) } :
      SlaSystem).Alerted := by
  have hdue := SlaDispute.due_iff.mp hfirst.2.1
  have hother : ∀ x, s.Tells x → x.2.id ≠ d.id := fun x => h.unmarked hfirst.1 hdue.2.2
  constructor
  case alerts => exact h.alerts
  case work =>
    intro q v hv
    rcases update_some_iff.mp hv with ⟨-, rfl⟩ | ⟨-, hold⟩
    · exact nodup_slaAlerts _
    · exact h.work q v hold
  case fresh =>
    intro q v hv x hx hmem
    rcases update_some_iff.mp hv with ⟨-, rfl⟩ | ⟨-, hold⟩
    · obtain ⟨y, hy, htag⟩ := List.mem_map.mp hmem
      refine hother y (.inl hy) ((congrArg Prod.snd htag).trans ?_)
      rw [slaTag, mem_slaAlerts.mp hx]
      rfl
    · exact h.fresh q v hold x hx hmem
  case own =>
    intro q r v v' hv hv' x hx y hy hid
    rcases update_some_iff.mp hv with ⟨rfl, rfl⟩ | ⟨-, hold⟩ <;>
      rcases update_some_iff.mp hv' with ⟨rfl, rfl⟩ | ⟨-, hold'⟩
    · rfl
    · rw [mem_slaAlerts.mp hx] at hid
      exact absurd hid.symm (hother y (.inr ⟨r, v', hold', hy⟩))
    · rw [mem_slaAlerts.mp hy] at hid
      exact absurd hid (hother x (.inr ⟨q, v, hold, hx⟩))
    · exact h.own q r v v' hold hold' x hx y hy hid
  case told =>
    intro x hx
    have hsplit : x.2 = d.breach w.now ∨ s.Tells x := by
      rcases hx with hx | ⟨q, v, hv, hx⟩
      · exact .inr (.inl hx)
      · rcases update_some_iff.mp hv with ⟨-, rfl⟩ | ⟨-, hold⟩
        · exact .inl (mem_slaAlerts.mp hx)
        · exact .inr (.inr ⟨q, v, hold, hx⟩)
    rcases hsplit with heq | hold
    · rw [heq]
      exact ⟨SlaDispute.breach_breached hfirst.2.1, _, (SlaDisputes.mem_claim hfirst).mpr (.inl rfl),
        rfl, rfl⟩
    · obtain ⟨hbreached, hmarks⟩ := h.told x hold
      exact ⟨hbreached, hmarks.keep hbreached (SlaDisputes.keeps_claim hfirst)⟩

/-- **An alert.** -/
theorem Alerted.alert (h : s.Alerted) (hw : s.sweeps p = some w) {rest : List SlaAlert}
    (hwork : w.work = x :: rest) :
    ({ (s.setSweep p { w with work := rest }) with alerts := x :: s.alerts } : SlaSystem).Alerted := by
  have hx : x ∈ w.work := hwork ▸ List.mem_cons_self
  have hrest : ∀ y ∈ rest, y ∈ w.work := fun y hy => hwork ▸ List.mem_cons_of_mem x hy
  have hnodup := h.work p w hw
  rw [hwork, List.map_cons, List.nodup_cons] at hnodup
  constructor
  case alerts => exact List.nodup_cons.mpr ⟨h.fresh p w hw x hx, h.alerts⟩
  case work =>
    intro q v hv
    rcases update_some_iff.mp hv with ⟨-, rfl⟩ | ⟨-, hold⟩
    · exact hnodup.2
    · exact h.work q v hold
  case fresh =>
    intro q v hv y hy hmem
    rcases update_some_iff.mp hv with ⟨-, rfl⟩ | ⟨hq, hold⟩
    · rcases List.mem_cons.mp hmem with htag | hmem
      · exact hnodup.1 (htag ▸ List.mem_map_of_mem hy)
      · exact h.fresh p w hw y (hrest y hy) hmem
    · rcases List.mem_cons.mp hmem with htag | hmem
      · exact hq (h.own q p v w hold hw y hy x hx (congrArg Prod.snd htag))
      · exact h.fresh q v hold y hy hmem
  case own =>
    intro q r v v' hv hv' y hy z hz hid
    have hback : ∀ q v, update s.sweeps p (some { w with work := rest }) q = some v → ∀ y ∈ v.work,
        ∃ u, s.sweeps q = some u ∧ y ∈ u.work := by
      intro q v hv y hy
      rcases update_some_iff.mp hv with ⟨rfl, rfl⟩ | ⟨-, hold⟩
      · exact ⟨w, hw, hrest y hy⟩
      · exact ⟨v, hold, hy⟩
    obtain ⟨u, hu, hyu⟩ := hback q v hv y hy
    obtain ⟨u', hu', hzu⟩ := hback r v' hv' z hz
    exact h.own q r u u' hu hu' y hyu z hzu hid
  case told =>
    intro y hy
    refine h.told y ?_
    rcases hy with hy | ⟨q, v, hv, hy⟩
    · rcases List.mem_cons.mp hy with rfl | hy
      · exact .inr ⟨p, w, hw, hx⟩
      · exact .inl hy
    · rcases update_some_iff.mp hv with ⟨-, rfl⟩ | ⟨-, hold⟩
      · exact .inr ⟨p, w, hw, hrest y hy⟩
      · exact .inr ⟨q, v, hold, hy⟩

/-- What a step does: it leaves the alerts and adds no work, or it claims a dispute, or it makes the
first alert that is left. -/
inductive Moves (s t : SlaSystem) : Prop
  | calm (halerts : t.alerts = s.alerts) (hfewer : Fewer s t)
      (hkeeps : s.disputes.Keeps t.disputes)
  | claim (p : Nat) (w : SlaSweep) (d : SlaDispute) (hw : s.sweeps p = some w) (hidle : w.work = [])
      (hfirst : s.disputes.First w.now d)
      (ht : t = { s with
        disputes := s.disputes.claim w.now d
        sweeps := update s.sweeps p
          (some { w with breached := w.breached + 1, work := slaAlerts (d.breach w.now) }) })
  | alert (p : Nat) (w : SlaSweep) (x : SlaAlert) (rest : List SlaAlert) (hw : s.sweeps p = some w)
      (hwork : w.work = x :: rest)
      (ht : t = { (s.setSweep p { w with work := rest }) with alerts := x :: s.alerts })

theorem moves_of_step (hs : step slaHours s a = some t) : Moves s t := by
  cases a with
  | tick ms =>
    obtain rfl := Option.some.inj hs
    exact .calm rfl (fewer_of_sweeps rfl) .refl
  | flag id =>
    obtain ⟨c, hc, rfl⟩ := Option.map_eq_some_iff.mp hs
    exact .calm rfl (fewer_of_sweeps rfl) (SlaDisputes.keeps_insert hc)
  | readDispute request id target =>
    obtain ⟨d, -, hs⟩ := Option.bind_eq_some_iff.mp hs
    split at hs
    · obtain rfl := Option.some.inj hs
      exact .calm rfl (fewer_of_sweeps rfl) .refl
    · exact nomatch hs
  | writeDispute request =>
    obtain ⟨⟨id, target⟩, -, rfl⟩ := Option.map_eq_some_iff.mp hs
    exact .calm rfl (fewer_of_sweeps rfl) (SlaDisputes.keeps_setStatus id target)
  | giveUp request =>
    obtain rfl := Option.some.inj hs
    exact .calm rfl (fewer_of_sweeps rfl) .refl
  | startSweep p =>
    rw [step] at hs
    split at hs
    · exact nomatch hs
    · obtain rfl := Option.some.inj hs
      exact .calm rfl (fewer_update (.inr ⟨_, rfl, rfl⟩)) .refl
  | claim p d =>
    obtain ⟨w, hw, hs⟩ := Option.bind_eq_some_iff.mp hs
    split at hs
    · rename_i hguard
      exact .claim p w d hw hguard.1 hguard.2.2 (Option.some.inj hs).symm
    · exact nomatch hs
  | alert p =>
    obtain ⟨w, hw, hs⟩ := Option.bind_eq_some_iff.mp hs
    split at hs
    · exact nomatch hs
    · rename_i x rest hwork
      exact .alert p w x rest hw hwork (Option.some.inj hs).symm
  | endSweep p =>
    obtain ⟨w, -, hs⟩ := Option.bind_eq_some_iff.mp hs
    split at hs
    · obtain rfl := Option.some.inj hs
      exact .calm rfl (fewer_update (.inl rfl)) .refl
    · exact nomatch hs
  | crash p =>
    obtain rfl := Option.some.inj hs
    exact .calm rfl (fewer_update (.inl rfl)) .refl

theorem alerted_step (h : s.Alerted) (hs : step slaHours s a = some t) : t.Alerted := by
  cases moves_of_step hs with
  | calm halerts hfewer hkeeps => exact h.calm halerts hfewer hkeeps
  | claim p w d hw _ hfirst ht => exact ht ▸ h.claim hw hfirst
  | alert p w x rest hw hwork ht => exact ht ▸ h.alert hw hwork

/-- **No dispute is alerted twice.**  However sweeps overlap, replicas die and disputes change their
status: no channel is told of a dispute more than once, and what it is told is a dispute that was
active and past its deadline when it was claimed, recorded as breached, and still marked as notified
at that time. -/
theorem alerted_once {now : Int} (h : Reach (step slaHours) Free (init now) s) :
    (s.alerts.map slaTag).Nodup ∧
      ∀ x ∈ s.alerts, x.2.Breached ∧ ∃ d ∈ s.disputes.docs, d.id = x.2.id ∧
        d.slaBreachNotifiedAt = x.2.slaBreachNotifiedAt := by
  have halerted : s.Alerted := h.invariant (alerted_init now) fun hinv _ hs => alerted_step hinv hs
  exact ⟨halerted.alerts, fun x hx => halerted.told x (.inl hx)⟩

/-- Two sweeps that overlap, and an overdue dispute that only one of them claims. -/
theorem alerted_once_overlapping :
    let s := (exec (step 0) (init 0) [.flag "d", .tick 1, .startSweep 0, .startSweep 1,
      .claim 1 (.flagged 0 0 "d"), .endSweep 0, .alert 1, .alert 1, .alert 1, .endSweep 1]).get
        (by decide)
    s.alerts.map slaTag = [(.webhook, "d"), (.sse, "d"), (.admins, "d")] ∧
      (s.alerts.map slaTag).Nodup ∧
      ∀ x ∈ s.alerts, x.2.Breached ∧ ∃ d ∈ s.disputes.docs, d.id = x.2.id ∧
        d.slaBreachNotifiedAt = x.2.slaBreachNotifiedAt := by
  intro s
  exact ⟨by decide, alerted_once (reach_get (by decide))⟩

/-! ## Nothing is missed -/

/-- Nobody dies during a sweep. -/
def Uncrashed : SlaSystem → SlaAction → Prop
  | s, .crash process => (s.sweeps process).isNone
  | _, _ => True

instance (s : SlaSystem) (a : SlaAction) : Decidable (Uncrashed s a) := by
  cases a <;> unfold Uncrashed <;> infer_instance

/-- No dispute whose deadline is before `date` becomes active. -/
def Unreopened (slaHours date : Int) : SlaSystem → SlaAction → Prop
  | s, .flag _ => date ≤ s.now + slaHours * HOUR_MS
  | s, .writeDispute request => ∀ r ∈ s.resolving request, r.2.active = true →
      ∀ d ∈ s.disputes.docs, d.id = r.1 → (∃ deadline ∈ d.slaDeadline, deadline < date) →
        d.status.active = true
  | _, _ => True

instance (date : Int) (s : SlaSystem) (a : SlaAction) : Decidable (Unreopened slaHours date s a) := by
  cases a <;> unfold Unreopened <;> infer_instance

/-- Every dispute that is marked as notified was alerted on every channel, or is about to be. -/
def AllTold (s : SlaSystem) : Prop :=
  ∀ d ∈ s.disputes.docs, d.slaBreachNotifiedAt.isSome → ∀ c, ∃ x, s.Tells x ∧ slaTag x = (c, d.id)

/-- A step that marks no dispute and drops no alert. -/
theorem AllTold.calm (h : s.AllTold)
    (hdocs : ∀ d ∈ t.disputes.docs, d.slaBreachNotifiedAt.isSome →
      ∃ e ∈ s.disputes.docs, e.id = d.id ∧ e.slaBreachNotifiedAt.isSome)
    (htells : ∀ x, s.Tells x → t.Tells x) : t.AllTold := by
  intro d hd hsome c
  obtain ⟨e, he, hid, hsome'⟩ := hdocs d hd hsome
  obtain ⟨x, hx, htag⟩ := h e he hsome' c
  exact ⟨x, htells x hx, htag.trans (by rw [hid])⟩

/-- A process that had no alerts left goes on, or a new one begins. -/
theorem tells_update (hx : s.Tells x) (halerts : t.alerts = s.alerts) {o : Option SlaSweep}
    (hsweeps : t.sweeps = update s.sweeps p o) (hidle : ∀ w, s.sweeps p = some w → w.work = []) :
    t.Tells x := by
  rcases hx with hx | ⟨q, w, hw, hx⟩
  · exact .inl (halerts ▸ hx)
  · by_cases hq : q = p
    · subst hq
      exact absurd (hidle w hw ▸ hx) List.not_mem_nil
    · exact .inr ⟨q, w, by rw [hsweeps, update_of_ne hq]; exact hw, hx⟩

theorem allTold_step (h : s.AllTold) (hok : Uncrashed s a) (hs : step slaHours s a = some t) :
    t.AllTold := by
  have same : ∀ d ∈ s.disputes.docs, d.slaBreachNotifiedAt.isSome →
      ∃ e ∈ s.disputes.docs, e.id = d.id ∧ e.slaBreachNotifiedAt.isSome :=
    fun d hd hsome => ⟨d, hd, rfl, hsome⟩
  cases a with
  | tick ms =>
    obtain rfl := Option.some.inj hs
    exact h.calm same fun _ hx => hx
  | flag id =>
    obtain ⟨c, hc, rfl⟩ := Option.map_eq_some_iff.mp hs
    refine h.calm (fun d hd hsome => ?_) fun _ hx => hx
    rw [s.disputes.insert_docs hc] at hd
    rcases List.mem_append.mp hd with hd | hd
    · exact ⟨d, hd, rfl, hsome⟩
    · rw [List.mem_singleton.mp hd, SlaDispute.flagged, SlaDispute.preSave_slaBreachNotifiedAt] at hsome
      exact nomatch hsome
  | readDispute request id target =>
    obtain ⟨d, -, hs⟩ := Option.bind_eq_some_iff.mp hs
    split at hs
    · obtain rfl := Option.some.inj hs
      exact h.calm same fun _ hx => hx
    · exact nomatch hs
  | writeDispute request =>
    obtain ⟨⟨id, target⟩, -, rfl⟩ := Option.map_eq_some_iff.mp hs
    refine h.calm (fun d hd hsome => ?_) fun _ hx => hx
    obtain ⟨e, he, rfl⟩ := SlaDisputes.mem_setStatus.mp hd
    split at hsome
    · exact ⟨e, he, by split <;> rfl, hsome⟩
    · exact ⟨e, he, by split <;> rfl, hsome⟩
  | giveUp request =>
    obtain rfl := Option.some.inj hs
    exact h.calm same fun _ hx => hx
  | startSweep p =>
    rw [step] at hs
    split at hs
    · exact nomatch hs
    · rename_i hnone
      obtain rfl := Option.some.inj hs
      refine h.calm same fun _ hx => tells_update hx rfl rfl fun w hw => ?_
      rw [hw] at hnone
      exact absurd rfl hnone
  | claim p d =>
    obtain ⟨w, hw, hs⟩ := Option.bind_eq_some_iff.mp hs
    split at hs
    · rename_i hguard
      obtain rfl := Option.some.inj hs
      intro e he hsome c
      rcases (SlaDisputes.mem_claim hguard.2.2).mp he with rfl | ⟨he, -⟩
      · exact ⟨(c, d.breach w.now),
          .inr ⟨p, _, update_self .., mem_slaAlerts.mpr rfl⟩, rfl⟩
      · obtain ⟨x, hx, htag⟩ := h e he hsome c
        refine ⟨x, tells_update hx rfl rfl fun v hv => ?_, htag⟩
        rw [← Option.some.inj (hw.symm.trans hv)]
        exact hguard.1
    · exact nomatch hs
  | alert p =>
    obtain ⟨w, hw, hs⟩ := Option.bind_eq_some_iff.mp hs
    split at hs
    · exact nomatch hs
    · rename_i y rest hwork
      obtain rfl := Option.some.inj hs
      refine h.calm same fun x hx => ?_
      rcases hx with hx | ⟨q, v, hv, hx⟩
      · exact .inl (List.mem_cons_of_mem y hx)
      · by_cases hq : q = p
        · subst hq
          rw [← Option.some.inj (hw.symm.trans hv), hwork] at hx
          rcases List.mem_cons.mp hx with rfl | hx
          · exact .inl List.mem_cons_self
          · exact .inr ⟨q, _, update_self .., hx⟩
        · exact .inr ⟨q, v, (update_of_ne hq ..).trans hv, hx⟩
  | endSweep p =>
    obtain ⟨w, hw, hs⟩ := Option.bind_eq_some_iff.mp hs
    split at hs
    · rename_i hguard
      obtain rfl := Option.some.inj hs
      refine h.calm same fun _ hx => tells_update hx rfl rfl fun v hv => ?_
      rw [← Option.some.inj (hw.symm.trans hv)]
      exact hguard.1
    · exact nomatch hs
  | crash p =>
    obtain rfl := Option.some.inj hs
    refine h.calm same fun _ hx => tells_update hx rfl rfl fun w hw => ?_
    rw [Uncrashed, hw] at hok
    exact nomatch hok

/-- No active dispute whose deadline is before `date` is left unmarked. -/
def Swept (date : Int) (s : SlaSystem) : Prop := ∀ d ∈ s.disputes.docs, d.due date = false

theorem swept_step {date : Int} (h : Swept date s) (hok : Unreopened slaHours date s a)
    (hs : step slaHours s a = some t) : Swept date t := by
  cases a with
  | tick ms =>
    obtain rfl := Option.some.inj hs
    exact h
  | flag id =>
    obtain ⟨c, hc, rfl⟩ := Option.map_eq_some_iff.mp hs
    intro d hd
    rw [s.disputes.insert_docs hc] at hd
    rcases List.mem_append.mp hd with hd | hd
    · exact h d hd
    · rw [List.mem_singleton.mp hd]
      refine Bool.eq_false_iff.mpr fun hdue => ?_
      obtain ⟨-, ⟨deadline, hdeadline, hlt⟩, -⟩ := SlaDispute.due_iff.mp hdue
      rw [SlaDispute.flagged, SlaDispute.preSave_slaDeadline] at hdeadline
      rw [← Option.some.inj hdeadline] at hlt
      exact absurd hlt (not_lt.mpr hok)
  | readDispute request id target =>
    obtain ⟨d, -, hs⟩ := Option.bind_eq_some_iff.mp hs
    split at hs
    · obtain rfl := Option.some.inj hs
      exact h
    · exact nomatch hs
  | writeDispute request =>
    obtain ⟨⟨id, target⟩, hr, rfl⟩ := Option.map_eq_some_iff.mp hs
    intro d hd
    obtain ⟨e, he, rfl⟩ := SlaDisputes.mem_setStatus.mp hd
    split
    · rename_i hid
      refine Bool.eq_false_iff.mpr fun hdue => ?_
      obtain ⟨hactive, hover, hnone⟩ := SlaDispute.due_iff.mp hdue
      have hwas := hok (id, target) hr hactive e he hid hover
      exact absurd (SlaDispute.due_iff.mpr ⟨hwas, hover, hnone⟩) (Bool.eq_false_iff.mp (h e he))
    · exact h e he
  | giveUp request =>
    obtain rfl := Option.some.inj hs
    exact h
  | startSweep p =>
    rw [step] at hs
    split at hs
    · exact nomatch hs
    · obtain rfl := Option.some.inj hs
      exact h
  | claim p d =>
    obtain ⟨w, -, hs⟩ := Option.bind_eq_some_iff.mp hs
    split at hs
    · rename_i hguard
      obtain rfl := Option.some.inj hs
      intro e he
      rcases (SlaDisputes.mem_claim hguard.2.2).mp he with rfl | ⟨he, -⟩
      · exact Bool.eq_false_iff.mpr fun hdue => nomatch (SlaDispute.due_iff.mp hdue).2.2
      · exact h e he
    · exact nomatch hs
  | alert p =>
    obtain ⟨w, -, hs⟩ := Option.bind_eq_some_iff.mp hs
    split at hs
    · exact nomatch hs
    · obtain rfl := Option.some.inj hs
      exact h
  | endSweep p =>
    obtain ⟨w, -, hs⟩ := Option.bind_eq_some_iff.mp hs
    split at hs
    · obtain rfl := Option.some.inj hs
      exact h
    · exact nomatch hs
  | crash p =>
    obtain rfl := Option.some.inj hs
    exact h

/-- **Nothing is missed.**  After a sweep that ended before its batch did, and for as long as no dispute
with an earlier deadline becomes active: every active dispute whose deadline was before the date of the
sweep is marked as notified, and, if no replica ever died during a sweep, it was alerted on every
channel, or a sweep that goes on is about to. -/
theorem none_missed {u : SlaSystem} (hw : s.sweeps p = some w) (hbatch : w.breached < SLA_SWEEP_BATCH)
    (hend : step slaHours s (.endSweep p) = some t)
    (hrun : Reach (step slaHours) (Unreopened slaHours w.now) t u) {d : SlaDispute}
    (hd : d ∈ u.disputes.docs) (hactive : d.status.active = true)
    (hover : ∃ deadline ∈ d.slaDeadline, deadline < w.now) :
    d.slaBreachNotifiedAt.isSome ∧
      ∀ now, Reach (step slaHours) Uncrashed (init now) s → Reach (step slaHours) Uncrashed t u →
        ∀ c, ∃ x, u.Tells x ∧ slaTag x = (c, d.id) := by
  have hleft : Swept w.now t := by
    obtain ⟨v, hv, hs⟩ := Option.bind_eq_some_iff.mp hend
    obtain rfl := Option.some.inj (hw.symm.trans hv)
    split at hs
    · rename_i hguard
      obtain rfl := Option.some.inj hs
      exact hguard.2.resolve_left (Nat.ne_of_lt hbatch)
    · exact nomatch hs
  have hswept : Swept w.now u := hrun.invariant hleft swept_step
  have hsome : d.slaBreachNotifiedAt.isSome := by
    refine Option.isSome_iff_ne_none.mpr fun hnone => ?_
    exact Bool.eq_false_iff.mp (hswept d hd) (SlaDispute.due_iff.mpr ⟨hactive, hover, hnone⟩)
  refine ⟨hsome, fun now hfirst hrest => ?_⟩
  have hended : Reach (step slaHours) Uncrashed (init now) t :=
    .tail hfirst (show Uncrashed s (.endSweep p) from trivial) hend
  have htold : u.AllTold :=
    (hended.trans hrest).invariant (fun _ hd => (nomatch hd)) allTold_step
  exact htold d hd hsome

/-- A dispute that is put under review while the sweep alerts it. -/
theorem none_missed_underReview :
    let s := (execOk (step 0) Uncrashed (init 0) [.flag "d", .readDispute 5 "d" .underReview, .tick 1,
      .startSweep 0, .claim 0 (.flagged 0 0 "d"), .alert 0, .writeDispute 5, .alert 0, .alert 0]).get
        (by decide)
    let t := (step 0 s (.endSweep 0)).get (by decide)
    let d := (t.disputes.findOne fun d => d.id == "d").get (by decide)
    d.status = .underReview ∧ d.slaBreachNotifiedAt.isSome ∧
      ∀ c, ∃ x, t.Tells x ∧ slaTag x = (c, d.id) := by
  intro s t d
  have hw : s.sweeps 0 = some ((s.sweeps 0).get (by decide)) := (Option.some_get _).symm
  have hend : step 0 s (.endSweep 0) = some t := (Option.some_get _).symm
  have hd : d ∈ t.disputes.docs := t.disputes.mem_of_findOne (Option.some_get _).symm
  obtain ⟨hnotified, htold⟩ := none_missed hw (by decide) hend .refl hd (by decide) (by decide)
  exact ⟨by decide, hnotified, htold 0 (.getOk (by decide)) .refl⟩

end SlaSystem

end StellarEduPay

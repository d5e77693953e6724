import Mathlib.Data.List.Basic

/-! # Links to a message broker

A process reaches a broker over a link.  It sends commands that open and close channels, which the
broker carries out, or refuses, one after the other; and it receives, in order, what was published on
the channels the broker held open at that moment.  What the process asked for and what the broker does
differ while commands are under way: `settled` is where the link is heading, `Holds` says that a
channel is open and stays open.
-/
namespace Broker
variable {χ μ : Type}

/-- What a process asks of the broker. -/
inductive Command (χ : Type) where
  | subscribe (channel : χ)
  | unsubscribe (channel : χ)
  deriving DecidableEq, Repr

def Command.channel : Command χ → χ
  | .subscribe channel => channel
  | .unsubscribe channel => channel

/-- The commands under way, the channels the broker holds open, and what waits to be received. -/
structure Link (χ μ : Type) where
  commands : List (Command χ)
  channels : List χ
  inbox : List (χ × μ)
  deriving Repr

section Command
variable [DecidableEq χ] {channels : List χ} {c d : χ}

/-- The open channels once a command is carried out. -/
def Command.apply (channels : List χ) : Command χ → List χ
  | .subscribe channel => if channel ∈ channels then channels else channels ++ [channel]
  | .unsubscribe channel => channels.filter (· ≠ channel)

@[simp] theorem Command.mem_apply_subscribe :
    d ∈ apply channels (.subscribe c) ↔ d ∈ channels ∨ d = c := by
  simp only [apply]
  split
  · exact ⟨Or.inl, fun h => h.elim id (· ▸ ‹_›)⟩
  · simp

@[simp] theorem Command.mem_apply_unsubscribe :
    d ∈ apply channels (.unsubscribe c) ↔ d ∈ channels ∧ d ≠ c := by
  simp [apply]

/-- A command says nothing of the other channels. -/
theorem Command.mem_apply_of_ne {command : Command χ} (h : command.channel ≠ d) :
    d ∈ apply channels command ↔ d ∈ channels := by
  cases command with
  | subscribe c => simpa using fun heq : d = c => absurd heq.symm h
  | unsubscribe c => simpa using fun _ heq => h heq.symm

end Command

namespace Link
variable {l l' : Link χ μ} {c d : χ} {command : Command χ} {m : μ} {x : χ × μ}

/-- Nothing asked for, nothing open. -/
def new : Link χ μ := ⟨[], [], []⟩

def send (l : Link χ μ) (command : Command χ) : Link χ μ :=
  { l with commands := l.commands ++ [command] }

/-- The broker carries out the first command. -/
def carryOut [DecidableEq χ] (l : Link χ μ) : Option (Link χ μ) :=
  match l.commands with
  | [] => none
  | command :: rest => some { l with commands := rest, channels := command.apply l.channels }

/-- The first command fails. -/
def refuse (l : Link χ μ) : Option (Link χ μ) :=
  match l.commands with
  | [] => none
  | _ :: rest => some { l with commands := rest }

/-- Something is published on a channel. -/
def deliver [DecidableEq χ] (l : Link χ μ) (channel : χ) (m : μ) : Link χ μ :=
  if channel ∈ l.channels then { l with inbox := l.inbox ++ [(channel, m)] } else l

/-- The process receives what waits first. -/
def receive (l : Link χ μ) : Option ((χ × μ) × Link χ μ) :=
  match l.inbox with
  | [] => none
  | first :: rest => some (first, { l with inbox := rest })

theorem carryOut_cases [DecidableEq χ] (h : l.carryOut = some l') :
    ∃ command rest, l.commands = command :: rest ∧
      l' = { l with commands := rest, channels := command.apply l.channels } := by
  unfold carryOut at h
  split at h
  · cases h
  · exact ⟨_, _, ‹_›, (Option.some.inj h).symm⟩

theorem refuse_cases (h : l.refuse = some l') :
    ∃ command rest, l.commands = command :: rest ∧ l' = { l with commands := rest } := by
  unfold refuse at h
  split at h
  · cases h
  · exact ⟨_, _, ‹_›, (Option.some.inj h).symm⟩

theorem receive_cases (h : l.receive = some (x, l')) :
    ∃ rest, l.inbox = x :: rest ∧ l' = { l with inbox := rest } := by
  unfold receive at h
  split at h
  · cases h
  · cases h
    exact ⟨_, ‹_›, rfl⟩

/-! ## Where the link is heading -/

section Settled
variable [DecidableEq χ]

/-- The open channels once all commands are carried out. -/
def settled (l : Link χ μ) : List χ := l.commands.foldl Command.apply l.channels

@[simp] theorem settled_send : (l.send command).settled = command.apply l.settled := by
  simp [settled, send]

theorem settled_carryOut (h : l.carryOut = some l') : l'.settled = l.settled := by
  obtain ⟨command, rest, hcommands, rfl⟩ := carryOut_cases h
  simp [settled, hcommands]

@[simp] theorem settled_deliver : (l.deliver c m).settled = l.settled := by
  unfold deliver
  split <;> rfl

theorem settled_receive (h : l.receive = some (x, l')) : l'.settled = l.settled := by
  obtain ⟨rest, -, rfl⟩ := receive_cases h
  rfl

/-- Whether a channel will be open is a matter of its own commands. -/
theorem mem_foldl_apply {commands : List (Command χ)} {channels channels' : List χ}
    (h : d ∈ channels ↔ d ∈ channels') :
    d ∈ commands.foldl Command.apply channels ↔ d ∈ commands.foldl Command.apply channels' := by
  induction commands generalizing channels channels' with
  | nil => exact h
  | cons command rest ih =>
    refine ih ?_
    cases command with
    | subscribe c => simp [h]
    | unsubscribe c => simp [h]

theorem mem_settled_refuse (h : l.refuse = some l')
    (hother : ∀ command ∈ l.commands.head?, command.channel ≠ d) :
    d ∈ l'.settled ↔ d ∈ l.settled := by
  obtain ⟨command, rest, hcommands, rfl⟩ := refuse_cases h
  rw [hcommands] at hother
  simp only [settled, hcommands, List.foldl_cons]
  exact mem_foldl_apply (Command.mem_apply_of_ne (hother command rfl)).symm

end Settled

/-- What waits after something is published. -/
theorem mem_inbox_deliver [DecidableEq χ] :
    x ∈ (l.deliver c m).inbox ↔ x ∈ l.inbox ∨ c ∈ l.channels ∧ x = (c, m) := by
  unfold deliver
  by_cases h : c ∈ l.channels
  · simp [h]
  · simp [h]

/-! ## Channels that stay open -/

/-- The channel is open, and no command under way closes it. -/
def Holds (l : Link χ μ) (channel : χ) : Prop :=
  channel ∈ l.channels ∧ .unsubscribe channel ∉ l.commands

theorem Holds.send (h : l.Holds c) (hcommand : command ≠ .unsubscribe c) :
    (l.send command).Holds c := by
  refine ⟨h.1, fun hmem => ?_⟩
  rcases List.mem_append.mp hmem with hold | hnew
  · exact h.2 hold
  · exact hcommand (List.mem_singleton.mp hnew).symm

theorem Holds.carryOut [DecidableEq χ] (h : l.Holds c) (hcarry : l.carryOut = some l') :
    l'.Holds c := by
  obtain ⟨command, rest, hcommands, rfl⟩ := carryOut_cases hcarry
  obtain ⟨hopen, hkept⟩ := h
  rw [hcommands, List.mem_cons, not_or] at hkept
  refine ⟨?_, hkept.2⟩
  cases command with
  | subscribe d => exact Command.mem_apply_subscribe.mpr (.inl hopen)
  | unsubscribe d => exact Command.mem_apply_unsubscribe.mpr ⟨hopen, fun heq => hkept.1 (heq ▸ rfl)⟩

theorem Holds.refuse (h : l.Holds c) (hrefuse : l.refuse = some l') : l'.Holds c := by
  obtain ⟨command, rest, hcommands, rfl⟩ := refuse_cases hrefuse
  rw [Holds, hcommands] at h
  exact ⟨h.1, fun hmem => h.2 (List.mem_cons_of_mem _ hmem)⟩

theorem Holds.deliver [DecidableEq χ] (h : l.Holds c) : (l.deliver d m).Holds c := by
  unfold Link.deliver
  split
  · exact h
  · exact h

theorem Holds.receive (h : l.Holds c) (hreceive : l.receive = some (x, l')) : l'.Holds c := by
  obtain ⟨rest, -, rfl⟩ := receive_cases hreceive
  exact h

/-! ## What waits to be received -/

/-- How many of what waits meet a condition. -/
def waiting (l : Link χ μ) (p : χ × μ → Bool) : Nat := l.inbox.countP p

variable {p : χ × μ → Bool}

@[simp] theorem waiting_send : (l.send command).waiting p = l.waiting p := rfl

/-- On an open channel a message comes to wait. -/
theorem waiting_deliver [DecidableEq χ] (h : c ∈ l.channels) :
    (l.deliver c m).waiting p = l.waiting p + if p (c, m) then 1 else 0 := by
  unfold deliver waiting
  rw [if_pos h, List.countP_append, List.countP_singleton]

/-- A message comes to wait at most once each time it is published. -/
theorem waiting_deliver_le [DecidableEq χ] :
    (l.deliver c m).waiting p ≤ l.waiting p + if p (c, m) then 1 else 0 := by
  by_cases h : c ∈ l.channels
  · exact Nat.le_of_eq (waiting_deliver h)
  · rw [deliver, if_neg h]
    exact Nat.le_add_right _ _

theorem waiting_receive (h : l.receive = some (x, l')) :
    l.waiting p = l'.waiting p + if p x then 1 else 0 := by
  obtain ⟨rest, hinbox, rfl⟩ := receive_cases h
  rw [waiting, hinbox, List.countP_cons]
  rfl

end Link

end Broker

import Mathlib.Logic.Function.Basic

/-! # Runs of a partial step function

A system is a function `step : σ → α → Option σ`: an action either moves the
state or is not enabled.  Everything a concurrent or a sequential program can do
is a run of such a function, once the choices of the environment — who moves
next, which call fails — are part of the action.  `Reach` collects the states of
the runs whose actions all meet a condition read on the state before them, and
`Reach.invariant` is the one induction every safety proof goes through.
-/
namespace Runs
variable {σ α : Type} {step : σ → α → Option σ} {ok : σ → α → Prop}

/-- The states reached from `s` by enabled actions that each meet `ok` in the
state they are taken from. -/
inductive Reach (step : σ → α → Option σ) (ok : σ → α → Prop) (s : σ) : σ → Prop
  | refl : Reach step ok s s
  | tail {t u : σ} {a : α} :
      Reach step ok s t → ok t a → step t a = some u → Reach step ok s u

/-- The condition every action meets. -/
def Free : σ → α → Prop := fun _ _ => True

/-- Run a list of actions, stopping at the first that is not enabled. -/
def exec (step : σ → α → Option σ) : σ → List α → Option σ
  | s, [] => some s
  | s, a :: as => (step s a).bind fun t => exec step t as

/-- **The invariant rule.**  What holds at the start and is kept by every step
that meets the condition holds in every state reached. -/
theorem Reach.invariant {Inv : σ → Prop} {s t : σ} (h : Reach step ok s t) (h0 : Inv s)
    (hstep : ∀ {t a u}, Inv t → ok t a → step t a = some u → Inv u) : Inv t := by
  induction h with
  | refl => exact h0
  | tail _ hok hs ih => exact hstep ih hok hs

/-- **The progress rule.**  Beside an invariant, a run keeps any transitive comparison with its
start that each of its steps keeps. -/
theorem Reach.progress {Inv : σ → Prop} {R : σ → σ → Prop} {s t : σ} (h : Reach step ok s t)
    (h0 : Inv s) (hrefl : R s s) (htrans : ∀ {t u}, R s t → R t u → R s u)
    (hstep : ∀ {t a u}, Inv t → ok t a → step t a = some u → Inv u ∧ R t u) : Inv t ∧ R s t := by
  induction h with
  | refl => exact ⟨h0, hrefl⟩
  | tail _ hok hs ih =>
    obtain ⟨hinv, hmove⟩ := hstep ih.1 hok hs
    exact ⟨hinv, htrans ih.2 hmove⟩

theorem Reach.head {s t u : σ} {a : α} (hok : ok s a) (hs : step s a = some t)
    (h : Reach step ok t u) : Reach step ok s u := by
  induction h with
  | refl => exact .tail .refl hok hs
  | tail _ hok' hs' ih => exact .tail ih hok' hs'

theorem Reach.trans {s t u : σ} (h : Reach step ok s t) (h' : Reach step ok t u) :
    Reach step ok s u := by
  induction h' with
  | refl => exact h
  | tail _ hok hs ih => exact .tail ih hok hs

theorem Reach.mono {ok' : σ → α → Prop} {s t : σ} (h : Reach step ok s t)
    (hok : ∀ s a, ok s a → ok' s a) : Reach step ok' s t := by
  induction h with
  | refl => exact .refl
  | tail _ ha hs ih => exact .tail ih (hok _ _ ha) hs

/-- A list of enabled actions, each allowed in every state, is a run. -/
theorem Reach.of_exec : ∀ {as : List α} {s t : σ}, (∀ a ∈ as, ∀ u, ok u a) →
    exec step s as = some t → Reach step ok s t
  | [], s, t, _, h => by
      obtain rfl : s = t := Option.some.inj h
      exact .refl
  | a :: as, s, t, hok, h => by
      obtain ⟨u, hu, ht⟩ := Option.bind_eq_some_iff.mp h
      refine .head (hok a List.mem_cons_self s) hu (.of_exec (fun b hb => ?_) ht)
      exact hok b (List.mem_cons_of_mem a hb)

theorem reach_of_exec {as : List α} {s t : σ} (h : exec step s as = some t) :
    Reach step Free s t :=
  .of_exec (fun _ _ _ => trivial) h

/-- The state a list of enabled actions leads to, without writing it down. -/
theorem Reach.get {as : List α} {s : σ} (hok : ∀ a ∈ as, ∀ u, ok u a)
    (h : (exec step s as).isSome = true) : Reach step ok s ((exec step s as).get h) :=
  .of_exec hok (Option.some_get h).symm

theorem reach_get {as : List α} {s : σ} (h : (exec step s as).isSome = true) :
    Reach step Free s ((exec step s as).get h) :=
  .get (fun _ _ _ => trivial) h

/-- Run a list of actions, stopping at the first that is not enabled or does not meet the
condition. -/
def execOk (step : σ → α → Option σ) (ok : σ → α → Prop) [∀ s a, Decidable (ok s a)] :
    σ → List α → Option σ
  | s, [] => some s
  | s, a :: as => if ok s a then (step s a).bind fun t => execOk step ok t as else none

theorem Reach.of_execOk [∀ s a, Decidable (ok s a)] : ∀ {as : List α} {s t : σ},
    execOk step ok s as = some t → Reach step ok s t
  | [], s, t, h => by
      obtain rfl : s = t := Option.some.inj h
      exact .refl
  | a :: as, s, t, h => by
      unfold execOk at h
      split at h
      · rename_i hok
        obtain ⟨u, hu, ht⟩ := Option.bind_eq_some_iff.mp h
        exact .head hok hu (.of_execOk ht)
      · cases h

theorem Reach.getOk [∀ s a, Decidable (ok s a)] {as : List α} {s : σ}
    (h : (execOk step ok s as).isSome = true) : Reach step ok s ((execOk step ok s as).get h) :=
  .of_execOk (Option.some_get h).symm

/-- **The termination rule.** A run is no longer than what its steps, each of which makes it less, leave
of a measure. -/
theorem exec_length_le {μ : σ → Nat} (hstep : ∀ {s a t}, step s a = some t → μ t < μ s) :
    ∀ {as : List α} {s t : σ}, exec step s as = some t → as.length + μ t ≤ μ s
  | [], s, t, h => by
      obtain rfl : s = t := Option.some.inj h
      simp
  | a :: as, s, t, h => by
      obtain ⟨u, hu, ht⟩ := Option.bind_eq_some_iff.mp h
      have hless := hstep hu
      have hrest := exec_length_le hstep ht
      rw [List.length_cons]
      omega

/-- A map of states and actions that commutes with one step commutes with a run. -/
theorem exec_map {σ' α' : Type} {step' : σ' → α' → Option σ'} (f : σ → σ') (g : α → α')
    (hstep : ∀ s a, step' (f s) (g a) = (step s a).map f) (as : List α) (s : σ) :
    exec step' (f s) (as.map g) = (exec step s as).map f := by
  induction as generalizing s with
  | nil => rfl
  | cons a as ih =>
    rw [List.map_cons, exec, exec, hstep]
    cases step s a with
    | none => rfl
    | some t => exact ih t

/-! ## Answers

A machine that takes every action, and answers it.
-/

section Answers
variable {ρ : Type} {σ' : Type} {serve : σ → α → ρ × σ} {serve' : σ' → α → ρ × σ'}

/-- The answers to a list of actions, and the state at the end. -/
def answers (serve : σ → α → ρ × σ) : σ → List α → List ρ × σ
  | s, [] => ([], s)
  | s, a :: as =>
    let (r, t) := serve s a
    let (rs, u) := answers serve t as
    (r :: rs, u)

/-- **The simulation rule.** Machines that answer each action alike, in states that stay related,
answer every list of actions alike. -/
theorem answers_eq {R : σ → σ' → Prop}
    (hstep : ∀ {s t} a, R s t → (serve s a).1 = (serve' t a).1 ∧ R (serve s a).2 (serve' t a).2) :
    ∀ (as : List α) {s : σ} {t : σ'}, R s t →
      (answers serve s as).1 = (answers serve' t as).1 ∧
        R (answers serve s as).2 (answers serve' t as).2
  | [], _, _, h => ⟨rfl, h⟩
  | a :: as, s, t, h => by
      obtain ⟨hanswer, hnext⟩ := hstep a h
      obtain ⟨hrest, hend⟩ := answers_eq hstep as hnext
      exact ⟨List.cons_eq_cons.mpr ⟨hanswer, hrest⟩, hend⟩

end Answers

/-! ## Processes

What each process of a system is doing is a function into `Option`: nothing, or the
local state of the call it is in.
-/

section Processes
variable {ι β : Type} [DecidableEq ι] {f : ι → Option β} {p q : ι} {x y : β}

/-- The calls in progress after `p` moved on to `x`. -/
theorem update_some_iff :
    Function.update f p (some x) q = some y ↔ (q = p ∧ y = x) ∨ (q ≠ p ∧ f q = some y) := by
  by_cases hq : q = p
  · subst hq
    simp [eq_comm]
  · simp [hq]

/-- The calls in progress after `p` ended its own. -/
theorem update_none_iff : Function.update f p none q = some y ↔ q ≠ p ∧ f q = some y := by
  by_cases hq : q = p
  · subst hq
    simp
  · simp [hq]

end Processes

end Runs

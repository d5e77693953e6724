/-! # Sequenced checks

A handler is a sequence of checks, each of which throws its own error, followed
by writes.  In `Except` the three checks there are — a condition must hold,
a lookup must succeed, a lookup must fail — have names here, with the rule that says when a sequence
of them got through.
-/
namespace Checks
variable {ε α β : Type}

/-- Go on if `b` holds, throw otherwise. -/
def require (b : Bool) (e : ε) : Except ε Unit := if b then .ok () else .error e

/-- Go on with the value, throw if there is none. -/
def orThrow (o : Option α) (e : ε) : Except ε α :=
  match o with
  | none => .error e
  | some a => .ok a

/-- Go on if there is no value, throw otherwise. -/
def forbid (o : Option α) (e : α → ε) : Except ε Unit :=
  match o with
  | none => .ok ()
  | some a => .error (e a)

/-- A sequence gets through when each of its parts does. -/
theorem bind_ok_iff {x : Except ε α} {f : α → Except ε β} {r : β} :
    x >>= f = .ok r ↔ ∃ a, x = .ok a ∧ f a = .ok r := by
  cases x <;> simp [bind, Except.bind]

theorem require_ok_iff {b : Bool} {e : ε} {u : Unit} : require b e = .ok u ↔ b = true := by
  cases b <;> simp [require]

theorem orThrow_ok_iff {o : Option α} {e : ε} {a : α} : orThrow o e = .ok a ↔ o = some a := by
  cases o <;> simp [orThrow]

/-- A condition followed by the rest. -/
theorem require_bind_ok_iff {b : Bool} {e : ε} {f : Unit → Except ε β} {r : β} :
    require b e >>= f = .ok r ↔ b = true ∧ f () = .ok r := by
  rw [bind_ok_iff]
  exact ⟨fun ⟨_, h, hf⟩ => ⟨require_ok_iff.mp h, hf⟩, fun ⟨h, hf⟩ => ⟨(), require_ok_iff.mpr h, hf⟩⟩

/-- A lookup followed by the rest. -/
theorem orThrow_bind_ok_iff {o : Option α} {e : ε} {f : α → Except ε β} {r : β} :
    orThrow o e >>= f = .ok r ↔ ∃ a, o = some a ∧ f a = .ok r := by
  simp only [bind_ok_iff, orThrow_ok_iff]

/-- A lookup that must fail, followed by the rest. -/
theorem forbid_bind_ok_iff {o : Option α} {e : α → ε} {f : Unit → Except ε β} {r : β} :
    forbid o e >>= f = .ok r ↔ o = none ∧ f () = .ok r := by
  cases o <;> simp [forbid, bind, Except.bind]

/-- What is made of a result. -/
theorem map_ok_iff {x : Except ε α} {f : α → β} {r : β} :
    x.map f = .ok r ↔ ∃ a, x = .ok a ∧ f a = r := by
  cases x <;> simp [Except.map]

theorem pure_ok_iff {a r : α} : (pure a : Except ε α) = .ok r ↔ a = r :=
  ⟨Except.ok.inj, fun h => congrArg _ h⟩

theorem toOption_eq_some_iff {x : Except ε α} {r : α} : x.toOption = some r ↔ x = .ok r := by
  cases x <;> simp [Except.toOption]

end Checks

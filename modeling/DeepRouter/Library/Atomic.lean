import Mathlib.Order.Basic

/-! # Fallible bodies and atomic transactions

A transaction keeps the new state only when the body and the commit both succeed. -/

namespace DeepRouter.Atomic

universe u v w

variable {ε : Type u} {α β : Type v} {σ : Type w}

def attempt (fault : Option ε) : Except ε Unit :=
  match fault with
  | none => .ok ()
  | some e => .error e

@[simp] theorem attempt_none : attempt (none : Option ε) = .ok () := rfl

def require (found : Option α) (e : ε) : Except ε α :=
  match found with
  | some a => .ok a
  | none => .error e

@[simp] theorem require_eq_ok {found : Option α} {e : ε} {a : α} :
    require found e = .ok a ↔ found = some a := by
  cases found with
  | none => simp [require]
  | some b => simp [require]

def refuseIf (p : Prop) [Decidable p] (e : ε) : Except ε Unit := if p then .error e else .ok ()

@[simp] theorem refuseIf_eq_ok {p : Prop} [Decidable p] {e : ε} {u : Unit} :
    refuseIf p e = .ok u ↔ ¬p := by
  by_cases h : p
  · simp [refuseIf, h]
  · simp [refuseIf, h]

theorem bind_eq_ok {x : Except ε α} {f : α → Except ε β} {b : β} :
    (x >>= f) = .ok b ↔ ∃ a, x = .ok a ∧ f a = .ok b := by
  cases x with
  | error e => simp [bind, Except.bind]
  | ok a => simp [bind, Except.bind]

theorem mapError_eq_ok {δ : Type u} {x : Except ε α} {f : ε → δ} {a : α} :
    x.mapError f = .ok a ↔ x = .ok a := by
  cases x with
  | error e => simp [Except.mapError]
  | ok b => simp [Except.mapError]

def transaction (s : σ) (body : Except ε (α × σ)) (commit : Option ε) : Except ε α × σ :=
  match body, commit with
  | .ok (a, s'), none => (.ok a, s')
  | .ok _, some e => (.error e, s)
  | .error e, _ => (.error e, s)

theorem transaction_cases (s : σ) (body : Except ε (α × σ)) (commit : Option ε) :
    (∃ a s', body = .ok (a, s') ∧ commit = none ∧ transaction s body commit = (.ok a, s')) ∨
      ∃ e, transaction s body commit = (.error e, s) := by
  cases body with
  | error e => exact .inr ⟨e, by cases commit <;> rfl⟩
  | ok r =>
    cases commit with
    | none => exact .inl ⟨r.1, r.2, rfl, rfl, rfl⟩
    | some e => exact .inr ⟨e, rfl⟩

theorem transaction_keeps {P : σ → Prop} {s : σ} {body : Except ε (α × σ)} (commit : Option ε)
    (hs : P s) (hb : ∀ a s', body = .ok (a, s') → P s') : P (transaction s body commit).2 := by
  rcases transaction_cases s body commit with ⟨a, s', h, _, he⟩ | ⟨e, he⟩
  · rw [he]
    exact hb a s' h
  · rw [he]
    exact hs

/-- Shows what holds of a result and its state from the body and from the rollback. -/
theorem transaction_elim {P : Except ε α → σ → Prop} {s s' : σ} {body : Except ε (α × σ)}
    {commit : Option ε} {r : Except ε α} (h : transaction s body commit = (r, s'))
    (hb : ∀ a s', body = .ok (a, s') → P (.ok a) s') (hs : ∀ e, P (.error e) s) : P r s' := by
  rcases transaction_cases s body commit with ⟨a, mid, ho, _, he⟩ | ⟨e, he⟩
  · rw [he] at h
    cases h
    exact hb a _ ho
  · rw [he] at h
    cases h
    exact hs e

theorem transaction_error {s s' : σ} {body : Except ε (α × σ)} {commit : Option ε} {e : ε}
    (h : transaction s body commit = (.error e, s')) : s' = s := by
  rcases transaction_cases s body commit with ⟨a, _, _, _, he⟩ | ⟨_, he⟩
  · rw [he] at h
    cases h
  · rw [he] at h
    cases h
    rfl

theorem transaction_ok {s s' : σ} {body : Except ε (α × σ)} {commit : Option ε} {a : α}
    (h : transaction s body commit = (.ok a, s')) : body = .ok (a, s') ∧ commit = none := by
  rcases transaction_cases s body commit with ⟨b, s'', hb, hc, he⟩ | ⟨e', he⟩
  · rw [he] at h
    cases h
    exact ⟨hb, hc⟩
  · rw [he] at h
    cases h

end DeepRouter.Atomic

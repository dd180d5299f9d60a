import Mathlib.Logic.Relation
import Mathlib.Order.Basic

/-! # Loops that end because they progress -/

namespace DeepRouter.Progress

open Relation

universe u

section

variable {α : Type u} [Preorder α] {r : α → α → Prop} {start a b : α}

def Climbs (r : α → α → Prop) (start : α) : Prop :=
  ∀ a b, ReflTransGen r start a → r a b → a < b

theorem Climbs.le (h : Climbs r start) (ha : ReflTransGen r start a) (hab : ReflTransGen r a b) :
    a ≤ b := by
  induction hab with
  | refl => exact le_rfl
  | tail hp hs ih => exact ih.trans (h _ _ (ha.trans hp) hs).le

theorem Climbs.exists_step_le (hu : Relator.RightUnique r) (h : Climbs r start)
    (ha : ReflTransGen r start a) (hb : ReflTransGen r start b) (hab : a < b) :
    ∃ c, r a c ∧ c ≤ b := by
  rcases ReflTransGen.total_of_right_unique hu ha hb with hp | hp
  · rcases ReflTransGen.cases_head hp with rfl | ⟨c, hs, hr⟩
    · exact absurd hab (lt_irrefl _)
    · exact ⟨c, hs, h.le (ha.tail hs) hr⟩
  · exact absurd (h.le hb hp) hab.not_ge

end

section

variable {σ : Type u} {ε : Type*}

/-- `for { n, err := batch(); if err != nil { return }; if n == 0 || n < size { break } }`, with the
error of a failed batch; `none` when the loop still runs after `fuel` batches. -/
def drain (size : Nat) (batch : σ → (Nat × Option ε) × σ) : Nat → σ → Option (Option ε × σ)
  | 0, _ => none
  | fuel + 1, s =>
    match batch s with
    | ((_, some e), s') => some (some e, s')
    | ((n, none), s') => if n = 0 ∨ n < size then some (none, s') else drain size batch fuel s'

theorem drain_keeps {size : Nat} {batch : σ → (Nat × Option ε) × σ} {I : σ → Prop}
    (hb : ∀ s, I s → I (batch s).2) {fuel : Nat} {s s' : σ} {e : Option ε} (hs : I s)
    (h : drain size batch fuel s = some (e, s')) : I s' := by
  induction fuel generalizing s with
  | zero => cases h
  | succ fuel ih =>
    have hn := hb s hs
    rw [drain] at h
    split at h
    · rename_i after he
      cases h
      rw [he] at hn
      exact hn
    · rename_i after he
      rw [he] at hn
      split at h
      · cases h
        exact hn
      · exact ih hn h

structure Drains (size : Nat) (batch : σ → (Nat × Option ε) × σ) (I Q : σ → Prop) (m : σ → Nat)
    (s : σ) (n : Nat) (s' : σ) : Prop where
  batch_eq : batch s = ((n, none), s')
  keeps : I s'
  full : size ≤ n → m s' < m s
  done : n < size → Q s'

theorem exists_drain {size : Nat} (hsi : 0 < size) {batch : σ → (Nat × Option ε) × σ}
    {I Q : σ → Prop} {m : σ → Nat} (hb : ∀ s, I s → ∃ n s', Drains size batch I Q m s n s')
    {fuel : Nat} {s : σ} (hs : I s) (hf : m s < fuel) :
    ∃ s', drain size batch fuel s = some (none, s') ∧ I s' ∧ Q s' := by
  induction fuel generalizing s with
  | zero => exact absurd hf (Nat.not_lt_zero _)
  | succ fuel ih =>
    obtain ⟨n, s', h⟩ := hb s hs
    rw [drain, h.batch_eq]
    dsimp only
    by_cases hn : n < size
    · rw [if_pos (.inr hn)]
      exact ⟨s', rfl, h.keeps, h.done hn⟩
    · have hfu := h.full (Nat.le_of_not_lt hn)
      rw [if_neg (by omega)]
      exact ih h.keeps (by omega)

end

end DeepRouter.Progress

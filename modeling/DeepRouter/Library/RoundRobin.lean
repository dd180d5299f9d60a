import Mathlib.Data.List.Rotate

/-! # Round robin over the positions that are ready -/

namespace DeepRouter.RoundRobin

open List

def cycle (n start : Nat) : List Nat := (List.range n).map fun i => (start + i) % n

def next (ready : Nat → Bool) (n start : Nat) : Option Nat := (cycle n start).find? ready

def queue (ready : Nat → Bool) (n start : Nat) : List Nat := (cycle n start).filter ready

variable {ready : Nat → Bool} {n start : Nat}

theorem cycle_eq_rotate (n start : Nat) : cycle n start = (List.range n).rotate start := by
  apply ext_getElem
  · simp [cycle]
  · intro i _ _
    simp [cycle, getElem_rotate, Nat.add_comm]

theorem cycle_congr {start' : Nat} (h : start % n = start' % n) : cycle n start = cycle n start' := by
  apply map_congr_left
  intro i _
  rw [Nat.add_mod, h, ← Nat.add_mod]

theorem queue_perm (ready : Nat → Bool) (n start : Nat) :
    (queue ready n start).Perm ((List.range n).filter ready) := by
  rw [queue, cycle_eq_rotate]
  exact (rotate_perm _ _).filter _

theorem next_eq_head? : next ready n start = (queue ready n start).head? :=
  head?_filter.symm

theorem queue_succ {idx : Nat} (h : next ready n start = some idx) :
    queue ready n ((idx + 1) % n) = (queue ready n start).rotate 1 := by
  obtain ⟨hr, before, after, hsp, hb⟩ := find?_eq_some_iff_append.mp h
  have hl : before.length < (cycle n start).length := by
    rw [hsp]
    simp
  have hi : idx = (start + before.length) % n := by
    have ha : (cycle n start)[before.length] = idx := by simp [hsp]
    rw [← ha]
    simp [cycle]
  have hc : cycle n ((idx + 1) % n) = after ++ (before ++ [idx]) := by
    have hs : (idx + 1) % n % n = (start + (before ++ [idx]).length) % n := by
      rw [Nat.mod_mod, hi, length_append, length_singleton, Nat.mod_add_mod, Nat.add_assoc]
    rw [cycle_congr hs, cycle_eq_rotate, ← rotate_rotate, ← cycle_eq_rotate, hsp,
      ← singleton_append, ← append_assoc, rotate_append_length_eq]
  have hn : before.filter ready = [] := by
    rw [filter_eq_nil_iff]
    intro position hm
    simpa using hb position hm
  rw [queue, queue, hc, hsp]
  simp [filter_append, hn, hr]

variable (ready n) in
def serve : Nat → Nat → List Nat
  | 0, _ => []
  | k + 1, start =>
    match next ready n start with
    | some idx => idx :: serve k ((idx + 1) % n)
    | none => []

theorem mem_serve {k idx : Nat} (h : idx ∈ serve ready n k start) :
    idx ∈ (List.range n).filter ready := by
  induction k generalizing start with
  | zero => cases h
  | succ k ih =>
    rw [serve] at h
    split at h
    · rename_i served hn
      obtain rfl | h := mem_cons.mp h
      · rw [next_eq_head?] at hn
        exact (queue_perm ready n start).mem_iff.mp (mem_of_head? hn)
      · exact ih h
    · cases h

theorem exists_next (h : (List.range n).filter ready ≠ []) (start : Nat) :
    ∃ idx, next ready n start = some idx := by
  have hq : queue ready n start ≠ [] := fun hn =>
    h (List.Perm.eq_nil (hn ▸ (queue_perm ready n start).symm))
  rw [next_eq_head?]
  exact ⟨_, head?_eq_some_head hq⟩

theorem serve_eq_take {k : Nat} (h : k ≤ (queue ready n start).length) :
    serve ready n k start = (queue ready n start).take k := by
  induction k generalizing start with
  | zero => rfl
  | succ k ih =>
    obtain ⟨idx, rest, hq⟩ := exists_cons_of_length_pos (Nat.lt_of_lt_of_le k.succ_pos h)
    have hn : next ready n start = some idx := by rw [next_eq_head?, hq, head?_cons]
    have ha : queue ready n ((idx + 1) % n) = rest ++ [idx] := by
      rw [queue_succ hn, hq, rotate_cons_succ, rotate_zero]
    have hr : k ≤ rest.length := by simpa [hq] using h
    have hl : k ≤ (queue ready n ((idx + 1) % n)).length := by
      rw [ha, length_append]
      omega
    rw [serve, hn, hq, take_succ_cons]
    dsimp only
    rw [ih hl, ha, take_append_of_le_length hr]

theorem serve_perm (ready : Nat → Bool) (n start : Nat) :
    (serve ready n ((List.range n).filter ready).length start).Perm ((List.range n).filter ready) := by
  have hp := queue_perm ready n start
  rw [serve_eq_take (Nat.le_of_eq hp.length_eq.symm), ← hp.length_eq, take_length]
  exact hp

end DeepRouter.RoundRobin

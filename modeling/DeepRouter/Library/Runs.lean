import Mathlib.Algebra.Group.Basic
import Mathlib.Order.Basic

/-! # Finite runs of a step function -/

namespace DeepRouter.Runs

open List

universe u v

variable {σ : Type u} {α : Type v}

def run (step : σ → α → σ) (s : σ) (ops : List α) : σ := ops.foldl step s

@[simp] theorem run_nil (step : σ → α → σ) (s : σ) : run step s [] = s := rfl

@[simp] theorem run_cons (step : σ → α → σ) (s : σ) (a : α) (ops : List α) :
    run step s (a :: ops) = run step (step s a) ops := rfl

theorem run_append (step : σ → α → σ) (s : σ) (first second : List α) :
    run step s (first ++ second) = run step (run step s first) second :=
  foldl_append

def Along (step : σ → α → σ) (C : σ → α → Prop) : σ → List α → Prop
  | _, [] => True
  | s, a :: ops => C s a ∧ Along step C (step s a) ops

@[simp] theorem along_nil (step : σ → α → σ) (C : σ → α → Prop) (s : σ) : Along step C s [] :=
  trivial

variable {step : σ → α → σ} {C : σ → α → Prop} {s : σ} {ops : List α}

@[simp] theorem along_cons {a : α} :
    Along step C s (a :: ops) ↔ C s a ∧ Along step C (step s a) ops := Iff.rfl

instance decidableAlong {step : σ → α → σ} {C : σ → α → Prop} [∀ s a, Decidable (C s a)] :
    ∀ (s : σ) (ops : List α), Decidable (Along step C s ops)
  | _, [] => .isTrue trivial
  | s, a :: ops => @instDecidableAnd (C s a) _ _ (decidableAlong (step s a) ops)

theorem along_append {first second : List α} :
    Along step C s (first ++ second) ↔
      Along step C s first ∧ Along step C (run step s first) second := by
  induction first generalizing s with
  | nil => simp
  | cons a first ih => simp [ih, and_assoc]

variable {I : σ → Prop}

theorem run_invariant (hst : ∀ s a, I s → C s a → I (step s a)) (hs : I s) (ops : List α)
    (h : Along step C s ops) : I (run step s ops) := by
  induction ops generalizing s with
  | nil => exact hs
  | cons a ops ih => exact ih (hst s a hs h.1) h.2

theorem run_preserves (hst : ∀ s a, I s → I (step s a)) (hs : I s) (ops : List α) :
    I (run step s ops) := by
  induction ops generalizing s with
  | nil => exact hs
  | cons a ops ih => exact ih (hst s a hs)

theorem length_le_of_active {I Active : σ → Prop} {m : σ → Nat}
    (hste : ∀ s a, I s → I (step s a)) (hd : ∀ s a, I s → Active s → m (step s a) < m s)
    (hst : ∀ s a, ¬Active s → ¬Active (step s a)) (hs : I s)
    (h : Active (run step s ops)) : ops.length + m (run step s ops) ≤ m s := by
  induction ops generalizing s with
  | nil => simp
  | cons a ops ih =>
    have ha : Active s := by
      by_contra hn
      exact run_preserves (I := fun t => ¬Active t) hst (hst s a hn) ops h
    have hr := ih (hste s a hs) h
    have hf := hd s a hs ha
    rw [run_cons, length_cons]
    omega

theorem along_of_forall_mem {C : α → Prop} (s : σ)
    (h : ∀ a ∈ ops, C a) : Along step (fun _ => C) s ops := by
  induction ops generalizing s with
  | nil => trivial
  | cons a ops ih =>
    exact ⟨h a mem_cons_self, ih _ fun b hb => h b (mem_cons_of_mem _ hb)⟩

variable {C D : σ → α → Prop}

theorem along_imp
    (hst : ∀ s a, I s → C s a → I (step s a)) (hD : ∀ s a, I s → C s a → D s a) (hs : I s)
    (h : Along step C s ops) : Along step D s ops := by
  induction ops generalizing s with
  | nil => trivial
  | cons a ops ih => exact ⟨hD s a hs h.1, ih (hst s a hs h.1) h.2⟩

theorem along_mono (hD : ∀ s a, C s a → D s a) (h : Along step C s ops) : Along step D s ops :=
  along_imp (I := fun _ => True) (fun _ _ _ _ => trivial) (fun s a _ => hD s a) trivial h

theorem along_and (hC : Along step C s ops) (hD : Along step D s ops) :
    Along step (fun s a => C s a ∧ D s a) s ops := by
  induction ops generalizing s with
  | nil => trivial
  | cons a ops ih => exact ⟨⟨hC.1, hD.1⟩, ih hC.2 hD.2⟩

theorem along_iff {C C' D : σ → α → Prop} (hst : ∀ s a, I s → D s a → C s a → I (step s a))
    (hi : ∀ s a, I s → D s a → (C s a ↔ C' s a)) (hs : I s)
    (hD : Along step D s ops) : Along step C s ops ↔ Along step C' s ops := by
  induction ops generalizing s with
  | nil => exact Iff.rfl
  | cons a ops ih =>
    rw [along_cons, along_cons, ← hi s a hs hD.1]
    exact and_congr_right fun hC => ih (hst s a hs hD.1 hC) hD.2

def tally (step : σ → α → σ) (E : σ → α → Bool) : σ → List α → Nat
  | _, [] => 0
  | s, a :: ops => (if E s a then 1 else 0) + tally step E (step s a) ops

@[simp] theorem tally_nil (step : σ → α → σ) (E : σ → α → Bool) (s : σ) :
    tally step E s [] = 0 := rfl

@[simp] theorem tally_cons (step : σ → α → σ) (E : σ → α → Bool) (s : σ) (a : α) (ops : List α) :
    tally step E s (a :: ops) = (if E s a then 1 else 0) + tally step E (step s a) ops := rfl

theorem tally_entering {E : σ → α → Bool} {P : σ → Prop} [DecidablePred P]
    {C : α → Prop} (hst : ∀ s a, C a → P s → P (step s a))
    (hen : ∀ s a, C a → (E s a = true ↔ ¬P s ∧ P (step s a))) (s : σ) (ho : ∀ a ∈ ops, C a) :
    tally step E s ops = if ¬P s ∧ P (run step s ops) then 1 else 0 := by
  induction ops generalizing s with
  | nil => simp
  | cons a ops ih =>
    have ha := ho a mem_cons_self
    have hr : ∀ b ∈ ops, C b := fun b hb => ho b (mem_cons_of_mem _ hb)
    rw [tally_cons, run_cons, ih _ hr]
    by_cases hs : P s
    · have hno : ¬E s a = true := fun h => ((hen s a ha).mp h).1 hs
      simp [hs, hno, hst s a ha hs]
    by_cases hn : P (step s a)
    · have he : P (run step (step s a) ops) :=
        run_invariant (fun t b ht hb => hst t b hb ht) hn ops (along_of_forall_mem _ hr)
      simp [hs, hn, he, (hen s a ha).mpr ⟨hs, hn⟩]
    · have hno : ¬E s a = true := fun h => hn ((hen s a ha).mp h).2
      simp [hs, hn, hno]

theorem tally_le_one {E : σ → α → Bool} {I P : σ → Prop}
    (hst : ∀ s a, I s → I (step s a)) (hsta : ∀ s a, I s → P s → P (step s a))
    (he : ∀ s a, I s → E s a = true → ¬P s ∧ P (step s a)) (hs : I s)
    (ops : List α) : tally step E s ops ≤ 1 ∧ (P s → tally step E s ops = 0) := by
  induction ops generalizing s with
  | nil => exact ⟨Nat.zero_le 1, fun _ => rfl⟩
  | cons a ops ih =>
    obtain ⟨ho, hz⟩ := ih (hst s a hs)
    rw [tally_cons]
    by_cases hE : E s a = true
    · obtain ⟨hn, hi⟩ := he s a hs hE
      rw [if_pos hE, hz hi]
      exact ⟨Nat.le_refl 1, fun hP => absurd hP hn⟩
    · rw [if_neg hE, Nat.zero_add]
      exact ⟨ho, fun hP => hz (hsta s a hs hP)⟩

section

variable {M : Type*} [AddCommMonoid M]

def sumAlong (step : σ → α → σ) (w : σ → α → M) : σ → List α → M
  | _, [] => 0
  | s, a :: ops => w s a + sumAlong step w (step s a) ops

@[simp] theorem sumAlong_nil (step : σ → α → σ) (w : σ → α → M) (s : σ) :
    sumAlong step w s [] = 0 := rfl

@[simp] theorem sumAlong_cons (step : σ → α → σ) (w : σ → α → M) (s : σ) (a : α) (ops : List α) :
    sumAlong step w s (a :: ops) = w s a + sumAlong step w (step s a) ops := rfl

theorem run_measure {m : σ → M} {w : σ → α → M} (hs : ∀ s a, C s a → m (step s a) = m s + w s a)
    (h : Along step C s ops) : m (run step s ops) = m s + sumAlong step w s ops := by
  induction ops generalizing s with
  | nil => rw [run_nil, sumAlong_nil, add_zero]
  | cons a ops ih => rw [run_cons, sumAlong_cons, ih h.2, hs s a h.1, add_assoc]

theorem sumAlong_add (step : σ → α → σ) (w w' : σ → α → M) (s : σ) (ops : List α) :
    sumAlong step (fun s a => w s a + w' s a) s ops =
      sumAlong step w s ops + sumAlong step w' s ops := by
  induction ops generalizing s with
  | nil => rw [sumAlong_nil, sumAlong_nil, sumAlong_nil, add_zero]
  | cons a ops ih =>
    rw [sumAlong_cons, sumAlong_cons, sumAlong_cons, ih]
    exact add_add_add_comm _ _ _ _

theorem sumAlong_neg {G : Type*} [AddCommGroup G] (step : σ → α → σ) (w : σ → α → G) (s : σ)
    (ops : List α) : sumAlong step (fun s a => -w s a) s ops = -sumAlong step w s ops := by
  induction ops generalizing s with
  | nil => rw [sumAlong_nil, sumAlong_nil, neg_zero]
  | cons a ops ih => rw [sumAlong_cons, sumAlong_cons, ih, neg_add]

theorem sumAlong_entering {w : σ → α → M} {P : σ → Prop}
    {c : M} (hs : ∀ s a, P s → P (step s a)) (hi : ∀ s a, C s a → P s → w s a = 0)
    (he : ∀ s a, C s a → w s a = 0 ∨ w s a = c ∧ P (step s a)) (h : Along step C s ops) :
    (sumAlong step w s ops = 0 ∨ sumAlong step w s ops = c) ∧
    (P s → sumAlong step w s ops = 0) := by
  induction ops generalizing s with
  | nil => exact ⟨.inl rfl, fun _ => rfl⟩
  | cons a ops ih =>
    obtain ⟨hr, hz⟩ := ih h.2
    rw [sumAlong_cons]
    constructor
    · obtain hn | ⟨hw, hP⟩ := he s a h.1
      · rw [hn, zero_add]
        exact hr
      · rw [hw, hz hP, add_zero]
        exact .inr rfl
    · intro hP
      rw [hi s a h.1 hP, hz (hs s a hP), add_zero]

theorem sumAlong_const (step : σ → α → σ) (w : α → M) (s : σ) (ops : List α) :
    sumAlong step (fun _ => w) s ops = (ops.map w).sum := by
  induction ops generalizing s with
  | nil => rfl
  | cons a ops ih => rw [sumAlong_cons, ih, map_cons, sum_cons]

end

section

variable {β : Type*}

def outputs (step : σ → α → σ) (out : σ → α → β) : σ → List α → List β
  | _, [] => []
  | s, a :: ops => out s a :: outputs step out (step s a) ops

variable {step : σ → α → σ} {out : σ → α → β}

theorem drop_outputs (s : σ) (ops : List α) (i : Nat) :
    (outputs step out s ops).drop i = outputs step out (run step s (ops.take i)) (ops.drop i) := by
  induction i generalizing s ops with
  | zero => rfl
  | succ i ih =>
    cases ops with
    | nil => rfl
    | cons a ops => exact ih (step s a) ops

theorem take_outputs (s : σ) (ops : List α) (k : Nat) :
    (outputs step out s ops).take k = outputs step out s (ops.take k) := by
  induction k generalizing s ops with
  | zero => rfl
  | succ k ih =>
    cases ops with
    | nil => rfl
    | cons a ops => exact congrArg (out s a :: ·) (ih (step s a) ops)

theorem outputs_eq_iff {τ : Type*} {step' : τ → α → τ} {out' : τ → α → β} {R : σ → τ → Prop}
    (hs : ∀ s t a, R s t → D s a → out' t a = out s a → R (step s a) (step' t a))
    (hi : ∀ s t a, R s t → D s a → (out' t a = out s a ↔ C s a)) {t : τ} (hR : R s t)
    (hD : Along step D s ops) :
    outputs step' out' t ops = outputs step out s ops ↔ Along step C s ops := by
  induction ops generalizing s t with
  | nil => exact iff_of_true rfl trivial
  | cons a ops ih =>
    rw [outputs, outputs, List.cons.injEq, along_cons, ← hi s t a hR hD.1]
    exact and_congr_right fun ho => ih (hs s t a hR hD.1 ho) hD.2

end

section

variable {ε : Type*}

def retry (fn : Nat → σ → Except ε Unit × σ) : Nat → Nat → Option ε → σ → Except ε Unit × σ
  | 0, _, none, s => (.ok (), s)
  | 0, _, some e, s => (.error e, s)
  | k + 1, i, _, s =>
    match fn i s with
    | (.ok (), s') => (.ok (), s')
    | (.error e, s') => retry fn k (i + 1) (some e) s'

theorem retry_state {fn : Nat → σ → Except ε Unit × σ}
    (ha : ∀ i j s s', fn i s = (.ok (), s') → (fn j s').2 = s')
    (k i : Nat) (last : Option ε) (s : σ) :
    (retry fn k i last s).2 = run (fun s j => (fn j s).2) s (List.range' i k) := by
  induction k generalizing i last s with
  | zero => cases last <;> rfl
  | succ k ih =>
    rw [List.range'_succ, run_cons, retry]
    cases hf : fn i s with
    | mk r s' =>
      cases r with
      | error e => exact ih (i + 1) (some e) s'
      | ok u =>
        refine (run_preserves (I := fun t => t = s') ?_ rfl _).symm
        rintro t j rfl
        exact ha i j s t hf

theorem retry_ok {fn : Nat → σ → Except ε Unit × σ}
    (hfa : ∀ i s e s', fn i s = (.error e, s') → s' = s) {k i : Nat} {last : Option ε} {s s' : σ}
    (h : retry fn (k + 1) i last s = (.ok (), s')) : ∃ j, fn j s = (.ok (), s') := by
  induction k generalizing i last with
  | zero =>
    rw [retry] at h
    split at h
    · rename_i after hf
      cases h
      exact ⟨i, hf⟩
    · cases h
  | succ k ih =>
    rw [retry] at h
    split at h
    · rename_i after hf
      cases h
      exact ⟨i, hf⟩
    · rename_i e after hf
      rw [hfa i s e after hf] at h
      exact ih h

end

end DeepRouter.Runs

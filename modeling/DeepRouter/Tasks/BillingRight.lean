import DeepRouter.Tasks.History
import DeepRouter.Tasks.Workers

/-! # Who may bill a task -/

namespace DeepRouter.Tasks

open Store KeyedTable Billing Runs MachineInt Function

def Worker.Owes (id : Int) : Worker → Prop
  | .idle => False
  | .holding _ => False
  | .refunding copy => copy.id = id
  | .billing plan => plan.task.id = id ∧ (plan.shouldRefund = true ∨ plan.shouldSettle = true)
  | .saving copy refunded => copy.id = id ∧ refunded = true

def Worker.Sound (task : Task) : Worker → Prop
  | .idle => True
  | .holding copy => copy.id = task.id → ¬copy.status.Final → copy.account = task.account
  | .refunding copy => copy.id = task.id → copy.account = task.account
  | .billing plan => plan.task.id = task.id → plan.task.account = task.account ∧
    (plan.shouldSettle = true → plan.task.status = .success)
  | .saving copy _ => copy.id = task.id → copy.account = task.account

def Untouched (id : Int) (w : World) : Prop := refunds id w = [] ∧ .settled id ∉ w.history

def RefundedOnce (task : Task) (w : World) : Prop :=
  (refunds task.id w = [] ∨ ∃ amount, amount ≤ task.quota.toInt ∧ refunds task.id w = [amount]) ∧
    .settled task.id ∉ w.history

/-- The worker that made the row final bills it accordingly. -/
def Worker.Pays (row : Task) : Worker → Prop
  | .refunding _ => row.status = .failure
  | .billing plan =>
    (plan.shouldRefund = true ∧ plan.shouldSettle = false ∧ row.status = .failure) ∨
      (plan.shouldRefund = false ∧ plan.shouldSettle = true ∧ row.status = .success)
  | _ => False

/-- The row, a Suno poll that has refunded and not yet saved, the worker that made the row final, or
nobody. -/
inductive Phase (task row : Task) (w : World) (workers : Nat → Worker) : Prop where
  | opened (hr : ¬row.status.Final) (hc : Untouched task.id w)
      (hf : ∀ j, ¬(workers j).Owes task.id)
  | refunded (i : Nat) (hr : ¬row.status.Final) (ho : RefundedOnce task w)
      (copy : Task) (hw : workers i = .saving copy true) (hk : copy.id = task.id)
      (hs : copy.status = .failure) (hf : ∀ j, j ≠ i → ¬(workers j).Owes task.id)
  | paying (i : Nat) (hc : Untouched task.id w) (how : (workers i).Owes task.id)
      (hp : (workers i).Pays row) (hf : ∀ j, j ≠ i → ¬(workers j).Owes task.id)
  | closed (hr : (row.status = .failure ∧ RefundedOnce task w) ∨
      (row.status = .success ∧ refunds task.id w = [])) (hf : ∀ j, ¬(workers j).Owes task.id)

theorem Untouched.refundedOnce {task : Task} {w : World} (h : Untouched task.id w) :
    RefundedOnce task w := ⟨.inl h.1, h.2⟩

theorem SameEvents.untouched {id : Int} {w w' : World} (h : SameEvents id w w')
    (hc : Untouched id w) : Untouched id w' :=
  ⟨h.refunds.trans hc.1, fun hs => hc.2 (h.settled.mp hs)⟩

theorem SameEvents.refundedOnce {task : Task} {w w' : World} (h : SameEvents task.id w w')
    (ho : RefundedOnce task w) : RefundedOnce task w' := by
  refine ⟨?_, fun hs => ho.2 (h.settled.mp hs)⟩
  rw [h.refunds]
  exact ho.1

section

variable {task row : Task} {w w' : World} {workers : Nat → Worker} {i : Nat} {worker : Worker}

theorem pays_final (h : worker.Pays row) : row.status.Final := by
  cases worker with
  | idle => cases h
  | holding copy => cases h
  | refunding copy => exact .inr h
  | billing plan =>
    rcases h with ⟨_, _, hs⟩ | ⟨_, _, hs⟩
    · exact .inr hs
    · exact .inl hs
  | saving copy refunded => cases h

theorem free_update (hf : ∀ j, j ≠ i → ¬(workers j).Owes task.id)
    (hw : ¬worker.Owes task.id) (j : Nat) : ¬(Function.update workers i worker j).Owes task.id := by
  by_cases hj : j = i
  · rw [hj, update_self]
    exact hw
  · rw [update_of_ne hj]
    exact hf j hj

theorem Phase.take (hc : Untouched task.id w) (hf : ∀ j, ¬(workers j).Owes task.id)
    (ho : worker.Owes task.id) (hp : worker.Pays row) :
    Phase task row w (Function.update workers i worker) := by
  refine .paying i hc ?_ ?_ ?_
  · rw [update_self]
    exact ho
  · rw [update_self]
    exact hp
  · intro j hj
    rw [update_of_ne hj]
    exact hf j

theorem Phase.quiet (h : Phase task row w workers) (he : SameEvents task.id w w')
    (hb : ¬(workers i).Owes task.id) (ha : ¬worker.Owes task.id) :
    Phase task row w' (Function.update workers i worker) := by
  have hot : ∀ k, (∀ j, j ≠ k → ¬(workers j).Owes task.id) →
      ∀ j, j ≠ k → ¬(Function.update workers i worker j).Owes task.id := by
    intro k hf j hj
    by_cases hs : j = i
    · rw [hs, update_self]
      exact ha
    · rw [update_of_ne hs]
      exact hf j hj
  cases h with
  | opened hr hc hf =>
    exact .opened hr (he.untouched hc) (free_update (fun j _ => hf j) ha)
  | refunded k hr ho copy hw hk hSt hf =>
    have hNe : k ≠ i := by
      rintro rfl
      rw [hw] at hb
      exact hb ⟨hk, rfl⟩
    refine .refunded k hr (he.refundedOnce ho) copy ?_ hk hSt (hot k hf)
    rw [update_of_ne hNe]
    exact hw
  | paying k hc how hp hf =>
    have hNe : k ≠ i := by
      rintro rfl
      exact hb how
    rw [← update_of_ne hNe worker workers] at how hp
    exact .paying k (he.untouched hc) how hp (hot k hf)
  | closed hr hf =>
    refine .closed ?_ (free_update (fun j _ => hf j) ha)
    rcases hr with ⟨hSt, ho⟩ | ⟨hSt, hn⟩
    · exact .inl ⟨hSt, he.refundedOnce ho⟩
    · exact .inr ⟨hSt, he.refunds.trans hn⟩

theorem Phase.of_not_final (h : Phase task row w workers) (hr : ¬row.status.Final)
    (hs : ∀ j copy, workers j = .saving copy true → copy.id ≠ task.id) :
    Untouched task.id w ∧ ∀ j, ¬(workers j).Owes task.id := by
  cases h with
  | opened _ hc hf => exact ⟨hc, hf⟩
  | refunded k _ _ copy hw hk => exact absurd hk (hs k copy hw)
  | paying k _ _ hp => exact absurd (pays_final hp) hr
  | closed he =>
    rcases he with ⟨hSt, _⟩ | ⟨hSt, _⟩
    · exact absurd (.inr hSt) hr
    · exact absurd (.inl hSt) hr

theorem Phase.of_owes (h : Phase task row w workers) (ho : (workers i).Owes task.id)
    (hw : ∀ copy, workers i ≠ .saving copy true) :
    Untouched task.id w ∧ (workers i).Pays row ∧ ∀ j, j ≠ i → ¬(workers j).Owes task.id := by
  cases h with
  | opened _ _ hf => exact absurd ho (hf i)
  | refunded k _ _ copy hs _ _ hf =>
    by_cases hsa : i = k
    · rw [hsa] at hw
      exact absurd hs (hw copy)
    · exact absurd ho (hf i hsa)
  | paying k hc _ hp hf =>
    by_cases hsa : i = k
    · subst hsa
      exact ⟨hc, hp, hf⟩
    · exact absurd ho (hf i hsa)
  | closed _ hf => exact absurd ho (hf i)

theorem Phase.of_saving (h : Phase task row w workers) {copy : Task}
    (hw : workers i = .saving copy true) (hk : copy.id = task.id) :
    RefundedOnce task w ∧ copy.status = .failure ∧ ∀ j, j ≠ i → ¬(workers j).Owes task.id := by
  have how : (workers i).Owes task.id := by
    rw [hw]
    exact ⟨hk, rfl⟩
  cases h with
  | opened _ _ hf => exact absurd how (hf i)
  | refunded k _ ho other hs _ hSt hf =>
    by_cases hsa : i = k
    · subst hsa
      cases hw.symm.trans hs
      exact ⟨ho, hSt, hf⟩
    · exact absurd how (hf i hsa)
  | paying k _ _ hp hf =>
    by_cases hsa : i = k
    · rw [← hsa, hw] at hp
      cases hp
    · exact absurd how (hf i hsa)
  | closed _ hf => exact absurd how (hf i)

theorem refund_once (calls : BillingCalls) {copy : Task} (hq : 0 < task.quota)
    (hc : copy.account = task.account) (hcl : Untouched task.id w) :
    RefundedOnce task (refundTaskQuota calls copy w) := by
  have hk := id_of_account hc
  have hs := quota_of_account hc
  rw [← hs] at hq
  rcases refundTaskQuota_cases calls hq w with ⟨_, _, he⟩ | ⟨db, amount, _, hl, _, he⟩
  · rw [he]
    exact hcl.refundedOnce
  rw [he]
  refine ⟨.inr ⟨amount, hs ▸ hl, ?_⟩, ?_⟩
  · have hn : refunds task.id { w with db, history := w.history ++ [.refunded copy.id amount] } =
        refunds task.id w ++ [amount] := by
      simp [refunds, TaskEvent.refund?, hk]
    rw [hn, hcl.1, List.nil_append]
  · intro hse
    rcases List.mem_append.mp hse with ho | hn
    · exact hcl.2 ho
    · cases List.mem_singleton.mp hn

end

end DeepRouter.Tasks

import DeepRouter.Tasks.Billing

/-! # What refund and settlement do to the ledgers -/

namespace DeepRouter.Tasks

open Store KeyedTable Billing Subscription MachineInt

section

variable {calls : BillingCalls} {task : Task} {delta : Int64} {db db' : Database}

theorem taskAdjustFunding_error {e : Err} (h : taskAdjustFunding calls task delta db = (.error e, db')) :
    db' = db := by
  unfold taskAdjustFunding at h
  split at h
  · exact post_error h
  · split at h
    · exact updateQuota_error h
    · exact updateQuota_error h

theorem taskAdjustTokenQuota_elim {P : Database → Prop} (hk : P db)
    (ht : ∀ id f, P (db.updateToken id f)) : P (taskAdjustTokenQuota calls task delta db) := by
  unfold taskAdjustTokenQuota
  split
  · exact hk
  split
  · exact hk
  · split
    · exact updateQuota_elim hk (ht _ _)
    · exact updateQuota_elim hk (ht _ _)

end

theorem settledUsed_neg_le (used : Int64) {am : Int64} (ha : 0 < am) :
    used.toInt - (settledUsed used (-am)).toInt ≤ am.toInt := by
  have hp := pos_iff.mp ha
  have hn := toInt_neg_of_pos ha
  unfold settledUsed
  split
  · rename_i hc
    change used.toInt - 0 ≤ _
    by_contra hl
    rw [lt_iff, toInt_add_of_fits (fitsAdd_neg (nonneg_iff.mpr (by omega)) ha)] at hc
    change _ < (0 : Int) at hc
    omega
  · rename_i hc
    have hl := toInt_add_le hc
    omega

section

variable {calls : BillingCalls} {task : Task} {db db' : Database}

variable (hq : 0 < task.quota) (h : taskAdjustFunding calls task (-task.quota) db = (.ok (), db'))

include hq h

theorem refund_subscription (hs : taskIsSubscription task = true) :
    usedOf db' task.privateData.subscriptionId =
      settledUsed (usedOf db task.privateData.subscriptionId) (-task.quota) := by
  rw [taskAdjustFunding, if_pos hs] at h
  obtain ⟨_, ⟨hz, _⟩ | ⟨_, sub, hr, _, rfl⟩⟩ := post_ok h
  · have hp := pos_iff.mp hq
    have hn := toInt_neg_of_pos hq
    rw [hz] at hn
    change (0 : Int) = _ at hn
    omega
  · rw [settleRow_usedOf hr, if_pos rfl, usedOf_of_find? hr]

theorem refund_wallet (hs : taskIsSubscription task = false) :
    (db'.users task.userId).quota = (db.users task.userId).quota + task.quota.toInt := by
  have hp := pos_iff.mp hq
  have hn : ¬0 < -task.quota := by
    rw [pos_iff, toInt_neg_of_pos hq]
    omega
  rw [taskAdjustFunding, if_neg (by rw [hs]; exact Bool.false_ne_true), if_neg hn,
    Int64.neg_neg] at h
  obtain ⟨_, rfl⟩ := updateQuota_ok h
  simp

theorem refund_available :
    available task db' - available task db =
      if taskIsSubscription task then
        (usedOf db task.privateData.subscriptionId).toInt -
          (settledUsed (usedOf db task.privateData.subscriptionId) (-task.quota)).toInt
      else task.quota.toInt := by
  unfold available
  cases hs : taskIsSubscription task with
  | false =>
    rw [if_neg Bool.false_ne_true, if_neg Bool.false_ne_true, refund_wallet hq h hs,
      if_neg Bool.false_ne_true]
    omega
  | true =>
    rw [if_pos rfl, if_pos rfl, refund_subscription hq h hs, if_pos rfl]
    omega

theorem refund_le : available task db' - available task db ≤ task.quota.toInt := by
  have hl := settledUsed_neg_le (usedOf db task.privateData.subscriptionId) hq
  rw [refund_available hq h]
  split <;> omega

theorem refund_exact (hu : taskIsSubscription task = true →
      task.quota ≤ usedOf db task.privateData.subscriptionId) :
    available task db' - available task db = task.quota.toInt := by
  rw [refund_available hq h]
  split
  · rename_i hs
    have hp := pos_iff.mp hq
    have he := le_iff.mp (hu hs)
    rw [settledUsed_neg (nonneg_iff.mpr (by omega)) hq]
    omega
  · rfl

end

theorem refundTaskQuota_cases (calls : BillingCalls) {task : Task} (hq : 0 < task.quota)
    (w : World) :
    (∃ e, (taskAdjustFunding calls task (-task.quota) w.db).1 = .error e ∧
      refundTaskQuota calls task w = w) ∨
    ∃ db am, (taskAdjustFunding calls task (-task.quota) w.db).1 = .ok () ∧
      am ≤ task.quota.toInt ∧
      ((taskIsSubscription task = true →
        task.quota ≤ usedOf w.db task.privateData.subscriptionId) → am = task.quota.toInt) ∧
      refundTaskQuota calls task w =
        { w with db, history := w.history ++ [.refunded task.id am] } := by
  unfold refundTaskQuota
  rw [if_neg (ne_zero_of_pos hq)]
  generalize hf : taskAdjustFunding calls task (-task.quota) w.db = outcome
  obtain ⟨r, db⟩ := outcome
  cases r with
  | error e =>
    refine .inl ⟨e, rfl, ?_⟩
    rw [taskAdjustFunding_error hf]
  | ok u =>
    exact .inr ⟨_, _, rfl, refund_le hq hf, fun hu => refund_exact hq hf hu, rfl⟩

theorem refundTaskQuota_tasks (calls : BillingCalls) (task : Task) (w : World) :
    (refundTaskQuota calls task w).tasks = w.tasks := by
  unfold refundTaskQuota
  split
  · rfl
  · split
    · rfl
    · rfl

theorem recalculateTaskQuota_cases (calls : BillingCalls) (task : Task) (actu : Int64) (w : World) :
    ((actu ≤ 0 ∨ actu - task.quota = 0 ∨
        ∃ e, (taskAdjustFunding calls task (actu - task.quota) w.db).1 = .error e) ∧
      recalculateTaskQuota calls task actu w = (task, w)) ∨
    (0 < actu ∧ actu - task.quota ≠ 0 ∧ ∃ db,
      taskAdjustFunding calls task (actu - task.quota) w.db = (.ok (), db) ∧
      recalculateTaskQuota calls task actu w =
        ({ task with quota := actu },
          { w with
            db := taskAdjustTokenQuota calls task (actu - task.quota) db
            history := w.history ++ [.adjusted task.id (actu - task.quota)] })) := by
  unfold recalculateTaskQuota
  split
  · rename_i ha
    exact .inl ⟨.inl ha, rfl⟩
  rename_i ha
  dsimp only
  split
  · rename_i hd
    exact .inl ⟨.inr (.inl hd), rfl⟩
  rename_i hd
  generalize hf : taskAdjustFunding calls task (actu - task.quota) w.db = outcome
  obtain ⟨r, db⟩ := outcome
  cases r with
  | error e =>
    refine .inl ⟨.inr (.inr ⟨e, rfl⟩), ?_⟩
    rw [taskAdjustFunding_error hf]
  | ok u => exact .inr ⟨Int64.not_le.mp ha, hd, db, rfl, rfl⟩

def settledQuota (calls : TaskSettleCalls) (task : Task) (taskResult : TaskInfo) (db : Database) :
    Option Int64 :=
  if perCallBilling task then none
  else if 0 < calls.adjustBillingOnComplete task taskResult then
    some (calls.adjustBillingOnComplete task taskResult)
  else if 0 < taskResult.totalTokens then
    quotaByTokens calls.ratios calls.findUser task taskResult.totalTokens db
  else none

theorem settleTaskBillingOnComplete_eq (calls : TaskSettleCalls) (task : Task)
    (taskResult : TaskInfo) (w : World) :
    settleTaskBillingOnComplete calls task taskResult w =
      match settledQuota calls task taskResult w.db with
      | none => (task, { w with history := w.history ++ [.settled task.id] })
      | some actualQuota => recalculateTaskQuota calls.billing task actualQuota
          { w with history := w.history ++ [.settled task.id] } := by
  unfold settleTaskBillingOnComplete settledQuota
  split
  · rfl
  split
  · rfl
  · split
    · rfl
    · rfl

theorem settle_cases (calls : TaskSettleCalls) (task : Task) (taskResult : TaskInfo) (w : World) :
    ∃ quota db more, settleTaskBillingOnComplete calls task taskResult w =
        ({ task with quota }, { w with db, history := w.history ++ .settled task.id :: more }) ∧
      (more = [] ∨ ∃ delta, more = [.adjusted task.id delta]) := by
  rw [settleTaskBillingOnComplete_eq]
  split
  · exact ⟨task.quota, w.db, [], rfl, .inl rfl⟩
  rename_i actualQuota _
  rcases recalculateTaskQuota_cases calls.billing task actualQuota
    { w with history := w.history ++ [.settled task.id] } with ⟨_, he⟩ | ⟨_, _, db, _, he⟩
  · rw [he]
    exact ⟨task.quota, w.db, [], rfl, .inl rfl⟩
  rw [he]
  refine ⟨actualQuota, taskAdjustTokenQuota calls.billing task (actualQuota - task.quota) db,
    [.adjusted task.id (actualQuota - task.quota)], ?_, .inr ⟨_, rfl⟩⟩
  simp

theorem settle_tasks (calls : TaskSettleCalls) (task : Task) (taskResult : TaskInfo) (w : World) :
    (settleTaskBillingOnComplete calls task taskResult w).2.tasks = w.tasks := by
  obtain ⟨quota, db, more, he, _⟩ := settle_cases calls task taskResult w
  rw [he]

end DeepRouter.Tasks

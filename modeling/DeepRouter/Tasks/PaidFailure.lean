import DeepRouter.Tasks.History

/-! # What a poll gives back -/

namespace DeepRouter.Tasks

open Store KeyedTable Billing Subscription Runs MachineInt

def refundedTotal (id : Int) (w : World) : Int := (refunds id w).sum

def RefundAccepted (calls : BillingCalls) (task : Task) (db : Database) : Prop :=
  (taskAdjustFunding calls task (-task.quota) db).1 = .ok ()

def RefundCovered (task : Task) (db : Database) : Prop :=
  taskIsSubscription task = true → task.quota ≤ usedOf db task.privateData.subscriptionId

/-- Nothing is given back while the row is unfinished, and the whole quota once it is a failure. -/
structure RowPaid (task row : Task) (w : World) : Prop where
  account : row.account = task.account
  unfinished : row.Unfinished → refundedTotal task.id w = 0
  failure : row.status = .failure → refundedTotal task.id w = task.quota.toInt

/-- A copy that polls may still act on is charged as the task and its row is unfinished. -/
def CopySound (task row copy : Task) : Prop :=
  copy.Unfinished → copy.account = task.account ∧ row.Unfinished

theorem refundAccepted_congr {copy task : Task} (h : copy.account = task.account)
    (calls : BillingCalls) (db : Database) :
    RefundAccepted calls copy db ↔ RefundAccepted calls task db := by
  unfold RefundAccepted
  rw [taskAdjustFunding_congr h, quota_of_account h]

theorem refundCovered_congr {copy task : Task} (h : copy.account = task.account) (db : Database) :
    RefundCovered copy db ↔ RefundCovered task db := by
  unfold RefundCovered
  rw [taskIsSubscription_congr h, quota_of_account h, subscriptionId_of_account h]

section

variable {task row copy : Task} {w : World}

theorem refund_whole {calls : BillingCalls} (copy : Task) (hq : 0 < task.quota)
    (hco : copy.account = task.account) (ha : RefundAccepted calls task w.db)
    (hc : RefundCovered task w.db) (hn : refundedTotal task.id w = 0) :
    refundedTotal task.id (refundTaskQuota calls copy w) = task.quota.toInt := by
  have hs := quota_of_account hco
  rw [← refundAccepted_congr hco] at ha
  rw [← refundCovered_congr hco] at hc
  rw [← hs] at hq
  rcases refundTaskQuota_cases calls hq w with ⟨e, her, _⟩ | ⟨db, amount, _, _, he, hEq⟩
  · cases ha.symm.trans her
  have hne : refundedTotal task.id
      { w with db, history := w.history ++ [.refunded copy.id amount] } =
      refundedTotal task.id w + amount := by
    simp [refundedTotal, refunds, TaskEvent.refund?, id_of_account hco]
  rw [hEq, hne, hn, he hc, hs, Int.zero_add]

theorem not_unfinished_of_final (h : copy.status.Final) : ¬copy.Unfinished := fun hc => hc.2 h

theorem sweepTask_paid (fault : Fault) (calls : BillingCalls) (mins now : Int)
    (hq : 0 < task.quota) (hf : w.tasks.find? task.id = some row) (hp : RowPaid task row w)
    (hcop : copy.account = task.account) (hr : row.Unfinished) (hl : isLegacy copy = false)
    (ha : RefundAccepted calls task w.db) (hco : RefundCovered task w.db) :
    ∃ row', (sweepTask fault calls mins now copy w).tasks.find? task.id = some row' ∧
      RowPaid task row' (sweepTask fault calls mins now copy w) := by
  have hk := id_of_account hcop
  unfold sweepTask
  rcases sweepWrite_cases fault mins now copy w.tasks with ⟨_, _, _, he⟩ | ⟨_, he⟩
  · have hc := charged_of_account hcop hq
    have ht := refund_whole (timedOut mins now copy)
      (w := { w with tasks := w.tasks.save (timedOut mins now copy) }) hq hcop ha
      hco (hp.unfinished hr)
    simp only [he, hl, hc, Bool.not_false, ne_eq, not_false_eq_true, decide_true,
      Bool.and_self, if_true]
    refine ⟨timedOut mins now copy, ?_, hcop, ?_, fun _ => ht⟩
    · rw [refundTaskQuota_tasks]
      exact Table.find?_save_of_key (r := timedOut mins now copy) hf hk
    · exact fun hu => absurd hu (not_unfinished_of_final (.inr rfl))
  · simp only [he, Bool.false_eq_true, if_false]
    exact ⟨row, hf, hp.account, hp.unfinished, hp.failure⟩

theorem updateVideoSingleTask_paid {env : VideoEnv} {fault : Fault} {calls : TaskSettleCalls}
    {taskId : String} {answer : VideoAnswer} (hq : 0 < task.quota)
    (hfin : w.tasks.find? task.id = some row) (hp : RowPaid task row w)
    (hco : copy.account = task.account) (hop : copy.Unfinished) (hro : row.Unfinished)
    (hacp : ∀ result, answer.taskResult = some result → result.status = .failure →
      RefundAccepted calls.billing task w.db ∧ RefundCovered task w.db) :
    ∃ row', (updateVideoSingleTask env fault calls taskId answer copy w).2.tasks.find? task.id =
        some row' ∧
      RowPaid task row' (updateVideoSingleTask env fault calls taskId answer copy w).2 ∧
      CopySound task row' (updateVideoSingleTask env fault calls taskId answer copy w).1 ∧
      (updateVideoSingleTask env fault calls taskId answer copy w).1.id = task.id := by
  unfold updateVideoSingleTask
  cases hr : readVideo env taskId answer copy with
  | stopped copy' e =>
    have hac := (readVideo_stopped hr).trans hco
    exact ⟨row, hfin, hp, fun _ => ⟨hac, hro⟩, id_of_account hac⟩
  | planned plan =>
    obtain ⟨result, hre, hpl⟩ := readVideo_planned hr
    have hac := hpl.account.trans hco
    have hk := id_of_account hac
    have hfl := hpl.flags (charged_of_account hco hq)
    have hw := writeVideo_effect fault copy plan w.tasks
    dsimp only
    generalize writeVideo fault copy plan w.tasks = written at hw
    cases hw with
    -- a lost or empty write leaves the row as the loop has read it
    | lost =>
      rw [billVideo_nothing calls _ rfl rfl]
      exact ⟨row, hfin, hp, fun _ => ⟨hac, hro⟩, hk⟩
    | kept hfi =>
      replace hfi : ¬plan.task.status.Final := fun hf => hop.2 (hfi hf ▸ hf)
      obtain ⟨_, hrf, hse⟩ := (hfl.resolve_left fun hf =>
        hfi (.inr hf.1)).resolve_left fun hsu => hfi (.inl hsu.1)
      rw [billVideo_nothing calls _ hrf hse]
      exact ⟨row, hfin, hp, fun _ => ⟨hac, hro⟩, hk⟩
    | saved old ho hs =>
      have hsa : (w.tasks.save plan.task).find? task.id = some plan.task :=
        Table.find?_save_of_key hfin hk
      rcases hfl with ⟨hf, hrf, hse⟩ | ⟨hsu, hrf, hse⟩ | ⟨hn, hrf, hse⟩
      · obtain ⟨ha, hc⟩ := hacp result hre (hpl.status.symm.trans hf)
        have hfi := not_unfinished_of_final (.inr hf)
        rw [billVideo_refund calls _ hrf hse]
        refine ⟨plan.task, ?_, ⟨hac, fun hu => absurd hu hfi, fun _ => ?_⟩,
          fun hu => absurd hu hfi, hk⟩
        · rw [refundTaskQuota_tasks]
          exact hsa
        · exact refund_whole plan.task (w := { w with tasks := w.tasks.save plan.task }) hq hac
            ha hc (hp.unfinished hro)
      · obtain ⟨quota, db, more, he, _⟩ := settle_cases calls plan.task plan.taskResult
          { w with tasks := w.tasks.save plan.task }
        have hfi := not_unfinished_of_final (.inl hsu)
        rw [billVideo_settle calls _ hrf hse, he]
        refine ⟨plan.task, hsa, ⟨hac, fun hu => absurd hu hfi, ?_⟩,
          fun hu => absurd hu (not_unfinished_of_final (.inl hsu)), hk⟩
        rw [hsu]
        nofun
      · rw [billVideo_nothing calls _ hrf hse]
        refine ⟨plan.task, hsa, ⟨hac, fun _ => hp.unfinished hro, ?_⟩, fun hu => ⟨hac, hu⟩, hk⟩
        exact fun hf => absurd (.inr hf) hn

theorem updateSunoTask_paid {calls : BillingCalls} {item : SunoDataResponse}
    (hq : 0 < task.quota) (hfi : w.tasks.find? task.id = some row) (hpa : RowPaid task row w)
    (hc : copy.account = task.account) (hr : row.Unfinished) (hac : sunoFails copy item = true →
      RefundAccepted calls task w.db ∧ RefundCovered task w.db) :
    ∃ row', (updateSunoTask none calls item copy w).2.tasks.find? task.id = some row' ∧
      RowPaid task row' (updateSunoTask none calls item copy w).2 ∧
      CopySound task row' (updateSunoTask none calls item copy w).1 ∧
      (updateSunoTask none calls item copy w).1.id = task.id := by
  have ha := (sunoSaved_account copy item).trans hc
  have hk := id_of_account ha
  unfold updateSunoTask
  split
  · cases hf : sunoFails copy item with
    | false =>
      have hs : (sunoSaved copy item).status ≠ .failure := by
        intro hfa
        rw [sunoSaved, hf] at hfa
        rw [sunoFails, decide_eq_false_iff_not, not_or] at hf
        exact hf.2 hfa
      refine ⟨sunoSaved copy item, Table.find?_save_of_key hfi hk, ⟨ha, ?_, ?_⟩,
        fun hu => ⟨ha, hu⟩, hk⟩
      · exact fun _ => hpa.unfinished hr
      · exact fun hfa => absurd hfa hs
    | true =>
      obtain ⟨hacc, hco⟩ := hac hf
      -- the progress is complete, so no later query gives the row out whatever its status
      have hd : ¬(sunoSaved copy item).Unfinished := by
        rintro ⟨hp, _⟩
        rw [sunoSaved, hf] at hp
        revert hp
        simp [sunoFailed]
      refine ⟨sunoSaved copy item, ?_, ⟨ha, ?_, fun _ => ?_⟩, fun hu => absurd hu hd, hk⟩
      · change ((refundTaskQuota calls (sunoFailed copy item) w).tasks.save _).find? _ = _
        rw [refundTaskQuota_tasks]
        exact Table.find?_save_of_key hfi hk
      · exact fun hu => absurd hu hd
      · exact refund_whole (sunoFailed copy item) hq hc hacc hco (hpa.unfinished hr)
  · exact ⟨row, hfi, hpa, fun _ => ⟨hc, hr⟩, id_of_account hc⟩

end

end DeepRouter.Tasks

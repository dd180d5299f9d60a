import DeepRouter.Tasks.PollingSpec

/-! # The quota column of a successful task -/

namespace DeepRouter.Tasks

open Store KeyedTable Billing Subscription MachineInt

def TaskEvent.delta (id : Int) : TaskEvent → Int
  | .adjusted task delta => if task = id then delta.toInt else 0
  | _ => 0

def appliedDelta (id : Int) (w : World) : Int := (w.history.map (TaskEvent.delta id)).sum

/-- The pre-consumed quota and every difference applied between two moments. -/
def charged (task : Task) (w w' : World) : Int :=
  task.quota.toInt + (appliedDelta task.id w' - appliedDelta task.id w)

def Debited (task : Task) (amount : Int) (db db' : Database) : Prop :=
  if taskIsSubscription task then
    db'.clamps = db.clamps → usedOf db' task.privateData.subscriptionId =
      usedOf db task.privateData.subscriptionId + .ofInt amount
  else (db.users task.userId).quota - (db'.users task.userId).quota = amount

theorem debited_zero (task : Task) (db : Database) : Debited task 0 db db := by
  unfold Debited
  split
  · intro _
    exact (add_zero _).symm
  · exact Int.sub_self _

theorem taskAdjustFunding_debited {calls : BillingCalls} {task : Task} {delta : Int64}
    {db db' : Database} (h : taskAdjustFunding calls task delta db = (.ok (), db')) :
    Debited task delta.toInt db db' := by
  unfold Debited
  unfold taskAdjustFunding at h
  split at h
  · rename_i hs
    rw [if_pos hs, Int64.ofInt_toInt]
    intro hc
    have hu := post_usedOf h hc task.privateData.subscriptionId
    rw [if_pos rfl] at hu
    exact hu
  · rename_i hs
    rw [if_neg hs]
    split at h
    · obtain ⟨_, rfl⟩ := updateQuota_ok h
      simp
    rename_i hd
    obtain ⟨hn, rfl⟩ := updateQuota_ok h
    -- the smallest number has no opposite, and its refund is refused
    have hne : (-delta).toInt = -delta.toInt := by
      have hl := delta.le_toInt
      rw [pos_iff] at hd
      rw [Int64.toInt_neg, Int.bmod_def] at hn ⊢
      split at hn
      · omega
      · omega
    simp [hne]

theorem debited_congr {task copy : Task} {am : Int} {db db' : Database}
    (ha : copy.account = task.account) (h : Debited copy am db db') : Debited task am db db' := by
  unfold Debited at h ⊢
  rw [taskIsSubscription_congr ha, userId_of_account ha, subscriptionId_of_account ha] at h
  exact h

section

variable (calls : TaskSettleCalls) (task : Task) (taskResult : TaskInfo) (w : World)

/-- The completion of the task is settled at `actualQuota`, which is not what it was charged. -/
def SettlesAt (db : Database) (actualQuota : Int64) : Prop :=
  settledQuota calls task taskResult db = some actualQuota ∧ 0 < actualQuota ∧
    actualQuota ≠ task.quota

def settlementFunding (db : Database) (actualQuota : Int64) : Except Err Unit :=
  (taskAdjustFunding calls.billing task (actualQuota - task.quota) db).1

theorem settle_charged :
    let w' := (settleTaskBillingOnComplete calls task taskResult w).2
    ((∀ actu, SettlesAt calls task taskResult w.db actu →
        ∃ e, settlementFunding calls task w.db actu = .error e) ∧
      w'.db = w.db ∧ appliedDelta task.id w' = appliedDelta task.id w) ∨
    ∃ actu, SettlesAt calls task taskResult w.db actu ∧
      settlementFunding calls task w.db actu = .ok () ∧
      appliedDelta task.id w' = appliedDelta task.id w + (actu - task.quota).toInt ∧
      Debited task (actu - task.quota).toInt w.db w'.db := by
  dsimp only
  rw [settleTaskBillingOnComplete_eq]
  cases hq : settledQuota calls task taskResult w.db with
  | none =>
    refine .inl ⟨?_, rfl, ?_⟩
    · rintro actu ⟨hso, _⟩
      rw [hq] at hso
      cases hso
    · simp [appliedDelta, TaskEvent.delta]
  | some actu =>
    dsimp only
    rcases recalculateTaskQuota_cases calls.billing task actu
      { w with history := w.history ++ [.settled task.id] } with
      ⟨hn, hEq⟩ | ⟨hp, hde, db, hf, hEq⟩
    · rw [hEq]
      refine .inl ⟨?_, rfl, ?_⟩
      · rintro _ ⟨hso, hp, hd⟩
        cases hq.symm.trans hso
        rcases hn with hl | hz | he
        · exact absurd hp (Int64.not_lt.mpr hl)
        · exact absurd (sub_eq_zero.mp hz) hd
        · exact he
      · simp [appliedDelta, TaskEvent.delta]
    · rw [hEq]
      have hd := taskAdjustFunding_debited hf
      refine .inr ⟨actu, ⟨hq, hp, fun hs => hde (sub_eq_zero.mpr hs)⟩, congrArg Prod.fst hf, ?_, ?_⟩
      · simp [appliedDelta, TaskEvent.delta]
      · exact taskAdjustTokenQuota_elim (P := Debited task _ w.db) hd fun _ _ => hd

end

section

variable {env : VideoEnv} {calls : TaskSettleCalls} {taskId : String} {answer : VideoAnswer}
  {task : Task} {w : World}

theorem updateVideoSingleTask_success {row : Task} (hfi : w.tasks.find? task.id = some task)
    (ht : ¬task.status.Final)
    (hro : (updateVideoSingleTask env none calls taskId answer task w).2.tasks.find? task.id =
      some row) (hsu : row.status = .success) :
    ∃ plan, readVideo env taskId answer task = .planned plan ∧ row = plan.task ∧
      plan.task.account = task.account ∧
      updateVideoSingleTask env none calls taskId answer task w =
        settleTaskBillingOnComplete calls plan.task plan.taskResult
          { w with tasks := w.tasks.save plan.task } := by
  have hst : w.tasks.find? task.id ≠ some row := by
    intro hs
    cases hfi.symm.trans hs
    exact ht (.inl hsu)
  unfold updateVideoSingleTask at hro ⊢
  cases hre : readVideo env taskId answer task with
  | stopped copy e =>
    rw [hre] at hro
    exact absurd hro hst
  | planned plan =>
    obtain ⟨result, _, hp⟩ := readVideo_planned hre
    have hk : plan.task.id = task.id := id_of_account hp.account
    have hw := writeVideo_effect none task plan w.tasks
    rw [hre] at hro
    dsimp only at hro ⊢
    rw [billVideo_tasks] at hro
    generalize writeVideo none task plan w.tasks = written at hw hro ⊢
    cases hw with
    | lost => exact absurd hro hst
    | kept hf => exact absurd hro hst
    | saved old ho hSt =>
      dsimp only at hro ⊢
      rw [Table.find?_save_of_key hfi hk] at hro
      cases hro
      have hr : result.status = .success := hp.status.symm.trans hsu
      have hse : plan.shouldSettle = true := hp.settle.mpr hr
      have hrf : plan.shouldRefund = false := by
        rw [← Bool.not_eq_true, hp.refund, hr]
        simp
      exact ⟨plan, rfl, rfl, hp.account, billVideo_settle calls _ hrf hse⟩

end

/-- With the adjustment accepted, the quota of the row is what the task was charged exactly when the
completion is not settled at another quota. -/
theorem stored_quota_charged_iff (env : VideoEnv) (calls : TaskSettleCalls) (taskId : String)
    (answer : VideoAnswer) (task row : Task) (w : World)
    (hFind : w.tasks.find? task.id = some task) (hTask : ¬task.status.Final)
    (hRow : (updateVideoSingleTask env none calls taskId answer task w).2.tasks.find? task.id =
      some row) (hSuccess : row.status = .success) :
    let w' := (updateVideoSingleTask env none calls taskId answer task w).2
    ∃ plan, readVideo env taskId answer task = .planned plan ∧
      Debited task (charged task w w' - task.quota.toInt) w.db w'.db ∧
      ((∀ actualQuota, SettlesAt calls plan.task plan.taskResult w.db actualQuota →
          settlementFunding calls plan.task w.db actualQuota = .ok ()) → (row.quota.toInt = charged
          task w w' ↔ ∀ actualQuota, ¬SettlesAt calls plan.task plan.taskResult w.db actualQuota)) ∧
      (∀ actualQuota e, SettlesAt calls plan.task plan.taskResult w.db actualQuota →
        settlementFunding calls plan.task w.db actualQuota = .error e →
        row.quota = task.quota ∧ charged task w w' = task.quota.toInt ∧ w'.db = w.db) := by
  obtain ⟨plan, hr, rfl, hac, he⟩ := updateVideoSingleTask_success hFind hTask hRow hSuccess
  have hq := quota_of_account hac
  have hk := id_of_account hac
  have hst : appliedDelta task.id { w with tasks := w.tasks.save plan.task } =
    appliedDelta task.id w := rfl
  have hse := settle_charged calls plan.task plan.taskResult
    { w with tasks := w.tasks.save plan.task }
  rw [← he, hk, hst] at hse
  generalize (updateVideoSingleTask env none calls taskId answer task w).2 = w' at hse
  dsimp only at hse ⊢
  refine ⟨plan, hr, ?_⟩
  rw [hq]
  unfold charged
  rcases hse with ⟨hf, hd, hs⟩ | ⟨actualQuota, ha, hfu, hm, hdeb⟩
  · rw [hs, hd, Int.sub_self, Int.add_zero]
    refine ⟨?_, ?_, ?_⟩
    · rw [Int.sub_self]
      exact debited_zero task w.db
    · intro hOk
      refine iff_of_true rfl ?_
      intro actualQuota ha
      obtain ⟨e, her⟩ := hf actualQuota ha
      rw [hOk actualQuota ha] at her
      cases her
    · intro _ _ _ _
      exact ⟨rfl, rfl, rfl⟩
  · have hde : (actualQuota - plan.task.quota).toInt ≠ 0 := by
      intro hz
      exact ha.2.2 (sub_eq_zero.mp (Int64.toInt_inj.mp hz))
    rw [hm]
    refine ⟨?_, ?_, ?_⟩
    · rw [show task.quota.toInt + (appliedDelta task.id w + (actualQuota - plan.task.quota).toInt -
        appliedDelta task.id w) - task.quota.toInt = (actualQuota - plan.task.quota).toInt by omega]
      exact debited_congr hac hdeb
    · intro _
      refine iff_of_false ?_ (fun hn => hn actualQuota ha)
      omega
    · rintro other e ho her
      cases ha.1.symm.trans ho.1
      rw [hfu] at her
      cases her

theorem stored_quota_unsettled :
    let w' := (updateVideoSingleTask videoEnv none noSettlement "up_1"
      (videoAnswer { status := .success }) videoTask videoWorld).2
    ∃ row, w'.tasks.find? 1 = some row ∧ row.quota.toInt = charged videoTask videoWorld w' := by
  obtain ⟨row, hr, hs⟩ : ∃ row, (updateVideoSingleTask videoEnv none noSettlement "up_1"
      (videoAnswer { status := .success }) videoTask videoWorld).2.tasks.find? 1 = some row ∧
      row.status = .success := ⟨_, rfl, rfl⟩
  obtain ⟨plan, _, _, hi, _⟩ := stored_quota_charged_iff videoEnv noSettlement "up_1"
    (videoAnswer { status := .success }) videoTask row videoWorld rfl (by decide) hr hs
  have hn : ∀ actualQuota,
      ¬SettlesAt noSettlement plan.task plan.taskResult videoWorld.db actualQuota := by
    simp [SettlesAt, settledQuota, quotaByTokens, noSettlement]
  exact ⟨row, hr, (hi fun actualQuota ha => absurd ha (hn actualQuota)).mpr hn⟩

theorem stored_quota_stale :
    let w' := (updateVideoSingleTask videoEnv none
      { noSettlement with adjustBillingOnComplete := fun _ _ => 250 } "up_1"
      (videoAnswer { status := .success }) videoTask videoWorld).2
    (w'.tasks.find? 1).map (fun row => (row.status, row.quota)) = some (.success, 100) ∧
      charged videoTask videoWorld w' = 250 ∧
      (w'.db.users 7).quota = (videoWorld.db.users 7).quota - 150 := by
  decide

end DeepRouter.Tasks

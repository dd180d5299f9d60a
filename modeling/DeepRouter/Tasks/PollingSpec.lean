import DeepRouter.Tasks.BillingSpec
import DeepRouter.Tasks.Polling

/-! # What a poll can do to its copy and to the row -/

namespace DeepRouter.Tasks

open Store KeyedTable Billing Subscription MachineInt

structure TaskAccount where
  id : Int
  quota : Int64
  userId : Int
  billingSource : BillingSource
  subscriptionId : Int

def Task.account (task : Task) : TaskAccount where
  id := task.id
  quota := task.quota
  userId := task.userId
  billingSource := task.privateData.billingSource
  subscriptionId := task.privateData.subscriptionId

section

variable {task copy : Task}

section

variable (h : copy.account = task.account)

include h

theorem id_of_account : copy.id = task.id :=
  congrArg TaskAccount.id h

theorem quota_of_account : copy.quota = task.quota :=
  congrArg TaskAccount.quota h

theorem charged_of_account (hq : 0 < task.quota) : copy.quota ≠ 0 := by
  rw [quota_of_account h]
  exact ne_zero_of_pos hq

theorem userId_of_account : copy.userId = task.userId :=
  congrArg TaskAccount.userId h

theorem subscriptionId_of_account :
    copy.privateData.subscriptionId = task.privateData.subscriptionId :=
  congrArg TaskAccount.subscriptionId h

theorem taskIsSubscription_congr : taskIsSubscription copy = taskIsSubscription task := by
  have hs : copy.privateData.billingSource = task.privateData.billingSource :=
    congrArg TaskAccount.billingSource h
  unfold taskIsSubscription
  rw [hs, subscriptionId_of_account h]

theorem taskAdjustFunding_congr (calls : BillingCalls) (delta : Int64) (db : Database) :
    taskAdjustFunding calls copy delta db = taskAdjustFunding calls task delta db := by
  unfold taskAdjustFunding
  rw [taskIsSubscription_congr h, subscriptionId_of_account h, userId_of_account h]

end

theorem sunoFailed_account (task : Task) (item : SunoDataResponse) :
    (sunoFailed task item).account = task.account := rfl

theorem sunoSaved_account (task : Task) (item : SunoDataResponse) :
    (sunoSaved task item).account = task.account := by
  unfold sunoSaved
  split <;> rfl

end

def VideoAnswer.taskResult : VideoAnswer → Option TaskInfo
  | .fetchFailed _ => none
  | .readFailed _ => none
  | .body content =>
    match content.newApi.elim content.parsed fun t => .ok { t with totalTokens := 0 } with
    | .error _ => none
    | .ok info => content.taskResult info

structure PlanOf (task : Task) (result : TaskInfo) (plan : VideoPlan) : Prop where
  account : plan.task.account = task.account
  status : plan.task.status = result.status
  refund : plan.shouldRefund = true ↔ result.status = .failure ∧ task.quota ≠ 0
  settle : plan.shouldSettle = true ↔ result.status = .success
  progress : ¬result.status.Final → result.progress ≠ "100%" → plan.task.progress ≠ "100%"
  taskResult : result.status = .success → plan.taskResult = result

section

variable {env : VideoEnv} {taskId : String} {answer : VideoAnswer} {task : Task} {plan : VideoPlan}
  {result : TaskInfo}

theorem withProgress_planOf (h : PlanOf task result plan)
    (hr : ¬result.status.Final → plan.taskResult = result) :
    PlanOf task result plan.withProgress := by
  unfold VideoPlan.withProgress
  split
  · refine ⟨h.account, h.status, h.refund, h.settle, ?_, h.taskResult⟩
    intro hf hp
    rw [hr hf]
    exact hp
  · exact h

theorem planOf_running (ha : plan.task.account = task.account)
    (hSt : plan.task.status = result.status) (hn : ¬result.status.Final)
    (hrf : plan.shouldRefund = false) (hs : plan.shouldSettle = false)
    (hp : plan.task.progress ≠ "100%") (hr : plan.taskResult = result) :
    PlanOf task result plan.withProgress := by
  refine withProgress_planOf ⟨ha, hSt, ?_, ?_, fun _ _ => hp, fun _ => hr⟩ fun _ => hr
  · rw [hrf]
    exact iff_of_false Bool.false_ne_true fun hf => hn (.inr hf.1)
  · rw [hs]
    exact iff_of_false Bool.false_ne_true fun hsu => hn (.inl hsu)

theorem statusPlan_planOf (h : statusPlan env task result = some plan) :
    PlanOf task result plan.withProgress := by
  unfold statusPlan at h
  dsimp only at h
  split at h
  case h_1 hs | h_2 hs | h_3 hs =>
    cases h
    refine planOf_running rfl rfl ?_ rfl rfl (by simp) rfl
    rw [hs]
    decide
  · rename_i hs
    have hf : result.status.Final := .inl hs
    cases h
    refine withProgress_planOf ⟨rfl, rfl, ?_, ?_, ?_, fun _ => rfl⟩ (fun _ => rfl)
    · simp [hs]
    · simp [hs]
    · exact fun hn => absurd hf hn
  · rename_i hs
    have hf : result.status.Final := .inr hs
    cases h
    refine withProgress_planOf ⟨rfl, rfl, ?_, ?_, ?_, ?_⟩ (fun hn => absurd hf hn)
    · simp [hs]
    · simp [hs]
    · exact fun hn => absurd hf hn
    · simp [hs]
  · cases h

theorem PlanOf.flags (h : PlanOf task result plan) (hq : task.quota ≠ 0) :
    (plan.task.status = .failure ∧ plan.shouldRefund = true ∧ plan.shouldSettle = false) ∨
      (plan.task.status = .success ∧ plan.shouldRefund = false ∧ plan.shouldSettle = true) ∨
      (¬plan.task.status.Final ∧ plan.shouldRefund = false ∧ plan.shouldSettle = false) := by
  rw [← Bool.not_eq_true plan.shouldRefund, ← Bool.not_eq_true plan.shouldSettle, h.refund, h.settle,
    h.status]
  by_cases hf : result.status = .failure
  · left
    simp [hf, hq]
  right
  by_cases hs : result.status = .success
  · left
    simp [hs]
  right
  refine ⟨?_, fun hr => hf hr.1, hs⟩
  rintro (hfi | hfi)
  · exact hs hfi
  · exact hf hfi

theorem readVideo_planned (h : readVideo env taskId answer task = .planned plan) :
    ∃ result, answer.taskResult = some result ∧ PlanOf task result plan := by
  unfold readVideo at h
  split at h
  · cases h
  · cases h
  rename_i body
  split at h
  · cases h
  rename_i info hi
  dsimp only at h
  split at h
  · cases h
  rename_i result hr
  split at h
  · cases h
  rename_i made hm
  cases h
  refine ⟨result, ?_, ?_⟩
  · rw [VideoAnswer.taskResult, hi]
    exact hr
  · obtain ⟨ha, hSt, hrf, hs, hp, hk⟩ := statusPlan_planOf hm
    exact ⟨ha, hSt, hrf, hs, hp, hk⟩

theorem readVideo_stopped {task' : Task} {e : Option Err}
    (h : readVideo env taskId answer task = .stopped task' e) : task'.account = task.account := by
  unfold readVideo at h
  split at h
  · cases h
    rfl
  · cases h
    rfl
  split at h
  · cases h
    rfl
  dsimp only at h
  split at h
  · cases h
    rfl
  split at h
  · cases h
    rfl
  · cases h

end

theorem billVideo_tasks (calls : TaskSettleCalls) (plan : VideoPlan) (w : World) :
    (billVideo calls plan w).2.tasks = w.tasks := by
  unfold billVideo
  cases plan.shouldSettle with
  | false =>
    cases plan.shouldRefund with
    | false => rfl
    | true => exact refundTaskQuota_tasks _ _ _
  | true =>
    have hs := settle_tasks calls plan.task plan.taskResult w
    cases plan.shouldRefund with
    | false => exact hs
    | true => exact (refundTaskQuota_tasks _ _ _).trans hs

section

variable {plan : VideoPlan}

theorem billVideo_refund (calls : TaskSettleCalls) (w : World) (hr : plan.shouldRefund = true)
    (hs : plan.shouldSettle = false) :
    billVideo calls plan w = (plan.task, refundTaskQuota calls.billing plan.task w) := by
  rw [billVideo, hr, hs]
  rfl

theorem billVideo_settle (calls : TaskSettleCalls) (w : World) (hr : plan.shouldRefund = false)
    (hs : plan.shouldSettle = true) :
    billVideo calls plan w = settleTaskBillingOnComplete calls plan.task plan.taskResult w := by
  rw [billVideo, hr, hs]
  rfl

theorem billVideo_nothing (calls : TaskSettleCalls) (w : World) (hr : plan.shouldRefund = false)
    (hs : plan.shouldSettle = false) : billVideo calls plan w = (plan.task, w) := by
  rw [billVideo, hr, hs]
  rfl

end

section

variable {fault : Fault} {task : Task} {fromStatus : TaskStatus} {tasks : TaskTable}

theorem updateWithStatus_cases (fault : Fault) (task : Task) (fromStatus : TaskStatus)
    (tasks : TaskTable) :
    (∃ row, tasks.find? task.id = some row ∧ row.status = fromStatus ∧ fault = none ∧
      updateWithStatus fault task fromStatus tasks = (.ok true, tasks.save task)) ∨
    ((∀ row, tasks.find? task.id = some row → row.status = fromStatus → fault ≠ none) ∧
      ∃ r, updateWithStatus fault task fromStatus tasks = (r, tasks) ∧ r ≠ .ok true) := by
  unfold updateWithStatus
  cases fault with
  | some e => exact .inr ⟨fun _ _ _ => by simp, .error e, rfl, by simp⟩
  | none =>
    cases hfi : tasks.find? task.id with
    | none => exact .inr ⟨by simp, .ok false, rfl, by simp⟩
    | some row =>
      dsimp only
      by_cases hSt : row.status = fromStatus
      · rw [if_pos hSt]
        exact .inl ⟨row, rfl, hSt, rfl, rfl⟩
      rw [if_neg hSt]
      refine .inr ⟨?_, .ok false, rfl, by simp⟩
      rintro found hf hs
      cases hf
      exact absurd hs hSt

theorem sweepWrite_cases (fault : Fault) (mins now : Int) (task : Task) (tasks : TaskTable) :
    (∃ row, tasks.find? task.id = some row ∧ row.status = task.status ∧
      sweepWrite fault mins now task tasks =
        (!isLegacy task && decide (task.quota ≠ 0), tasks.save (timedOut mins now task))) ∨
    ((∀ row, tasks.find? task.id = some row → row.status = task.status → fault ≠ none) ∧
      sweepWrite fault mins now task tasks = (false, tasks)) := by
  unfold sweepWrite
  rcases updateWithStatus_cases fault (timedOut mins now task) task.status tasks with
    ⟨row, hf, hs, _, he⟩ | ⟨hl, r, he, hn⟩
  · rw [he]
    exact .inl ⟨row, hf, hs, rfl⟩
  rw [he]
  refine .inr ⟨hl, ?_⟩
  split
  · rename_i hw
    cases hw
    exact absurd rfl hn
  · rename_i hw
    cases hw
    rfl

/-- The copy is saved over a row of the same status, the race is lost, or there is nothing to write.
-/
inductive VideoWrite (snap : Task) (plan : VideoPlan) (tasks : TaskTable) :
    VideoPlan × TaskTable → Prop where
  | saved (row : Task) (hf : tasks.find? plan.task.id = some row)
      (hs : row.status = snap.status) : VideoWrite snap plan tasks (plan, tasks.save plan.task)
  | lost :
      VideoWrite snap plan tasks ({ plan with shouldRefund := false, shouldSettle := false }, tasks)
  | kept (hfi : plan.task.status.Final → snap.status = plan.task.status) :
      VideoWrite snap plan tasks (plan, tasks)

theorem writeVideo_effect (fault : Fault) (snap : Task) (plan : VideoPlan) (tasks : TaskTable) :
    VideoWrite snap plan tasks (writeVideo fault snap plan tasks) := by
  unfold writeVideo
  rcases updateWithStatus_cases fault plan.task snap.status tasks with
    ⟨row, hf, hs, _, he⟩ | ⟨_, r, he, hn⟩
  · rw [he]
    split
    · exact .saved row hf hs
    rename_i ho
    split
    · exact .saved row hf hs
    · exact .kept fun hfi => by_contra fun hn => ho ⟨hfi, hn⟩
  · rw [he]
    split
    · split
      · rename_i hw
        cases hw
        exact absurd rfl hn
      · rename_i hw
        cases hw
        exact .lost
    · rename_i ho
      have hk : VideoWrite snap plan tasks (plan, tasks) :=
        .kept fun hfi => by_contra fun hn => ho ⟨hfi, hn⟩
      split
      · exact hk
      · exact hk

theorem writeVideo_kept (fault : Fault) (snap : Task) (plan : VideoPlan) (tasks : TaskTable) :
    (writeVideo fault snap plan tasks).1.task = plan.task ∧
      ((writeVideo fault snap plan tasks).2 = tasks ∨
        (writeVideo fault snap plan tasks).2 = tasks.save plan.task) := by
  have hw := writeVideo_effect fault snap plan tasks
  generalize writeVideo fault snap plan tasks = written at hw
  cases hw with
  | saved row hf hs => exact ⟨rfl, .inr rfl⟩
  | lost => exact ⟨rfl, .inl rfl⟩
  | kept hfi => exact ⟨rfl, .inl rfl⟩

end

theorem updateVideoSingleTask_tasks (env : VideoEnv) (fault : Fault) (calls : TaskSettleCalls)
    (taskId : String) (answer : VideoAnswer) (task : Task) (w : World) :
    (updateVideoSingleTask env fault calls taskId answer task w).2.tasks = w.tasks ∨
    ∃ result plan, answer.taskResult = some result ∧ PlanOf task result plan ∧
      (updateVideoSingleTask env fault calls taskId answer task w).2.tasks =
        w.tasks.save plan.task := by
  unfold updateVideoSingleTask
  cases hr : readVideo env taskId answer task with
  | stopped copy e => exact .inl rfl
  | planned plan =>
    obtain ⟨result, hre, hp⟩ := readVideo_planned hr
    have hw := writeVideo_effect fault task plan w.tasks
    dsimp only
    rw [billVideo_tasks]
    generalize writeVideo fault task plan w.tasks = written at hw
    cases hw with
    | saved row hf hs => exact .inr ⟨result, plan, hre, hp, rfl⟩
    | lost => exact .inl rfl
    | kept hfi => exact .inl rfl

theorem updateSunoTask_tasks (fault : Fault) (calls : BillingCalls) (item : SunoDataResponse)
    (task : Task) (w : World) :
    (updateSunoTask fault calls item task w).2.tasks = w.tasks ∨
      (updateSunoTask fault calls item task w).2.tasks = w.tasks.save (sunoSaved task item) := by
  have hr : (if sunoFails task item = true then refundTaskQuota calls (sunoFailed task item) w
      else w).tasks = w.tasks := by
    split
    · exact refundTaskQuota_tasks _ _ _
    · rfl
  unfold updateSunoTask
  split
  · dsimp only
    rw [hr]
    cases fault with
    | none => exact .inr rfl
    | some e => exact .inl rfl
  · exact .inl rfl

/-! ## A task to run the polls on -/

def videoTask : Task :=
  { id := 1, taskID := "task_1", platform := .other "kling", userId := 7, group := "default"
    channelId := 3, quota := 100, status := .notStart, failReason := "", submitTime := 1772000000
    startTime := 0, finishTime := 0, progress := "0%", originModelName := "kling-v2"
    privateData := ⟨"up_1", "", .wallet, 0, 0, none⟩, data := "" }

def videoWorld : World := ⟨.initial, ⟨[videoTask], List.nodup_singleton _⟩, []⟩

def noSettlement : TaskSettleCalls :=
  { ratios := ⟨fun _ => none, fun _ => 1, fun _ _ => none, fun _ => 0⟩
    adjustBillingOnComplete := fun _ _ => 0 }

def videoEnv : VideoEnv := ⟨1772000100, fun id => "/v1/videos/" ++ id ++ "/content"⟩

def videoAnswer (info : TaskInfo) : VideoAnswer := .body { parsed := .ok info, redacted := "data" }

end DeepRouter.Tasks

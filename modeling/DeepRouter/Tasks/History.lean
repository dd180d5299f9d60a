import DeepRouter.Tasks.PollingSpec

/-! # The events of one task -/

namespace DeepRouter.Tasks

open Store KeyedTable Billing List

def TaskEvent.id : TaskEvent → Int
  | .refunded id _ => id
  | .settled id => id
  | .adjusted id _ => id

def TaskEvent.refund? (id : Int) : TaskEvent → Option Int
  | .refunded task amount => if task = id then some amount else none
  | _ => none

def refunds (id : Int) (w : World) : List Int := w.history.filterMap (TaskEvent.refund? id)

structure SameEvents (id : Int) (w w' : World) : Prop where
  refunds : refunds id w' = refunds id w
  settled : .settled id ∈ w'.history ↔ .settled id ∈ w.history

theorem sameEvents_append {id : Int} {w w' : World} {more : List TaskEvent}
    (hh : w'.history = w.history ++ more) (hm : ∀ e ∈ more, e.id ≠ id) : SameEvents id w w' := by
  constructor
  · unfold refunds
    rw [hh, filterMap_append]
    have hn : more.filterMap (TaskEvent.refund? id) = [] := by
      rw [filterMap_eq_nil_iff]
      intro e he
      have hi := hm e he
      cases e with
      | refunded task amount => exact if_neg hi
      | settled task => rfl
      | adjusted task delta => rfl
    rw [hn, append_nil]
  · rw [hh, mem_append]
    constructor
    · rintro (ho | hne)
      · exact ho
      · exact absurd rfl (hm _ hne)
    · exact .inl

theorem refundTaskQuota_history (calls : BillingCalls) (task : Task) (w : World) :
    ∃ more, (refundTaskQuota calls task w).history = w.history ++ more ∧
      ∀ e ∈ more, e.id = task.id := by
  have hn : ∃ more, w.history = w.history ++ more ∧ ∀ e ∈ more, e.id = task.id :=
    ⟨[], (append_nil _).symm, by simp⟩
  unfold refundTaskQuota
  split
  · exact hn
  · split
    · exact hn
    · exact ⟨_, rfl, by simp [TaskEvent.id]⟩

theorem settle_refunds (calls : TaskSettleCalls) (task : Task) (taskResult : TaskInfo) (w : World)
    (id : Int) : refunds id (settleTaskBillingOnComplete calls task taskResult w).2 = refunds id w := by
  obtain ⟨quota, db, more, he, hm⟩ := settle_cases calls task taskResult w
  rw [he]
  rcases hm with rfl | ⟨delta, rfl⟩
  · simp [refunds, TaskEvent.refund?]
  · simp [refunds, TaskEvent.refund?]

theorem billVideo_history (calls : TaskSettleCalls) (plan : VideoPlan) (w : World) :
    (billVideo calls plan w).1.id = plan.task.id ∧
    ∃ more, (billVideo calls plan w).2.history = w.history ++ more ∧
      ∀ e ∈ more, e.id = plan.task.id := by
  have hRfd : ∀ (copy : Task) (w : World), copy.id = plan.task.id →
      ∃ more, (if plan.shouldRefund then refundTaskQuota calls.billing copy w else w).history =
        w.history ++ more ∧ ∀ e ∈ more, e.id = plan.task.id := by
    intro copy w hc
    split
    · obtain ⟨more, hm, hi⟩ := refundTaskQuota_history calls.billing copy w
      exact ⟨more, hm, fun e he => (hi e he).trans hc⟩
    · exact ⟨[], (append_nil _).symm, by simp⟩
  unfold billVideo
  cases plan.shouldSettle with
  | false => exact ⟨rfl, hRfd plan.task w rfl⟩
  | true =>
    obtain ⟨quota, db, more, hEq, hm⟩ := settle_cases calls plan.task plan.taskResult w
    rw [if_pos rfl, hEq]
    refine ⟨rfl, ?_⟩
    obtain ⟨rest, hr, hi⟩ := hRfd { plan.task with quota }
      { w with db, history := w.history ++ .settled plan.task.id :: more } rfl
    refine ⟨.settled plan.task.id :: more ++ rest, ?_, ?_⟩
    · rw [hr, append_assoc]
    intro e he
    rcases mem_append.mp he with hs | hrf
    · rcases mem_cons.mp hs with rfl | ha
      · rfl
      rcases hm with rfl | ⟨delta, rfl⟩
      · cases ha
      · rw [mem_singleton.mp ha]
        rfl
    · exact hi e hrf

/-! ## Other tasks -/

structure Framed (id : Int) (w w' : World) : Prop where
  row : w'.tasks.find? id = w.tasks.find? id
  events : SameEvents id w w'

section

variable {id : Int} {task : Task}

theorem Framed.trans {w w' w'' : World} (h : Framed id w w') (h' : Framed id w' w'') :
    Framed id w w'' :=
  ⟨h'.row.trans h.row, h'.events.refunds.trans h.events.refunds,
    h'.events.settled.trans h.events.settled⟩

theorem framed_tasks {w : World} {tasks : TaskTable} (h : tasks.find? id = w.tasks.find? id) :
    Framed id w { w with tasks } :=
  ⟨h, rfl, Iff.rfl⟩

theorem Framed.refl (id : Int) (w : World) : Framed id w w := framed_tasks rfl

theorem refundTaskQuota_framed (calls : BillingCalls) (task : Task) (w : World) (ht : task.id ≠ id) :
    Framed id w (refundTaskQuota calls task w) := by
  obtain ⟨more, hm, hi⟩ := refundTaskQuota_history calls task w
  refine ⟨by rw [refundTaskQuota_tasks], sameEvents_append hm ?_⟩
  intro e he
  rw [hi e he]
  exact ht

theorem sweepTask_framed (fault : Fault) (calls : BillingCalls) (mins now : Int) (w : World)
    (ht : task.id ≠ id) : Framed id w (sweepTask fault calls mins now task w) := by
  unfold sweepTask
  have hw : (sweepWrite fault mins now task w.tasks).2.find? id = w.tasks.find? id := by
    rcases sweepWrite_cases fault mins now task w.tasks with ⟨_, _, _, he⟩ | ⟨_, he⟩
    · rw [he]
      exact Table.find?_save_of_ne ht
    · rw [he]
  dsimp only
  split
  · exact (framed_tasks hw).trans (refundTaskQuota_framed calls (timedOut mins now task) _ ht)
  · exact framed_tasks hw

theorem billVideo_framed (calls : TaskSettleCalls) {plan : VideoPlan} (w : World)
    (hp : plan.task.id ≠ id) :
    (billVideo calls plan w).1.id = plan.task.id ∧ Framed id w (billVideo calls plan w).2 := by
  obtain ⟨hId, more, hm, hi⟩ := billVideo_history calls plan w
  refine ⟨hId, by rw [billVideo_tasks], sameEvents_append hm ?_⟩
  intro e he
  rw [hi e he]
  exact hp

theorem updateVideoSingleTask_framed (env : VideoEnv) (fault : Fault) (calls : TaskSettleCalls)
    (taskId : String) (answer : VideoAnswer) (w : World) (hta : task.id ≠ id) :
    (updateVideoSingleTask env fault calls taskId answer task w).1.id = task.id ∧
      Framed id w (updateVideoSingleTask env fault calls taskId answer task w).2 := by
  unfold updateVideoSingleTask
  cases hr : readVideo env taskId answer task with
  | stopped copy e =>
    exact ⟨id_of_account (readVideo_stopped hr), framed_tasks rfl⟩
  | planned plan =>
    obtain ⟨_, _, hp⟩ := readVideo_planned hr
    obtain ⟨hke, ht⟩ := writeVideo_kept fault task plan w.tasks
    have hk : plan.task.id = task.id := id_of_account hp.account
    have ho : plan.task.id ≠ id := by
      rw [hk]
      exact hta
    dsimp only
    generalize writeVideo fault task plan w.tasks = written at hke ht
    rw [← hke] at ho
    obtain ⟨hi, hb⟩ := billVideo_framed calls { w with tasks := written.2 } ho
    rw [hke] at hi ho
    refine ⟨hi.trans hk, (framed_tasks ?_).trans hb⟩
    rcases ht with he | he
    · rw [he]
    · rw [he]
      exact Table.find?_save_of_ne ho

theorem updateSunoTask_framed (fault : Fault) (calls : BillingCalls) (item : SunoDataResponse)
    (w : World) (ht : task.id ≠ id) :
    (updateSunoTask fault calls item task w).1.id = task.id ∧
      Framed id w (updateSunoTask fault calls item task w).2 := by
  have hs : (sunoSaved task item).id = task.id := id_of_account (sunoSaved_account task item)
  have hr : Framed id w (if sunoFails task item = true then
      refundTaskQuota calls (sunoFailed task item) w else w) := by
    split
    · exact refundTaskQuota_framed calls (sunoFailed task item) w ht
    · exact framed_tasks rfl
  unfold updateSunoTask
  split
  · refine ⟨hs, hr.trans (framed_tasks ?_)⟩
    cases fault with
    | none => exact Table.find?_save_of_ne (by rw [hs]; exact ht)
    | some e => rfl
  · exact ⟨rfl, framed_tasks rfl⟩

end

end DeepRouter.Tasks

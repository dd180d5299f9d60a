import DeepRouter.Tasks.PollingSpec

/-! # A task that is not finished stays selected -/

namespace DeepRouter.Tasks

open Store KeyedTable Runs

inductive PollResult where
  | video (env : VideoEnv) (fault : Fault) (calls : TaskSettleCalls) (answer : VideoAnswer)
  | suno (fault : Fault) (calls : BillingCalls) (item : SunoDataResponse)

def pollTask (id : Int) (w : World) (poll : PollResult) : World :=
  match w.tasks.find? id with
  | none => w
  | some task =>
    if task.Unfinished then
      match poll with
      | .video env fault calls answer =>
        (updateVideoSingleTask env fault calls task.getUpstreamTaskID answer task w).2
      | .suno fault calls item => (updateSunoTask fault calls item task w).2
    else w

/-- The answer completes the progress only with a final status. -/
def PollResult.KeepsProgress : PollResult → Prop
  | .video _ _ _ answer => ∀ result, answer.taskResult = some result → ¬result.status.Final →
    result.progress ≠ "100%"
  | .suno _ _ item => item.failReason ≠ "" → item.status.Final

/-- Finished, or found by both queries. -/
def Task.Tracked (task : Task) : Prop := task.status.Final ∨ task.Unfinished

section

variable {task : Task}

theorem planOf_tracked {result : TaskInfo} {plan : VideoPlan} (hpl : PlanOf task result plan)
    (hp : ¬result.status.Final → result.progress ≠ "100%") : plan.task.Tracked := by
  by_cases hf : result.status.Final
  · left
    rw [hpl.status]
    exact hf
  right
  refine ⟨hpl.progress hf (hp hf), ?_⟩
  rw [hpl.status]
  exact hf

theorem sunoSaved_status (task : Task) (item : SunoDataResponse) :
    (sunoSaved task item).status = if item.status ≠ .unset then item.status else task.status := by
  unfold sunoSaved
  split <;> rfl

theorem sunoSaved_tracked {item : SunoDataResponse} (ht : task.Unfinished)
    (hk : item.failReason ≠ "" → item.status.Final) : (sunoSaved task item).Tracked := by
  by_cases hfi : (sunoSaved task item).status.Final
  · exact .inl hfi
  have hs := sunoSaved_status task item
  have hi : ¬item.status.Final := by
    intro hi
    rw [hs, if_pos (by rintro hu; rw [hu] at hi; revert hi; decide)] at hfi
    exact hfi hi
  have hf : sunoFails task item = false := by
    unfold sunoFails
    rw [decide_eq_false_iff_not]
    rintro (hr | hfa)
    · exact hi (hk hr)
    · rw [hs] at hfi
      exact hfi (.inr hfa)
  refine .inr ⟨?_, hfi⟩
  unfold sunoSaved
  rw [hf]
  dsimp only
  rw [if_neg (fun hsu => hi (.inl hsu))]
  exact ht.1

end

def RowTracked (id : Int) (tasks : TaskTable) : Prop :=
  ∃ row, tasks.find? id = some row ∧ row.Tracked

theorem rowTracked_save {id : Int} {tasks : TaskTable} {row copy : Task}
    (hf : tasks.find? id = some row) (ha : copy.account = row.account)
    (hc : copy.Tracked) : RowTracked id (tasks.save copy) := by
  have hk := (id_of_account ha).trans (Table.key_of_find? hf)
  exact ⟨copy, Table.find?_save_of_key hf hk, hc⟩

theorem pollTask_tracked (id : Int) (w : World) (poll : PollResult)
    (hr : RowTracked id w.tasks) (hk : poll.KeepsProgress) :
    RowTracked id (pollTask id w poll).tasks := by
  obtain ⟨row, hf, ht⟩ := hr
  unfold pollTask
  rw [hf]
  dsimp only
  split
  · rename_i hu
    cases poll with
    | video env fault calls answer =>
      dsimp only
      rcases updateVideoSingleTask_tasks env fault calls row.getUpstreamTaskID answer row w with
        he | ⟨result, plan, hre, hp, he⟩
      · rw [he]
        exact ⟨row, hf, ht⟩
      · rw [he]
        exact rowTracked_save hf hp.account (planOf_tracked hp (hk result hre))
    | suno fault calls item =>
      dsimp only
      rcases updateSunoTask_tasks fault calls item row w with he | he
      · rw [he]
        exact ⟨row, hf, ht⟩
      · rw [he]
        exact rowTracked_save hf (sunoSaved_account row item) (sunoSaved_tracked hu hk)
  · exact ⟨row, hf, ht⟩

/-- As long as the task is not finished, both queries of the loop find it. -/
theorem unfinished_task_selected (w : World) (task : Task)
    (hFind : w.tasks.find? task.id = some task) (hFresh : task.Fresh) (polls : List PollResult)
    (hKeeps : ∀ poll ∈ polls, poll.KeepsProgress) :
    ∃ row, (run (pollTask task.id) w polls).tasks.find? task.id = some row ∧
      (¬row.status.Final → ∀ limit, (run (pollTask task.id) w polls).tasks.rows.length ≤ limit →
        row ∈ getAllUnFinishSyncTasks none limit (run (pollTask task.id) w polls).tasks ∧
        ∀ cutoff, row.submitTime < cutoff →
          row ∈ getTimedOutUnfinishedTasks none cutoff limit (run (pollTask task.id) w polls).tasks) := by
  have hs : RowTracked task.id w.tasks := by
    refine ⟨task, hFind, .inr ?_⟩
    rw [Task.Unfinished, hFresh.1, hFresh.2]
    decide
  obtain ⟨row, hr, ht⟩ := run_invariant (I := fun w : World => RowTracked task.id w.tasks)
    (fun w poll hr hp => pollTask_tracked task.id w poll hr hp) hs polls
    (along_of_forall_mem w hKeeps)
  refine ⟨row, hr, ?_⟩
  intro hf limit hl
  have hu := ht.resolve_left hf
  have hm := Table.mem_of_find? hr
  refine ⟨(mem_getAllUnFinishSyncTasks_iff hl).mpr ⟨hm, hu⟩, ?_⟩
  intro cutoff ho
  exact (mem_getTimedOutUnfinishedTasks_iff hl).mpr ⟨hm, hu, ho⟩

def pollVideo (status : TaskStatus) (progress : String) : PollResult :=
  .video videoEnv none noSettlement (videoAnswer { status, progress })

theorem unfinished_task_selected_once :
    ∃ row, (run (pollTask 1) videoWorld [pollVideo .inProgress "45%"]).tasks.find? 1 = some row ∧
      (¬row.status.Final → ∀ limit,
        (run (pollTask 1) videoWorld [pollVideo .inProgress "45%"]).tasks.rows.length ≤ limit →
        row ∈ getAllUnFinishSyncTasks none limit
          (run (pollTask 1) videoWorld [pollVideo .inProgress "45%"]).tasks ∧
        ∀ cutoff, row.submitTime < cutoff → row ∈ getTimedOutUnfinishedTasks none cutoff limit
          (run (pollTask 1) videoWorld [pollVideo .inProgress "45%"]).tasks) := by
  refine unfinished_task_selected videoWorld videoTask (by decide) ⟨rfl, rfl⟩ _ ?_
  intro poll hp
  rw [List.mem_singleton.mp hp]
  intro result hr _
  cases hr
  decide

theorem unfinished_task_stranded :
    let final := (run (pollTask 1) videoWorld [pollVideo .inProgress "100%"]).tasks
    (final.find? 1).map Task.status = some .inProgress ∧
      getAllUnFinishSyncTasks none 1000 final = [] ∧
      getTimedOutUnfinishedTasks none 1773000000 100 final = [] := by
  decide +kernel

end DeepRouter.Tasks

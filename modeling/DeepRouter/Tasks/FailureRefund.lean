import DeepRouter.Tasks.PaidFailure
import DeepRouter.Tasks.PollingLoop

/-! # A failed task has its quota back -/

namespace DeepRouter.Tasks

open Store KeyedTable Billing Runs List LoopState

/-- The updates of the row go through, and the ledgers accept a refund that is due. -/
def PollAction.WritesSucceed (id : Int) (loaded : Loaded) (w : World) : PollAction → Prop
  | .failRows _ _ fault => fault = none
  | .suno call => ∀ copy, loaded.lookup .suno call.item.taskID = some copy → copy.id = id →
    call.fault = none ∧ (sunoFails copy call.item = true → RefundAccepted call.calls copy w.db)
  | .video platform taskId call => ∀ copy, loaded.lookup platform taskId = some copy → copy.id = id →
    call.fault = none ∧ ∀ result, call.answer.taskResult = some result → result.status = .failure →
      RefundAccepted call.calls.billing copy w.db

def LoopOp.WritesSucceed (id : Int) (s : LoopState) (op : LoopOp) : Prop :=
  match op, s.job with
  | .next, .sweeping inp (copy :: _) => copy.id = id →
    inp.update id = none ∧ RefundAccepted (inp.billing id) copy s.w.db
  | .next, .polling loaded (action :: _) => action.WritesSucceed id loaded s.w
  | _, _ => True

/-- A poll acts on an unfinished copy, and a refund that is due does not exceed what a subscription
has used. -/
def PollAction.RefundsFailure (id : Int) (loaded : Loaded) (w : World) : PollAction → Prop
  | .failRows ids _ _ => id ∉ ids
  | .suno call => ∀ copy, loaded.lookup .suno call.item.taskID = some copy → copy.id = id →
    copy.Unfinished ∧ (sunoFails copy call.item = true → RefundCovered copy w.db)
  | .video platform taskId call => ∀ copy, loaded.lookup platform taskId = some copy → copy.id = id →
    copy.Unfinished ∧ ∀ result, call.answer.taskResult = some result → result.status = .failure →
      RefundCovered copy w.db

/-- The same for the whole loop, whose sweeps must not take the task for a legacy one. -/
def LoopOp.RefundsFailure (id : Int) (s : LoopState) (op : LoopOp) : Prop :=
  match op, s.job with
  | .next, .sweeping _ (copy :: _) => copy.id = id →
    isLegacy copy = false ∧ RefundCovered copy s.w.db
  | .next, .polling loaded (action :: _) => action.RefundsFailure id loaded s.w
  | _, _ => True

def LoopJob.Sound (task row : Task) : LoopJob → Prop
  | .sleeping => True
  | .sweeping _ tasks => (tasks.map Task.id).Nodup ∧
    ∀ copy ∈ tasks, copy.id = task.id → copy.account = task.account ∧ row.Unfinished
  | .polling loaded _ => (∀ k copy, loaded.memory k = some copy → copy.id = k) ∧
    ∀ copy, loaded.memory task.id = some copy → CopySound task row copy
  | .stopped => True

def LoopState.Paid (task : Task) (s : LoopState) : Prop :=
  ∃ row, s.w.tasks.find? task.id = some row ∧ RowPaid task row s.w ∧ s.job.Sound task row

section

variable {task row : Task} {w w' : World} {loaded : Loaded} {rest actions : List PollAction}

theorem rowPaid_framed (hp : RowPaid task row w) (h : Framed task.id w w') :
    RowPaid task row w' := by
  have ht : refundedTotal task.id w' = refundedTotal task.id w := by
    unfold refundedTotal
    rw [h.events.refunds]
  refine ⟨hp.account, ?_, ?_⟩
  · rw [ht]
    exact hp.unfinished
  · rw [ht]
    exact hp.failure

theorem set_ids {copy : Task} (h : ∀ k copy, loaded.memory k = some copy → copy.id = k) (k : Int)
    (found : Task) (hf : (loaded.set copy).memory k = some found) : found.id = k := by
  unfold Loaded.set at hf
  dsimp only at hf
  rw [Function.update_apply] at hf
  split at hf
  · rename_i hk
    cases hf
    exact hk.symm
  · exact h k found hf

theorem wake_paid (s : LoopState) (inp : SweepInputs) (h : s.Paid task) :
    Paid task ⟨s.w, .sweeping inp (sweepTimedOutTasks inp s.w.tasks)⟩ := by
  obtain ⟨row, hf, hp, _⟩ := h
  refine ⟨row, hf, hp, ?_⟩
  unfold sweepTimedOutTasks
  split
  · exact ⟨nodup_nil, by simp⟩
  refine ⟨nodup_getTimedOutUnfinishedTasks _ _ _ _, ?_⟩
  intro copy hc hi
  obtain ⟨hm, hu, _⟩ := of_mem_getTimedOutUnfinishedTasks hc
  have hs := Table.find?_of_mem hm
  rw [hi, hf] at hs
  cases hs
  exact ⟨hp.account, hu⟩

theorem query_paid (s : LoopState) (fault : Fault) (limit : Nat) (actions : List PollAction)
    (h : s.Paid task) :
    Paid task
      ⟨s.w, .polling (load (getAllUnFinishSyncTasks fault limit s.w.tasks)) actions⟩ := by
  obtain ⟨row, hf, hp, _⟩ := h
  refine ⟨row, hf, hp, ?_, ?_⟩
  · intro k copy hc
    simpa using find?_some hc
  intro copy hc _
  have hi : copy.id = task.id := by simpa using find?_some hc
  obtain ⟨hm, hu⟩ := of_mem_getAllUnFinishSyncTasks (mem_of_find?_eq_some hc)
  have hs := Table.find?_of_mem hm
  rw [hi, hf] at hs
  cases hs
  exact ⟨hp.account, hu⟩

theorem sweep_paid {inp : SweepInputs} {copy : Task} {tasks : List Task} (hq : 0 < task.quota)
    (h : Paid task ⟨w, .sweeping inp (copy :: tasks)⟩) (hw : copy.id = task.id →
      inp.update task.id = none ∧ RefundAccepted (inp.billing task.id) copy w.db)
    (hr : copy.id = task.id → isLegacy copy = false ∧ RefundCovered copy w.db) :
    Paid task
      ⟨sweepTask (inp.update copy.id) (inp.billing copy.id) inp.taskTimeoutMinutes inp.now copy w,
        .sweeping inp tasks⟩ := by
  obtain ⟨row, hFind, hPaid, hn, hcop⟩ := h
  rw [map_cons, nodup_cons] at hn
  by_cases hi : copy.id = task.id
  · obtain ⟨hco, hro⟩ := hcop copy mem_cons_self hi
    obtain ⟨_, ha⟩ := hw hi
    obtain ⟨hl, hc⟩ := hr hi
    rw [hi]
    obtain ⟨row', hFind', hPaid'⟩ := sweepTask_paid (inp.update task.id) (inp.billing task.id)
      inp.taskTimeoutMinutes inp.now hq hFind hPaid hco hro hl
      ((refundAccepted_congr hco _ _).mp ha) ((refundCovered_congr hco _).mp hc)
    refine ⟨row', hFind', hPaid', hn.2, ?_⟩
    -- the task is swept once, so no other copy of it is left
    intro other ho hs
    exact absurd (mem_map.mpr ⟨other, ho, hs.trans hi.symm⟩) hn.1
  · have hf := sweepTask_framed (inp.update copy.id) (inp.billing copy.id)
      inp.taskTimeoutMinutes inp.now w hi
    exact ⟨row, hf.row.trans hFind, rowPaid_framed hPaid hf, hn.2,
      fun other ho => hcop other (mem_cons_of_mem _ ho)⟩

theorem failRows_paid {ids : List Int} (h : Paid task ⟨w, .polling loaded actions⟩)
    (hi : task.id ∉ ids) (failReason : Option String) (fault : Fault) :
    Paid task
      ⟨{ w with tasks := taskBulkUpdateByID fault ids failReason w.tasks }, .polling loaded rest⟩ := by
  obtain ⟨row, hf, hp, hso⟩ := h
  have hs : (taskBulkUpdateByID fault ids failReason w.tasks).find? task.id =
      w.tasks.find? task.id := by
    cases fault with
    | some e => rfl
    | none =>
      unfold taskBulkUpdateByID
      dsimp only
      rw [Table.find?_mapRows hf, hf, if_neg]
      rw [Table.key_of_find? hf]
      exact hi
  exact ⟨row, hs.trans hf, rowPaid_framed hp (framed_tasks hs), hso⟩

theorem other_paid {copy : Task} (h : Paid task ⟨w, .polling loaded actions⟩)
    (hId : copy.id ≠ task.id) (hf : Framed task.id w w') :
    Paid task ⟨w', .polling (loaded.set copy) rest⟩ := by
  obtain ⟨row, hfi, hp, hi, hs⟩ := h
  refine ⟨row, hf.row.trans hfi, rowPaid_framed hp hf, set_ids hi, ?_⟩
  intro found hfn
  unfold Loaded.set at hfn
  dsimp only at hfn
  rw [Function.update_of_ne (Ne.symm hId)] at hfn
  exact hs found hfn

theorem own_paid {copy : Task} (hi : ∀ k copy, loaded.memory k = some copy → copy.id = k)
    (h : ∃ row, w'.tasks.find? task.id = some row ∧ RowPaid task row w' ∧ CopySound task row copy ∧
      copy.id = task.id) : Paid task ⟨w', .polling (loaded.set copy) rest⟩ := by
  obtain ⟨row, hf, hp, hc, hId⟩ := h
  refine ⟨row, hf, hp, set_ids hi, ?_⟩
  intro found hfn
  unfold Loaded.set at hfn
  dsimp only at hfn
  rw [hId, Function.update_self] at hfn
  cases hfn
  exact hc

theorem pollAction_paid (hq : 0 < task.quota)
    (h : Paid task ⟨w, .polling loaded actions⟩) (action : PollAction)
    (hw : action.WritesSucceed task.id loaded w) (hre : action.RefundsFailure task.id loaded w) :
    (pollAction loaded rest w action).Paid task := by
  have hid : ∀ k copy, loaded.memory k = some copy → copy.id = k := by
    obtain ⟨_, _, _, hid, _⟩ := h
    exact hid
  have hl : ∀ platform taskId copy, loaded.lookup platform taskId = some copy →
      loaded.memory copy.id = some copy := by
    intro platform taskId copy hc
    obtain ⟨k, _, hm⟩ := Option.bind_eq_some_iff.mp hc
    rw [hid k copy hm]
    exact hm
  unfold pollAction
  cases action with
  | failRows ids failReason fault => exact failRows_paid h hre failReason fault
  | suno call =>
    dsimp only
    split
    · obtain ⟨row, hfi, hp, _⟩ := h
      exact ⟨row, hfi, hp, trivial⟩
    rename_i copy hc
    by_cases hi : copy.id = task.id
    · obtain ⟨hfl, hac⟩ := hw copy hc hi
      obtain ⟨hu, hco⟩ := hre copy hc hi
      obtain ⟨row, hfi, hp, _, hs⟩ := h
      obtain ⟨ha, hro⟩ := hs copy (hi ▸ hl _ _ _ hc) hu
      rw [hfl]
      refine own_paid hid (updateSunoTask_paid hq hfi hp ha hro ?_)
      intro hf
      exact ⟨(refundAccepted_congr ha _ _).mp (hac hf), (refundCovered_congr ha _).mp (hco hf)⟩
    · obtain ⟨hk, hfr⟩ := updateSunoTask_framed call.fault call.calls call.item w hi
      exact other_paid h (by rw [hk]; exact hi) hfr
  | video platform taskId call =>
    dsimp only
    split
    · obtain ⟨row, hfi, hp, hs⟩ := h
      exact ⟨row, hfi, hp, hs⟩
    rename_i copy hc
    by_cases hi : copy.id = task.id
    · obtain ⟨_, hac⟩ := hw copy hc hi
      obtain ⟨hu, hco⟩ := hre copy hc hi
      obtain ⟨row, hfi, hp, _, hs⟩ := h
      obtain ⟨ha, hro⟩ := hs copy (hi ▸ hl _ _ _ hc) hu
      refine own_paid hid (updateVideoSingleTask_paid hq hfi hp ha hu hro ?_)
      intro result hr hfa
      exact ⟨(refundAccepted_congr ha _ _).mp (hac result hr hfa),
        (refundCovered_congr ha _).mp (hco result hr hfa)⟩
    · obtain ⟨hk, hfr⟩ := updateVideoSingleTask_framed call.env call.fault call.calls taskId
        call.answer w hi
      exact other_paid h (by rw [hk]; exact hi) hfr

theorem loopStep_paid (hq : 0 < task.quota) (s : LoopState) (op : LoopOp) (h : s.Paid task)
    (hs : op.WritesSucceed task.id s ∧ op.RefundsFailure task.id s) :
    (loopStep s op).Paid task := by
  obtain ⟨w, job⟩ := s
  cases op with
  | wake inp =>
    cases job with
    | sleeping => exact wake_paid _ inp h
    | sweeping _ _ => exact h
    | polling _ _ => exact h
    | stopped => exact h
  | query inp =>
    cases job with
    | sleeping => exact h
    | sweeping _ tasks =>
      cases tasks with
      | nil => exact query_paid _ inp.query inp.taskQueryLimit _ h
      | cons copy rest => exact h
    | polling _ _ => exact h
    | stopped => exact h
  | next =>
    cases job with
    | sleeping => exact h
    | sweeping inp tasks =>
      cases tasks with
      | nil => exact h
      | cons copy rest => exact sweep_paid hq h hs.1 hs.2
    | polling loaded actions =>
      cases actions with
      | nil =>
        obtain ⟨row, hf, hp, _⟩ := h
        exact ⟨row, hf, hp, trivial⟩
      | cons action rest => exact pollAction_paid hq h action hs.1 hs.2
    | stopped => exact h

end

/-- Where the writes for a charged task succeed and every step refunds what it fails, a failed row
has its quota back. -/
theorem failed_task_refunded (task : Task) (w : World) (hFind : w.tasks.find? task.id = some task)
    (hStatus : task.status ≠ .failure) (hQuota : 0 < task.quota)
    (hClean : refundedTotal task.id w = 0) (ops : List LoopOp)
    (hWrites : Along loopStep (fun s op => op.WritesSucceed task.id s) ⟨w, .sleeping⟩ ops)
    (hRefunds : Along loopStep (fun s op => op.RefundsFailure task.id s) ⟨w, .sleeping⟩ ops) :
    ∃ row, (run loopStep ⟨w, .sleeping⟩ ops).w.tasks.find? task.id = some row ∧
      (row.status = .failure →
        refundedTotal task.id (run loopStep ⟨w, .sleeping⟩ ops).w = task.quota.toInt) := by
  have hs : Paid task ⟨w, .sleeping⟩ :=
    ⟨task, hFind, ⟨rfl, fun _ => hClean, fun hf => absurd hf hStatus⟩, trivial⟩
  obtain ⟨row, hr, hp, _⟩ := run_invariant (loopStep_paid hQuota) hs ops
    (along_and hWrites hRefunds)
  exact ⟨row, hr, hp.failure⟩

def videoPass (hasChannel : Bool) (info : TaskInfo) : PollInputs :=
  { taskQueryLimit := 1000, platforms := ⟨id, List.Perm.refl⟩, channels := ⟨id, List.Perm.refl⟩
    cacheGetChannel := fun _ _ => hasChannel, suno := fun _ => none, hasAdaptor := fun _ => true
    video := fun _ _ _ => ⟨videoEnv, none, noSettlement, videoAnswer info⟩ }

def noTimeout : SweepInputs := { taskTimeoutMinutes := 0, started := 1772000100, now := 1772000100 }

theorem failed_task_refunded_by_poll :
    let final := (run loopStep ⟨videoWorld, .sleeping⟩
      [.wake noTimeout, .query (videoPass true { status := .failure }), .next]).w
    (final.tasks.find? 1).map Task.status = some .failure ∧ refundedTotal 1 final = 100 := by
  have hf : ((run loopStep ⟨videoWorld, .sleeping⟩
      [.wake noTimeout, .query (videoPass true { status := .failure }), .next]).w.tasks.find? 1).map
      Task.status = some .failure := by
    decide +kernel
  have hs : run loopStep ⟨videoWorld, .sleeping⟩
      [.wake noTimeout, .query (videoPass true { status := .failure })] =
      ⟨videoWorld, .polling (load [videoTask]) [.video (.other "kling") "up_1"
        ⟨videoEnv, none, noSettlement, videoAnswer { status := .failure }⟩]⟩ := rfl
  have hw : LoopOp.WritesSucceed 1 (run loopStep ⟨videoWorld, .sleeping⟩
      [.wake noTimeout, .query (videoPass true { status := .failure })]) .next := by
    rw [hs]
    rintro copy hc _
    cases hc
    exact ⟨rfl, fun _ _ _ => rfl⟩
  have hr : LoopOp.RefundsFailure 1 (run loopStep ⟨videoWorld, .sleeping⟩
      [.wake noTimeout, .query (videoPass true { status := .failure })]) .next := by
    rw [hs]
    rintro copy hc _
    cases hc
    exact ⟨by decide, fun _ _ _ => nofun⟩
  obtain ⟨row, hro, hp⟩ := failed_task_refunded videoTask videoWorld rfl (by decide) (by decide)
    (by decide) [.wake noTimeout, .query (videoPass true { status := .failure }), .next]
    ⟨trivial, trivial, hw, trivial⟩ ⟨trivial, trivial, hr, trivial⟩
  refine ⟨hf, hp ?_⟩
  rw [show (1 : Int) = videoTask.id from rfl, hro] at hf
  exact Option.some.inj hf

theorem failed_task_not_refunded :
    let final := (run loopStep ⟨videoWorld, .sleeping⟩
      [.wake noTimeout, .query (videoPass false { status := .inProgress }), .next]).w
    (final.tasks.find? 1).map (fun row => (row.status, row.failReason)) =
        some (.failure, "Failed to get channel info, channel ID: 3") ∧
      final.history = [] := by
  decide +kernel

end DeepRouter.Tasks

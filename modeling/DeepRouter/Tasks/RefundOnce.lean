import DeepRouter.Tasks.BillingRight

/-! # A task is refunded at most once -/

namespace DeepRouter.Tasks

open Store KeyedTable Billing Runs MachineInt Table

def NoRefundedSave (id : Int) (s : Crew) : Prop :=
  ∀ i copy, s.workers i = .saving copy true → copy.id ≠ id

def RowOpen (id : Int) (s : Crew) : Prop :=
  ∀ row, s.world.tasks.find? id = some row → ¬row.status.Final

/-- The step acts on no finished copy and not between the refund and the save of a Suno poll, which
refunds only an open row and saves it as a failure. -/
def CrewOp.Safe (id : Int) (s : Crew) : CrewOp → Prop
  | .sweep i _ _ _ => ∀ copy, s.workers i = .holding copy → copy.id = id →
    ¬copy.status.Final ∧ NoRefundedSave id s
  | .video i _ _ _ _ => ∀ copy, s.workers i = .holding copy → copy.id = id →
    ¬copy.status.Final ∧ NoRefundedSave id s
  | .suno i _ item => ∀ copy, s.workers i = .holding copy → copy.id = id →
    ¬copy.status.Final ∧ (sunoFails copy item = true →
      NoRefundedSave id s ∧ RowOpen id s ∧ (sunoSaved copy item).status = .failure)
  | .save i fault => ∀ copy refunded, s.workers i = .saving copy refunded → copy.id = id →
    if refunded then fault = none else fault = none → NoRefundedSave id s ∧ RowOpen id s
  | _ => True

/-- The row has the account of the task, and so have the copies; one party at most may bill it. -/
def Crew.Guarded (task : Task) (s : Crew) : Prop :=
  ∃ row, s.world.tasks.find? task.id = some row ∧ row.account = task.account ∧
    (∀ i, (s.workers i).Sound task) ∧ Phase task row s.world s.workers

section

variable {task : Task} {s : Crew} {i : Nat} {worker : Worker} {world : World}

theorem Crew.Guarded.sound (h : s.Guarded task) (hwk : s.workers i = worker) :
    worker.Sound task := by
  obtain ⟨_, _, _, hw, _⟩ := h
  rw [← hwk]
  exact hw i

theorem sound_update (h : ∀ j, (s.workers j).Sound task) (hw : worker.Sound task) (j : Nat) :
    ((s.set i worker world).workers j).Sound task := by
  by_cases hj : j = i
  · rw [hj, set_workers_self]
    exact hw
  · rw [set_workers_of_ne hj]
    exact h j

theorem guarded_set {row : Task} (hw : ∀ j, (s.workers j).Sound task)
    (hs : worker.Sound task) (hf : world.tasks.find? task.id = some row)
    (ha : row.account = task.account)
    (hp : Phase task row world (Function.update s.workers i worker)) :
    (s.set i worker world).Guarded task :=
  ⟨row, hf, ha, sound_update hw hs, hp⟩

theorem guarded_quiet (h : s.Guarded task) (hf : Framed task.id s.world world)
    (hb : ¬(s.workers i).Owes task.id) (ha : ¬worker.Owes task.id)
    (hs : worker.Sound task) : (s.set i worker world).Guarded task := by
  obtain ⟨row, hr, hac, hw, hp⟩ := h
  exact guarded_set hw hs (hf.row.trans hr) hac (hp.quiet hf.events hb ha)

theorem not_owes_of_holding {copy : Task} (hw : s.workers i = .holding copy) (id : Int) :
    ¬(s.workers i).Owes id := by
  rw [hw]
  exact False.elim

section

variable (h : s.Guarded task)

include h

theorem read_guarded (k : Int) (hb : ¬(s.workers i).Owes task.id) :
    (readTask s i k).Guarded task := by
  unfold readTask
  split
  · exact h
  rename_i found hf
  split
  · refine guarded_quiet h (Framed.refl _ _) hb id ?_
    intro hi _
    obtain ⟨row, hr, ha, _⟩ := h
    rw [← hi, key_of_find? hf, hf] at hr
    cases hr
    exact ha
  · exact h

theorem sweep_guarded {copy : Task} (hwk : s.workers i = .holding copy) {fault : Fault}
    {mins now : Int} (hsaf : (CrewOp.sweep i fault mins now).Safe task.id s) :
    (sweepStep s i copy fault mins now).Guarded task := by
  have hb := not_owes_of_holding hwk task.id
  unfold sweepStep
  rcases sweepWrite_cases fault mins now copy s.world.tasks with
    ⟨row, hf, hSt, he⟩ | ⟨_, he⟩
  · rw [he]
    dsimp only
    by_cases hi : copy.id = task.id
    · obtain ⟨ho, hs⟩ := hsaf copy hwk hi
      have hco : copy.account = task.account := h.sound hwk hi ho
      obtain ⟨row', hr, _, hw, hp⟩ := h
      rw [hi, hr] at hf
      cases hf
      obtain ⟨hc, hfr⟩ := hp.of_not_final (hSt ▸ ho) hs
      have hsa : (s.world.tasks.save (timedOut mins now copy)).find? task.id =
          some (timedOut mins now copy) := find?_save_of_key hr hi
      split
      · exact guarded_set hw (fun _ => hco) hsa hco (.take hc hfr hi rfl)
      · exact guarded_set hw trivial hsa hco
          (.closed (.inl ⟨rfl, hc.refundedOnce⟩) (free_update (fun j _ => hfr j) id))
    · refine guarded_quiet h (framed_tasks (find?_save_of_ne hi)) hb ?_ ?_
      · split
        · exact hi
        · exact id
      · split
        · exact fun hsam => absurd hsam hi
        · trivial
  · rw [he]
    exact guarded_quiet h (Framed.refl _ _) hb id trivial

theorem refund_guarded (hq : 0 < task.quota) {copy : Task} (hwk : s.workers i = .refunding copy)
    (calls : BillingCalls) : (s.set i .idle (refundTaskQuota calls copy s.world)).Guarded task := by
  by_cases hi : copy.id = task.id
  · have hc : copy.account = task.account := h.sound hwk hi
    obtain ⟨row, hr, ha, hw, hph⟩ := h
    have ho : (s.workers i).Owes task.id := by
      rw [hwk]
      exact hi
    obtain ⟨hcl, hp, hf⟩ := hph.of_owes ho (by
      rw [hwk]
      exact fun copy => nofun)
    rw [hwk] at hp
    refine guarded_set hw trivial ?_ ha
      (.closed (.inl ⟨hp, refund_once calls hq hc hcl⟩) (free_update hf id))
    rw [refundTaskQuota_tasks]
    exact hr
  · refine guarded_quiet h (refundTaskQuota_framed calls copy s.world hi) ?_ id trivial
    rw [hwk]
    exact hi

theorem video_guarded (hq : 0 < task.quota) {copy : Task} (hwk : s.workers i = .holding copy)
    {env : VideoEnv} {fault : Fault} {taskId : String} {answer : VideoAnswer}
    (hsaf : (CrewOp.video i env fault taskId answer).Safe task.id s) :
    (videoStep s i copy env fault taskId answer).Guarded task := by
  have hb := not_owes_of_holding hwk task.id
  unfold videoStep
  cases hr : readVideo env taskId answer copy with
  | stopped copy' e =>
    have ha := readVideo_stopped hr
    refine guarded_quiet h (Framed.refl _ _) hb id ?_
    intro hId _
    have hId' : copy.id = task.id := (id_of_account ha).symm.trans hId
    exact ha.trans (h.sound hwk hId' (hsaf copy hwk hId').1)
  | planned plan =>
    obtain ⟨result, _, hpl⟩ := readVideo_planned hr
    have hk : plan.task.id = copy.id := id_of_account hpl.account
    dsimp only
    by_cases hId : copy.id = task.id
    · obtain ⟨ho, hsav⟩ := hsaf copy hwk hId
      have hWr := writeVideo_effect fault copy plan s.world.tasks
      have hc : plan.task.account = task.account := hpl.account.trans (h.sound hwk hId ho)
      have hfl := hpl.flags (charged_of_account (hpl.account.symm.trans hc) hq)
      have hset : plan.shouldSettle = true → plan.task.status = .success :=
        fun hse => hpl.status.trans (hpl.settle.mp hse)
      generalize writeVideo fault copy plan s.world.tasks = written at hWr
      cases hWr with
      | lost =>
        refine guarded_quiet h (Framed.refl _ _) hb ?_ fun _ => ⟨hc, nofun⟩
        rintro ⟨_, hrf | hse⟩
        · cases hrf
        · cases hse
      | kept hfi =>
        replace hfi : ¬plan.task.status.Final := fun hf => ho (hfi hf ▸ hf)
        refine guarded_quiet h (Framed.refl _ _) hb ?_ fun _ => ⟨hc, hset⟩
        obtain ⟨_, hrf, hse⟩ := (hfl.resolve_left fun hfa =>
          hfi (.inr hfa.1)).resolve_left fun hs => hfi (.inl hs.1)
        simp [Worker.Owes, hrf, hse]
      | saved row hf hSt =>
        -- the update went through on a row with the status of the copy, so the row was open
        obtain ⟨row', hro, _, hw, hp⟩ := h
        rw [hk, hId, hro] at hf
        cases hf
        obtain ⟨hcl, hfr⟩ := hp.of_not_final (hSt ▸ ho) hsav
        refine guarded_set hw (fun _ => ⟨hc, hset⟩) (find?_save_of_key hro (hk.trans hId)) hc ?_
        rcases hfl with ⟨hSt, hrf, hse⟩ | ⟨hSt, hrf, hse⟩ | ⟨hSt, hrf, hse⟩
        · exact .take hcl hfr ⟨hk.trans hId, .inl hrf⟩ (.inl ⟨hrf, hse, hSt⟩)
        · exact .take hcl hfr ⟨hk.trans hId, .inr hse⟩ (.inr ⟨hrf, hse, hSt⟩)
        · refine .opened hSt hcl (free_update (fun j _ => hfr j) ?_)
          simp [Worker.Owes, hrf, hse]
    · obtain ⟨ht, hta⟩ := writeVideo_kept fault copy plan s.world.tasks
      have hot : plan.task.id ≠ task.id := fun hsa => hId (hk.symm.trans hsa)
      refine guarded_quiet h (framed_tasks ?_) hb ?_ ?_
      · rcases hta with he | he
        · rw [he]
        · rw [he]
          exact find?_save_of_ne hot
      · rintro ⟨hsa, _⟩
        rw [ht] at hsa
        exact hot hsa
      · intro hsa
        rw [ht] at hsa
        exact absurd hsa hot

theorem bill_guarded (hq : 0 < task.quota) {plan : VideoPlan} (hw : s.workers i = .billing plan)
    (calls : TaskSettleCalls) : (billStep s i plan calls).Guarded task := by
  have hfin : (billVideo calls plan s.world).2.tasks.find? task.id =
      s.world.tasks.find? task.id := by
    rw [billVideo_tasks]
  unfold billStep
  dsimp only
  by_cases hi : plan.task.id = task.id
  · obtain ⟨hc, hset⟩ := h.sound hw hi
    by_cases how : (s.workers i).Owes task.id
    · obtain ⟨row, hro, ha, hwk, hph⟩ := h
      obtain ⟨hcl, hp, hfre⟩ := hph.of_owes how (by
        rw [hw]
        exact fun copy => nofun)
      rw [hw] at hp
      rcases hp with ⟨hrf, hse, hSt⟩ | ⟨hrf, hse, hSt⟩
      · rw [billVideo_refund calls s.world hrf hse] at hfin ⊢
        exact guarded_set hwk (fun _ _ => hc) (hfin.trans hro) ha
          (.closed (.inl ⟨hSt, refund_once calls.billing hq hc hcl⟩) (free_update hfre id))
      rw [billVideo_settle calls s.world hrf hse] at hfin ⊢
      have hr := settle_refunds calls plan.task plan.taskResult s.world task.id
      have hfi : (settleTaskBillingOnComplete calls plan.task plan.taskResult s.world).1.status =
          .success := by
        obtain ⟨quota, db, more, he, _⟩ := settle_cases calls plan.task plan.taskResult s.world
        rw [he]
        exact hset hse
      exact guarded_set hwk (fun _ ho => absurd (.inl hfi) ho) (hfin.trans hro)
        ha (.closed (.inr ⟨hSt, hr.trans hcl.1⟩) (free_update hfre id))
    · have hn : ¬(plan.shouldRefund = true ∨ plan.shouldSettle = true) := by
        rw [hw] at how
        exact fun hf => how ⟨hi, hf⟩
      rw [not_or, Bool.not_eq_true, Bool.not_eq_true] at hn
      rw [billVideo_nothing calls s.world hn.1 hn.2]
      exact guarded_quiet h (Framed.refl _ _) how id fun _ _ => hc
  · obtain ⟨hk, hfr⟩ := billVideo_framed calls s.world hi
    refine guarded_quiet h hfr ?_ id ?_
    · rw [hw]
      exact fun how => hi how.1
    · intro hs
      exact absurd (hk.symm.trans hs) hi

theorem suno_guarded (hq : 0 < task.quota) {copy : Task} (hw : s.workers i = .holding copy)
    {calls : BillingCalls} {item : SunoDataResponse}
    (hsa : (CrewOp.suno i calls item).Safe task.id s) :
    (sunoStep s i copy calls item).Guarded task := by
  have hb := not_owes_of_holding hw task.id
  have hsav := sunoSaved_account copy item
  have hSavId : (sunoSaved copy item).id = copy.id := id_of_account hsav
  unfold sunoStep
  split
  · by_cases hi : copy.id = task.id
    · obtain ⟨hop, hfai⟩ := hsa copy hw hi
      have hco : copy.account = task.account := h.sound hw hi hop
      -- a save that refunds nothing takes no right; one that does must find the row open
      cases hfa : sunoFails copy item with
      | false =>
        rw [if_neg Bool.false_ne_true]
        refine guarded_quiet h (Framed.refl _ _) hb ?_ ?_
        · rintro ⟨_, hrf⟩
          cases hrf
        · exact fun _ => hsav.trans hco
      | true =>
        obtain ⟨hs, hr, hf⟩ := hfai hfa
        obtain ⟨row, hro, ha, hwk, hp⟩ := h
        obtain ⟨hc, hfr⟩ := hp.of_not_final (hr row hro) hs
        rw [if_pos rfl]
        have hfi : (refundTaskQuota calls (sunoFailed copy item) s.world).tasks.find? task.id =
            some row := by
          rw [refundTaskQuota_tasks]
          exact hro
        refine guarded_set hwk (fun _ => hsav.trans hco) hfi ha ?_
        refine .refunded i (hr row hro)
          (refund_once calls hq ((sunoFailed_account copy item).trans hco) hc)
          (sunoSaved copy item) (Function.update_self ..) (hSavId.trans hi) hf ?_
        intro j hj
        rw [Function.update_of_ne hj]
        exact hfr j
    · have ho : (sunoSaved copy item).id ≠ task.id := fun hsam => hi (hSavId.symm.trans hsam)
      refine guarded_quiet h ?_ hb (fun how => ho how.1) fun hsam => absurd hsam ho
      split
      · exact refundTaskQuota_framed calls (sunoFailed copy item) s.world hi
      · exact Framed.refl _ _
  · exact h

theorem save_guarded {copy : Task} {rf : Bool} (hw : s.workers i = .saving copy rf) {fault : Fault}
    (hsaf : (CrewOp.save i fault).Safe task.id s) : (saveStep s i copy fault).Guarded task := by
  replace hsaf := hsaf copy rf hw
  unfold saveStep
  by_cases hi : copy.id = task.id
  · have hc : copy.account = task.account := h.sound hw hi
    cases rf with
    | true =>
      rw [hsaf hi]
      obtain ⟨row, hro, _, hwk, hp⟩ := h
      obtain ⟨ho, hSt, hfr⟩ := hp.of_saving hw hi
      exact guarded_set hwk (fun _ _ => hc) (find?_save_of_key hro hi) hc
        (.closed (.inl ⟨hSt, ho⟩) (free_update hfr id))
    | false =>
      have hb : ¬(s.workers i).Owes task.id := by
        rw [hw]
        rintro ⟨_, hrf⟩
        cases hrf
      cases fault with
      | some e => exact guarded_quiet h (Framed.refl _ _) hb id fun _ _ => hc
      | none =>
        obtain ⟨hs, hr⟩ := hsaf hi rfl
        obtain ⟨row, hro, _, hwk, hp⟩ := h
        obtain ⟨hcl, hfr⟩ := hp.of_not_final (hr row hro) hs
        have hn := free_update (i := i) (fun j _ => hfr j)
          (id : ¬(Worker.holding copy).Owes task.id)
        refine guarded_set hwk (fun _ _ => hc) (find?_save_of_key hro hi) hc ?_
        by_cases hf : copy.status.Final
        · rcases hf with hSt | hSt
          · exact .closed (.inr ⟨hSt, hcl.1⟩) hn
          · exact .closed (.inl ⟨hSt, hcl.refundedOnce⟩) hn
        · exact .opened hf hcl hn
  · refine guarded_quiet h (framed_tasks ?_) ?_ id fun hsa => absurd hsa hi
    · cases fault with
      | none => exact find?_save_of_ne hi
      | some e => rfl
    · rw [hw]
      exact fun how => hi how.1

end

theorem crewStep_guarded (hq : 0 < task.quota) (s : Crew) (op : CrewOp) (h : s.Guarded task)
    (hs : op.Safe task.id s) : (crewStep s op).Guarded task := by
  unfold crewStep
  cases op with
  | read i k =>
    dsimp only
    split
    · rename_i hw
      refine read_guarded h k ?_
      rw [hw]
      exact id
    · rename_i hw
      refine read_guarded h k ?_
      rw [hw]
      exact id
    · exact h
  | sweep i fault minutes now =>
    dsimp only
    split
    · rename_i copy hw
      exact sweep_guarded h hw hs
    · exact h
  | refund i calls =>
    dsimp only
    split
    · rename_i copy hw
      exact refund_guarded h hq hw calls
    · exact h
  | video i env fault taskId answer =>
    dsimp only
    split
    · rename_i copy hw
      exact video_guarded h hq hw hs
    · exact h
  | bill i calls =>
    dsimp only
    split
    · rename_i plan hw
      exact bill_guarded h hq hw calls
    · exact h
  | suno i calls item =>
    dsimp only
    split
    · rename_i copy hw
      exact suno_guarded h hq hw hs
    · exact h
  | save i fault =>
    dsimp only
    split
    · rename_i copy refunded hw
      exact save_guarded h hw hs
    · exact h

theorem Crew.Guarded.refunds_le (hq : 0 < task.quota) (h : s.Guarded task) :
    (refunds task.id s.world).sum ≤ task.quota.toInt ∧
      (refunds task.id s.world ≠ [] → .settled task.id ∉ s.world.history ∧
        ∀ row, s.world.tasks.find? task.id = some row → row.status ≠ .success) := by
  have hpo := pos_iff.mp hq
  have hno : refunds task.id s.world = [] → (refunds task.id s.world).sum ≤ task.quota.toInt := by
    intro hn
    rw [hn, List.sum_nil]
    omega
  have honc : RefundedOnce task s.world → (refunds task.id s.world).sum ≤ task.quota.toInt := by
    rintro ⟨hn | ⟨amount, hl, hon⟩, _⟩
    · exact hno hn
    · rw [hon, List.sum_singleton]
      exact hl
  obtain ⟨row, hr, _, _, hp⟩ := h
  rw [hr]
  cases hp with
  | opened _ hc _ => exact ⟨hno hc.1, fun hso => absurd hc.1 hso⟩
  | refunded k ho hrf _ _ _ _ _ =>
    refine ⟨honc hrf, fun _ => ⟨hrf.2, ?_⟩⟩
    rintro _ ⟨⟩ hsu
    exact ho (.inl hsu)
  | paying k hc _ _ _ => exact ⟨hno hc.1, fun hso => absurd hc.1 hso⟩
  | closed he _ =>
    rcases he with ⟨hs, hrf⟩ | ⟨_, hn⟩
    · refine ⟨honc hrf, fun _ => ⟨hrf.2, ?_⟩⟩
      rintro _ ⟨⟩ hsu
      rw [hs] at hsu
      cases hsu
    · exact ⟨hno hn, fun hso => absurd hn hso⟩

end

/-- In any interleaving of workers whose steps are safe at most the quota of the task is given back,
and then it is not settled and no success. -/
theorem task_refunded_once (task : Task) (w : World) (hFind : w.tasks.find? task.id = some task)
    (hOpen : ¬task.status.Final) (hQuota : 0 < task.quota) (hClean : Untouched task.id w)
    (ops : List CrewOp) (hSafe : Along crewStep (CrewOp.Safe task.id) ⟨w, fun _ => .idle⟩ ops) :
    let final := (run crewStep ⟨w, fun _ => .idle⟩ ops).world
    (refunds task.id final).sum ≤ task.quota.toInt ∧
      (refunds task.id final ≠ [] → .settled task.id ∉ final.history ∧
        ∀ row, final.tasks.find? task.id = some row → row.status ≠ .success) := by
  have hs : Crew.Guarded task ⟨w, fun _ => .idle⟩ :=
    ⟨task, hFind, rfl, fun _ => trivial, .opened hOpen hClean fun _ => id⟩
  exact (run_invariant (crewStep_guarded hQuota) hs ops hSafe).refunds_le hQuota

theorem task_refunded_once_raced :
    let start : Crew := ⟨videoWorld, fun _ => .idle⟩
    let final := (run crewStep start [.read 0 1, .read 1 1,
      .video 0 videoEnv none "up_1" (videoAnswer { status := .failure }),
      .sweep 1 none 60 1772000200, .bill 0 noSettlement, .refund 1 {}]).world
    refunds 1 final = [100] ∧ (refunds 1 final).sum ≤ 100 := by
  refine ⟨by decide +kernel, ?_⟩
  refine (task_refunded_once videoTask videoWorld rfl (by decide) (by decide) ⟨rfl, by decide⟩ _ ?_).1
  refine ⟨trivial, trivial, ?_, ?_, trivial, trivial, trivial⟩
  all_goals
    rintro copy hc _
    cases hc
    refine ⟨by decide, ?_⟩
    rintro (_ | _ | j) copy hs
    all_goals cases hs

def sunoTask : Task := { videoTask with platform := .suno }

def sunoWorld : World := ⟨.initial, ⟨[sunoTask], List.nodup_singleton _⟩, []⟩

def sunoFailure : SunoDataResponse := ⟨"up_1", .failure, "moderation", 0, 0, 0, "data"⟩

theorem task_refunded_twice :
    refunds 1 (run crewStep ⟨sunoWorld, fun _ => .idle⟩ [.read 0 1, .read 1 1,
      .suno 0 {} sunoFailure, .suno 1 {} sunoFailure, .save 0 none, .save 1 none]).world =
      [100, 100] := by
  decide +kernel

end DeepRouter.Tasks

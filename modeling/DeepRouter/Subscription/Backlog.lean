import DeepRouter.Subscription.Maintenance

/-! # The backlog of the maintenance run -/

namespace DeepRouter.Subscription

open Store Atomic KeyedTable Runs CivilCalendar Relation List Table

structure PlanStore where
  db : Database
  plans : PlanTable

inductive PlanOp where
  | createPlan (groups : String → Bool) (fault : Fault) (newId : Int) (request : PlanRequest)
  | updatePlan (groups : String → Bool) (fault : Fault) (id : Int) (request : PlanRequest)
  | subscribe (now : Int) (faults : CreateFaults) (newId userId planId : Int) (source : String)
  | maintain (now : Int) (fuel : Nat) (faults : MaintenanceFaults) (rank : Database → Int → Nat)
      (cleanup : Bool)

def PlanStore.step (cal : Calendar) (s : PlanStore) : PlanOp → PlanStore
  | .createPlan groups fault newId request =>
    match adminCreateSubscriptionPlan groups fault newId request s.plans with
    | .error _ => s
    | .ok (_, plans) => { s with plans }
  | .updatePlan groups fault id request =>
    match adminUpdateSubscriptionPlan groups fault id request s.plans with
    | .error _ => s
    | .ok plans => { s with plans }
  | .subscribe now faults newId userId planId source =>
    match s.plans.find? planId with
    | none => s
    | some plan =>
      match createUserSubscriptionFromPlanTx (planEnv cal s.plans now 0) faults newId userId plan
          source s.db with
      | .error _ => s
      | .ok (_, db) => { s with db }
  | .maintain now fuel faults rank cleanup =>
    match runSubscriptionQuotaResetOnce (planEnv cal s.plans now fuel) faults rank cleanup s.db with
    | none => s
    | some db => { s with db }

/-- An update keeps the reset settings or finds no scheduled subscription, and the period of a
bought plan advances. -/
def KeepsReset (zone : Zone) (s : PlanStore) : PlanOp → Prop
  | .createPlan .. => True
  | .updatePlan groups fault id request =>
    ∀ plans, adminUpdateSubscriptionPlan groups fault id request s.plans = .ok plans →
      (∀ plan, s.plans.find? id = some plan → SameReset plan request.plan) ∨
        ∀ sub ∈ s.db.subs.rows, sub.planId = id → sub.status = .active → sub.nextResetTime ≤ 0
  | .subscribe now _ _ _ planId _ =>
    0 < now ∧ ∀ plan, s.plans.find? planId = some plan →
      ∀ endUnix, calcPlanEndTime (localCalendar zone) now plan = .ok endUnix →
        Progresses zone plan now endUnix
  | .maintain now fuel _ _ _ => now.toNat ≤ fuel

section

variable {zone : Zone} {a b : SubscriptionPlan}

theorem SameReset.symm (h : SameReset a b) : SameReset b a := ⟨h.period.symm, h.seconds.symm⟩

theorem SameReset.trans {c : SubscriptionPlan} (hab : SameReset a b) (hbc : SameReset b c) :
    SameReset a c :=
  ⟨hab.period.trans hbc.period, hab.seconds.trans hbc.seconds⟩

theorem SameReset.nextBoundary_eq (h : SameReset a b) (cal : Calendar) :
    nextBoundary cal a = nextBoundary cal b := by
  funext base
  unfold nextBoundary
  rw [h.period, h.seconds]

theorem SameReset.follows_eq (h : SameReset a b) (cal : Calendar) (endTime : Int) :
    Follows cal a endTime = Follows cal b endTime := by
  funext s t
  unfold Follows
  rw [h.nextBoundary_eq]

theorem SameReset.scheduled (h : SameReset a b) {sub : UserSubscription}
    (hs : Scheduled zone a sub) : Scheduled zone b sub where
  start_pos := hs.start_pos
  progresses t hf ht := by
    have ha := hs.progresses t hf ht
    unfold Advances at ha ⊢
    rw [← h.period, ← h.seconds]
    exact ha
  schedule := by
    refine ⟨?_, ?_⟩
    · rw [← h.follows_eq]
      exact hs.schedule.base
    · rw [calcNextResetTime_eq, ← h.nextBoundary_eq, ← calcNextResetTime_eq]
      exact hs.schedule.next

end

structure PlanStore.Ready (zone : Zone) (s : PlanStore) : Prop where
  plans : ∀ plan ∈ s.plans.rows, 0 < plan.id
  rows : AllScheduled zone s.plans s.db

section

variable {zone : Zone} {s : PlanStore}

theorem PlanStore.Ready.createPlan (h : s.Ready zone) {groups : String → Bool} {fault : Fault}
    {newId : Int} {req : PlanRequest} {plan : SubscriptionPlan} {plans : PlanTable}
    (hc : adminCreateSubscriptionPlan groups fault newId req s.plans = .ok (plan, plans)) :
    PlanStore.Ready zone { s with plans } := by
  obtain ⟨hId, hk, hi⟩ := adminCreateSubscriptionPlan_ok hc
  constructor
  · intro x hx
    rcases (mem_insert? hi).mp hx with hm | rfl
    · exact h.plans x hm
    · omega
  · intro sub hs
    obtain ⟨hu, old, hf, hr⟩ := h.rows sub hs
    refine ⟨hu, old, ?_, hr⟩
    have hm : old ∈ plans.rows := (mem_insert? hi).mpr (.inl (mem_of_find? hf))
    exact find?_eq_some_iff.mpr ⟨hm, key_of_find? hf⟩

theorem PlanStore.Ready.updatePlan (h : s.Ready zone) {groups : String → Bool} {fault : Fault}
    {id : Int} {req : PlanRequest} {plans : PlanTable}
    (hk : KeepsReset zone s (.updatePlan groups fault id req))
    (hup : adminUpdateSubscriptionPlan groups fault id req s.plans = .ok plans) :
    PlanStore.Ready zone { s with plans } := by
  obtain ⟨hi, plan, hke, hsa, rfl⟩ := adminUpdateSubscriptionPlan_ok hup
  constructor
  · intro x hx
    rcases mem_save.mp hx with ⟨hm, _⟩ | ⟨rfl, _⟩
    · exact h.plans x hm
    · omega
  · intro sub hsu
    obtain ⟨hu, old, hf, ho, hs⟩ := h.rows sub hsu
    by_cases hpl : sub.planId = id
    · have hst : (s.plans.save plan).find? sub.planId = some plan :=
        find?_save_of_key hf (hke.trans hpl.symm)
      refine ⟨hu, plan, hst, by omega, ?_⟩
      intro ha hp
      rcases hk _ hup with hr | hn
      · have hol := hr old (hpl ▸ hf)
        exact (hol.trans hsa.symm).scheduled (hs ha hp)
      · have hl := hn sub hsu hpl ha
        omega
    · refine ⟨hu, old, ?_, ho, hs⟩
      show (s.plans.save plan).find? sub.planId = some old
      rw [find?_save_of_ne (fun he => hpl (he.symm.trans hke))]
      exact hf

theorem PlanStore.Ready.subscribe (h : s.Ready zone) {now : Int} {fl : CreateFaults}
    {newId uid planId : Int} {src : String} {plan : SubscriptionPlan}
    {sub : UserSubscription} {db : Database} (hf : s.plans.find? planId = some plan)
    (hke : KeepsReset zone s (.subscribe now fl newId uid planId src))
    (hc : createUserSubscriptionFromPlanTx (planEnv (localCalendar zone) s.plans now 0) fl
      newId uid plan src s.db = .ok (sub, db)) : PlanStore.Ready zone { s with db } := by
  obtain ⟨endUnix, prevGroup, mid, hcr⟩ := create_ok hc
  obtain ⟨hr, hu, hp, _⟩ := hcr.frame
  refine ⟨h.plans, ?_⟩
  intro x hx
  rw [hr] at hx
  rcases mem_append.mp hx with hm | hn
  · exact h.rows x hm
  obtain rfl := mem_singleton.mp hn
  have hk : plan.id = planId := key_of_find? hf
  have hs : s.plans.find? x.planId = some plan := by
    rw [hp, hk]
    exact hf
  refine ⟨hu ▸ hcr.user_pos, plan, hs, h.plans plan (mem_of_find? hf), ?_⟩
  intro _ _
  rw [hcr.row]
  exact ⟨hke.1, hke.2 plan hf endUnix hcr.ends,
    onSchedule_newSubscription (planEnv (localCalendar zone) s.plans now 0) _ _ _ _ _ _⟩

theorem PlanStore.Ready.step (h : s.Ready zone) {op : PlanOp} (hk : KeepsReset zone s op) :
    (s.step (localCalendar zone) op).Ready zone := by
  cases op with
  | createPlan groups fault newId request =>
    unfold PlanStore.step
    dsimp only
    split
    · exact h
    · rename_i plan plans hc
      exact h.createPlan hc
  | updatePlan groups fault id request =>
    unfold PlanStore.step
    dsimp only
    split
    · exact h
    · rename_i plans hu
      exact h.updatePlan hk hu
  | subscribe now faults newId userId planId source =>
    unfold PlanStore.step
    dsimp only
    split
    · exact h
    rename_i plan hf
    split
    · exact h
    · rename_i sub db hc
      exact h.subscribe hf hk hc
  | maintain now fuel faults rank cleanup =>
    unfold PlanStore.step
    dsimp only
    split
    · exact h
    · rename_i db hr
      exact ⟨h.plans, h.rows.run hk hr⟩

end

/-- A maintenance run without faults ends and leaves no subscription past its end or its next reset.
-/
theorem maintenance_clears {zone : Zone} {s : PlanStore} (hPlans : s.plans.rows = [])
    (hSubs : s.db.subs.rows = []) (ops : List PlanOp)
    (hOps : Along (PlanStore.step (localCalendar zone)) (KeepsReset zone) s ops) (now : Int)
    (rank : Database → Int → Nat) (cleanup : Bool) :
    let reached := run (PlanStore.step (localCalendar zone)) s ops
    ∃ bound, ∀ fuel, bound ≤ fuel →
      ∃ db, runSubscriptionQuotaResetOnce (planEnv (localCalendar zone) reached.plans now fuel) {}
          rank cleanup reached.db = some db ∧
        (∀ sub ∈ db.subs.rows, ¬(sub.status = .active ∧ 0 < sub.endTime ∧ sub.endTime ≤ now)) ∧
        ∀ sub ∈ db.subs.rows, sub.status = .active → (reached.plans.find? sub.planId).isSome →
          ¬(0 < sub.nextResetTime ∧ sub.nextResetTime ≤ now) := by
  intro reached
  have hs : s.Ready zone := by
    constructor
    · rw [hPlans]
      exact fun _ h => absurd h not_mem_nil
    · unfold AllScheduled
      rw [hSubs]
      exact fun _ h => absurd h not_mem_nil
  have hr : reached.Ready zone := run_invariant (fun t op ht ho => ht.step ho) hs ops hOps
  refine ⟨max now.toNat reached.db.subs.rows.length + 1, ?_⟩
  intro fuel hf
  obtain ⟨db, hru, he, hrs⟩ := hr.rows.exists_run rank cleanup hf
  refine ⟨db, hru, ?_, ?_⟩
  · intro sub hsu
    exact of_decide_eq_false (he sub hsu)
  · intro sub hsu ha _ hd
    exact of_decide_eq_false (hrs sub hsu) ⟨hd.1, hd.2, ha⟩

section

variable {env : Env} {db : Database}

theorem resetDueRows_unchanged {rows : List UserSubscription} (hro : Listed env.now db rows)
    (hs : ∀ sub ∈ rows, ∃ plan, getSubscriptionPlanById env sub.planId = .ok plan ∧
      resetOutcome env sub plan = .unchanged) (count : Nat) :
    resetDueRows env {} rows count db = ((count + rows.length, none), db) := by
  induction rows generalizing count with
  | nil => rfl
  | cons sub rest ih =>
    obtain ⟨hr, hd⟩ := hro.current sub mem_cons_self
    obtain ⟨hpo, hn, _⟩ := of_decide_eq_true hd
    obtain ⟨plan, hp, ho⟩ := hs sub mem_cons_self
    have ht : resetLockedTx env {} sub.id plan db = .ok (true, db) := by
      unfold resetLockedTx
      rw [hr]
      dsimp only
      rw [if_pos ⟨hpo, hn⟩, maybeResetUserSubscriptionWithPlanTx, ho]
      rfl
    rw [resetDueRows, hp]
    dsimp only
    rw [ht]
    refine (ih hro.tail (fun x hx => hs x (mem_cons_of_mem _ hx)) (count + 1)).trans ?_
    rw [length_cons, Nat.add_right_comm, Nat.add_assoc]

/-- A full batch of due rows that the reset leaves as they are makes the loop run forever. -/
theorem resets_never_end (hm : subscriptionResetBatchSize ≤ db.subs.rows.countP (dueReset env.now))
    (hs : ∀ sub ∈ db.subs.rows, dueReset env.now sub = true → ∃ plan, getSubscriptionPlanById
      env sub.planId = .ok plan ∧ resetOutcome env sub plan = .unchanged) (fuel : Nat) :
    Progress.drain subscriptionResetBatchSize
      (resetDueSubscriptions env {} subscriptionResetBatchSize) fuel db = none := by
  have hr := listed_dueForReset env.now subscriptionResetBatchSize db
  have hb : resetDueSubscriptions env {} subscriptionResetBatchSize db =
      ((subscriptionResetBatchSize, none), db) := by
    refine (resetDueRows_unchanged hr ?_ 0).trans ?_
    · intro sub hsu
      obtain ⟨hro, hd⟩ := hr.current sub hsu
      exact hs sub (mem_of_find? hro) hd
    · rw [length_dueForReset, Nat.min_eq_left hm, Nat.zero_add]
  induction fuel with
  | zero => rfl
  | succ fuel ih =>
    rw [Progress.drain, hb]
    dsimp only
    rw [if_neg (by decide)]
    exact ih

end

def staleSubs : Database :=
  { Database.initial with
    subs.rows := (range 300).map fun n : Nat =>
      { boughtAt 100000 (thirtyDays "daily" 0) with id := n }
    subs.nodup := by
      rw [List.map_map]
      exact nodup_range.map fun _ _ => Int.ofNat.inj }

def neverEnv : Env := { utcEnv 200000 0 with plans _ := .ok (thirtyDays "never" 0) }

theorem resets_never_end_stale :
    Progress.drain 300 (resetDueSubscriptions neverEnv {} 300) 9 staleSubs = none := by
  apply resets_never_end (by decide +kernel)
  intro sub hs _
  obtain ⟨n, -, rfl⟩ := mem_map.mp hs
  exact ⟨_, rfl, rfl⟩

def dailyRequest : PlanRequest := ⟨thirtyDays "daily" 0, 10⟩

def emptyStore : PlanStore := ⟨.initial, .empty _⟩

def dailyOps : List PlanOp :=
  [.createPlan (fun _ => true) none 1 dailyRequest,
    .subscribe 100000 {} 1 7 1 "order",
    .maintain 360000 360000 {} (fun _ _ => 0) true,
    .updatePlan (fun _ => true) none 1 dailyRequest]

theorem maintenance_clears_daily :
    let reached := run (PlanStore.step (localCalendar (.fixed 0))) emptyStore dailyOps
    ∃ bound, ∀ fuel, bound ≤ fuel →
      ∃ db, runSubscriptionQuotaResetOnce (planEnv (localCalendar (.fixed 0)) reached.plans 500000
          fuel) {} (fun _ _ => 0) true reached.db = some db ∧
        (∀ sub ∈ db.subs.rows, ¬(sub.status = .active ∧ 0 < sub.endTime ∧ sub.endTime ≤ 500000)) ∧
        ∀ sub ∈ db.subs.rows, sub.status = .active → (reached.plans.find? sub.planId).isSome →
          ¬(0 < sub.nextResetTime ∧ sub.nextResetTime ≤ 500000) := by
  apply maintenance_clears rfl rfl
  refine ⟨trivial, ⟨by decide, ?_⟩, Nat.le_refl 360000, ?_, trivial⟩
  · intro plan hf endUnix _
    have hs : (PlanStore.step (localCalendar (.fixed 0)) emptyStore
        (.createPlan (fun _ => true) none 1 dailyRequest)).plans.find? 1 =
          some (thirtyDays "daily" 0) := by decide
    obtain rfl := Option.some.inj (hs.symm.trans hf)
    exact progresses_daily_fixed 0 _ _
  · intro plans _
    refine .inl ?_
    intro plan hf
    have hs : (run (PlanStore.step (localCalendar (.fixed 0))) emptyStore
        (dailyOps.take 3)).plans.find? 1 = some (thirtyDays "daily" 0) := by decide +kernel
    obtain rfl := Option.some.inj (hs.symm.trans hf)
    exact ⟨rfl, rfl⟩

def neverOps : List PlanOp :=
  [.createPlan (fun _ => true) none 1 dailyRequest,
    .subscribe 100000 {} 1 7 1 "order",
    .updatePlan (fun _ => true) none 1 ⟨thirtyDays "never" 0, 10⟩]

theorem changed_plan_keeps_backlog :
    let reached := run (PlanStore.step (localCalendar (.fixed 0))) emptyStore neverOps
    ((runSubscriptionQuotaResetOnce (planEnv (localCalendar (.fixed 0)) reached.plans 200000 200001)
        {} (fun _ _ => 0) true reached.db).map fun db =>
      db.subs.rows.map fun sub => (sub.status, (reached.plans.find? sub.planId).isSome,
        sub.nextResetTime)) = some [(.active, true, 172800)] := by
  decide +kernel

end DeepRouter.Subscription

import DeepRouter.Subscription.Groups
import DeepRouter.Subscription.LedgerSpec
import DeepRouter.Subscription.ResetSchedule

/-! # The maintenance run

A batch of resets counts every row it has handed to the reset, changed or not, and no row whose plan
is not found. -/

namespace DeepRouter.Subscription

open Store Atomic KeyedTable Progress Relation List Table

def subscriptionResetBatchSize : Nat := 300

structure MaintenanceFaults where
  expire : ExpireFaults := {}
  reset : ResetFaults := {}
  cleanup : Fault := none

/-- `rank` orders the users of a batch, and `cleanup` says that the last cleanup was long ago. The
result is `none` when a loop still runs after `env.fuel` turns. -/
def runSubscriptionQuotaResetOnce (env : Env) (faults : MaintenanceFaults)
    (rank : Database → Int → Nat) (cleanup : Bool) (db : Database) : Option Database :=
  match drain subscriptionResetBatchSize (fun db =>
      expireDueSubscriptions env.now faults.expire (rank db) subscriptionResetBatchSize db)
      env.fuel db with
  | none => none
  | some (some _, db) => some db
  | some (none, db) =>
    match drain subscriptionResetBatchSize
        (resetDueSubscriptions env faults.reset subscriptionResetBatchSize) env.fuel db with
    | none => none
    | some (some e, db) => if e = "reset catch-up loop still running" then none else some db
    | some (none, db) =>
      if cleanup then
        some (cleanupSubscriptionPreConsumeRecords env faults.cleanup (7 * 24 * 3600) db).2
      else some db

variable {sub : UserSubscription}

section

variable {now : Int} {db : Database}

/-- The due rows of the users are marked as expired. -/
def expiredBy (now : Int) (users : List Int) (sub : UserSubscription) : UserSubscription :=
  if sub.userId ∈ users ∧ isDue now sub then { sub with status := .expired } else sub

theorem map_expiredBy_nil (now : Int) (rows : List UserSubscription) :
    rows.map (expiredBy now []) = rows := by
  have h : expiredBy now [] = id := by
    funext sub
    simp [expiredBy]
  rw [h, List.map_id]

theorem isDue_expiredBy (now : Int) (users : List Int) (sub : UserSubscription) :
    isDue now (expiredBy now users sub) = (isDue now sub && !decide (sub.userId ∈ users)) := by
  unfold expiredBy
  split
  · rename_i h
    simp [isDue, h.1]
  · rename_i h
    by_cases hd : isDue now sub = true
    · simp [hd, show sub.userId ∉ users from fun hu => h ⟨hu, hd⟩]
    · simp [hd]

theorem expiredBy_markExpired (now userId : Int) (users : List Int) (sub : UserSubscription) :
    expiredBy now users (markExpired now userId sub) = expiredBy now (userId :: users) sub := by
  by_cases hd : isDue now sub = true
  · by_cases hu : sub.userId = userId
    · simp [expiredBy, markExpired, hu, hd]
    · simp [expiredBy, markExpired, hu, hd]
  · simp [expiredBy, markExpired, hd]

theorem countP_expiredBy (now : Int) (users : List Int) (rows : List UserSubscription) :
    (rows.map (expiredBy now users)).countP (isDue now) +
        rows.countP (fun sub => sub.userId ∈ users ∧ isDue now sub) = rows.countP (isDue now) := by
  rw [countP_map, countP_eq_countP_filter_add rows (isDue now) fun sub => sub.userId ∈ users,
    countP_filter, countP_filter, Nat.add_comm]
  congr 2
  · funext sub
    simp [Bool.and_comm]
  · funext sub
    simp [isDue_expiredBy]

theorem expireUsers_rows (fl : ExpireFaults) (users : List Int) (count : Nat) :
    ∃ done, (expireUsers fl now users count db).2.subs.rows =
      db.subs.rows.map (expiredBy now done) := by
  induction users generalizing count db with
  | nil => exact ⟨[], (map_expiredBy_nil now _).symm⟩
  | cons userId rest ih =>
    rw [expireUsers]
    rcases transaction_cases db (expireUserTx fl now userId db) (fl.commit userId) with
      ⟨_, mid, hb, _, he⟩ | ⟨e, he⟩
    · obtain ⟨_, _, hb⟩ := bind_eq_ok.mp hb
      obtain ⟨restored, hr, hb⟩ := bind_eq_ok.mp hb
      cases hb
      obtain ⟨done, hro⟩ := @ih mid (count + _)
      refine ⟨userId :: done, ?_⟩
      rw [he]
      dsimp only
      rw [hro, (restoreGroup_frame hr).1]
      exact List.map_map.trans
        (map_congr_left fun sub _ => expiredBy_markExpired now userId done sub)
    · rw [he]
      exact ⟨[], (map_expiredBy_nil now _).symm⟩

theorem expireDue_rows (fl : ExpireFaults) (rank : Int → Nat) (limit : Int) :
    ∃ done, (expireDueSubscriptions now fl rank limit db).2.subs.rows =
      db.subs.rows.map (expiredBy now done) := by
  unfold expireDueSubscriptions
  split
  · exact ⟨[], (map_expiredBy_nil now _).symm⟩
  · exact expireUsers_rows fl _ 0

theorem expireUsers_exact (users : List Int) (count : Nat) (hu : ∀ userId ∈ users, 0 < userId) :
    (expireUsers {} now users count db).1 =
        (count + db.subs.rows.countP (fun sub => sub.userId ∈ users ∧ isDue now sub), none) ∧
      (expireUsers {} now users count db).2.subs.rows = db.subs.rows.map (expiredBy now users) := by
  induction users generalizing count db with
  | nil => simp [expireUsers, map_expiredBy_nil]
  | cons userId rest ih =>
    obtain ⟨mid, hb, hm⟩ := expireUser_total now db (hu userId mem_cons_self)
    rw [expireUsers, hb]
    obtain ⟨hn, hro⟩ := @ih mid (count + _) (fun other ho => hu other (mem_cons_of_mem _ ho))
    have hmi : mid.subs.rows = db.subs.rows.map (markExpired now userId) := by
      rw [hm]
      rfl
    have hr : mid.subs.rows.map (expiredBy now rest) =
        db.subs.rows.map (expiredBy now (userId :: rest)) := by
      rw [hmi, List.map_map]
      exact map_congr_left fun sub _ => expiredBy_markExpired now userId rest sub
    refine ⟨hn.trans ?_, hro.trans hr⟩
    -- both sides count the rows that are no longer due
    have hs : db.subs.rows.map (markExpired now userId) =
        db.subs.rows.map (expiredBy now [userId]) := by simp [expiredBy, markExpired]
    have hf := countP_expiredBy now [userId] db.subs.rows
    have hl := countP_expiredBy now rest mid.subs.rows
    have ha := countP_expiredBy now (userId :: rest) db.subs.rows
    rw [← hs, ← hmi] at hf
    rw [hr] at hl
    simp only [mem_singleton] at hf
    dsimp only [Option.isSome]
    rw [if_neg Bool.false_ne_true]
    exact Prod.ext (by dsimp only; omega) rfl

theorem length_dueForExpiry_le (rank : Int → Nat) (limit : Int)
    (hu : ∀ sub ∈ db.subs.rows, 0 < sub.userId) :
    (dueForExpiry now limit db).length ≤ db.subs.rows.countP fun sub =>
      sub.userId ∈ expiringUsers rank (dueForExpiry now limit db) ∧ isDue now sub := by
  have hn : (dueForExpiry now limit db).Nodup := by
    refine (take_sublist _ _).nodup ?_
    rw [(perm_insertionSort _ _).nodup_iff]
    exact (List.Nodup.of_map _ db.subs.nodup).filter _
  rw [countP_eq_length_filter]
  refine (subperm_of_subset hn ?_).length_le
  intro sub hs
  have hm := mem_of_mem_take hs
  rw [mem_insertionSort] at hm
  obtain ⟨hr, hd⟩ := mem_filter.mp hm
  exact mem_filter.mpr
    ⟨hr, decide_eq_true ⟨mem_expiringUsers.mpr ⟨⟨sub, hs, rfl⟩, hu sub hr⟩, hd⟩⟩

end

variable {db' : Database}

section

def dueReset (now : Int) (sub : UserSubscription) : Bool :=
  0 < sub.nextResetTime ∧ sub.nextResetTime ≤ now ∧ sub.status = .active

/-- The next reset of the row follows the plan's schedule, on which the period advances. -/
structure Scheduled (zone : CivilCalendar.Zone) (plan : SubscriptionPlan) (sub : UserSubscription) :
    Prop where
  start_pos : 0 < sub.startTime
  progresses : Progresses zone plan sub.startTime sub.endTime
  schedule : OnSchedule (localCalendar zone) plan sub

def AllScheduled (zone : CivilCalendar.Zone) (plans : PlanTable) (db : Database) : Prop :=
  ∀ sub ∈ db.subs.rows, 0 < sub.userId ∧ ∃ plan, plans.find? sub.planId = some plan ∧ 0 < plan.id ∧
    (sub.status = .active → 0 < sub.nextResetTime → Scheduled zone plan sub)

def planEnv (cal : Calendar) (plans : PlanTable) (now : Int) (fuel : Nat) : Env where
  now := now
  calendar := cal
  plans id := require (plans.find? id) recordNotFound
  fuel := fuel

variable {plan : SubscriptionPlan}

theorem getSubscriptionPlanById_planEnv {cal : Calendar} {plans : PlanTable} {now id : Int}
    {fuel : Nat} (hf : plans.find? id = some plan)
    (hi : 0 < plan.id) : getSubscriptionPlanById (planEnv cal plans now fuel) id = .ok plan := by
  have hk : plan.id = id := key_of_find? hf
  rw [getSubscriptionPlanById, if_neg (by omega)]
  exact require_eq_ok.mpr hf

variable {zone : CivilCalendar.Zone} {plans : PlanTable} {now : Int} {fuel : Nat} {db : Database}

structure ResetsTo (zone : CivilCalendar.Zone) (plan : SubscriptionPlan) (now : Int)
    (sub row : UserSubscription) : Prop where
  refreshed : RefreshedRow sub row
  scheduled : Scheduled zone plan row
  after : row.nextResetTime = 0 ∨ now < row.nextResetTime

variable {sub row : UserSubscription}

theorem ResetsTo.not_due (h : ResetsTo zone plan now sub row) : dueReset now row = false := by
  have ha := h.after
  exact decide_eq_false (by omega)

theorem Scheduled.resetOutcome (plans : PlanTable) (h : Scheduled zone plan sub)
    (hf : now.toNat ≤ fuel) (hd : dueReset now sub = true) :
    ∃ row, resetOutcome (planEnv (localCalendar zone) plans now fuel) sub plan = .reset row ∧
      ResetsTo zone plan now sub row := by
  obtain ⟨hp, hn, _⟩ := of_decide_eq_true hd
  obtain ⟨last, next, hr⟩ :
      ∃ last next, Resets (planEnv (localCalendar zone) plans now fuel) plan sub last next :=
    OnSchedule.resets rfl h.start_pos h.progresses h.schedule hf hp hn
  exact ⟨_, hr.outcome, ⟨next, last, 0, .inr rfl, rfl⟩,
    ⟨h.start_pos, h.progresses, hr.onSchedule⟩, hr.after⟩

theorem resetLocked_cases (fl : ResetFaults)
    (h : Scheduled zone plan sub) (hf : now.toNat ≤ fuel) (hd : dueReset now sub = true)
    (hro : db.subs.find? sub.id = some sub) :
    (∃ e, resetLockedTx (planEnv (localCalendar zone) plans now fuel) fl sub.id plan db =
        .error e ∧ fl.save sub.id = some e) ∨
    (∃ e, resetLockedTx (planEnv (localCalendar zone) plans now fuel) fl sub.id plan db =
        .ok (false, db) ∧ fl.lock sub.id = some e) ∨
    ∃ row db', resetLockedTx (planEnv (localCalendar zone) plans now fuel) fl sub.id plan db =
        .ok (true, db') ∧ db'.subs = db.subs.save row ∧ ResetsTo zone plan now sub row := by
  obtain ⟨hp, hn, _⟩ := of_decide_eq_true hd
  obtain ⟨row, ho, hr⟩ := h.resetOutcome plans hf hd
  unfold resetLockedTx
  cases hl : fl.lock sub.id with
  | some e => exact .inr (.inl ⟨e, rfl, rfl⟩)
  | none =>
    rw [hro]
    dsimp only
    rw [if_pos ⟨hp, hn⟩, maybeResetUserSubscriptionWithPlanTx, ho]
    cases hs : fl.save sub.id with
    | some e => exact .inl ⟨e, rfl, rfl⟩
    | none => exact .inr (.inr ⟨row, _, rfl, rfl, hr⟩)

theorem ResetsTo.id_eq (h : ResetsTo zone plan now sub row) : row.id = sub.id := by
  obtain ⟨_, _, _, _, rfl⟩ := h.refreshed
  rfl

theorem AllScheduled.save (h : AllScheduled zone plans db) (hr : db.subs.find? sub.id = some sub)
    (hPlan : plans.find? sub.planId = some plan) (ht : ResetsTo zone plan now sub row)
    (hs : db'.subs = db.subs.save row) : AllScheduled zone plans db' := by
  intro x hx
  rw [hs] at hx
  rcases mem_save.mp hx with ⟨hm, _⟩ | ⟨rfl, _⟩
  · exact h x hm
  obtain ⟨hu, plan', hPlan', hi, _⟩ := h sub (mem_of_find? hr)
  obtain rfl := Option.some.inj (hPlan.symm.trans hPlan')
  obtain ⟨_, _, _, _, rfl⟩ := ht.refreshed
  exact ⟨hu, plan, hPlan, hi, fun _ _ => ht.scheduled⟩

structure Listed (now : Int) (db : Database) (rows : List UserSubscription) : Prop where
  nodup : (rows.map UserSubscription.id).Nodup
  current : ∀ sub ∈ rows, db.subs.find? sub.id = some sub ∧ dueReset now sub = true

variable {rest : List UserSubscription}

theorem Listed.head (h : Listed now db (sub :: rest)) (hDb : AllScheduled zone plans db) :
    db.subs.find? sub.id = some sub ∧ dueReset now sub = true ∧
      ∃ plan, plans.find? sub.planId = some plan ∧ 0 < plan.id ∧ Scheduled zone plan sub := by
  obtain ⟨hr, hd⟩ := h.current sub mem_cons_self
  obtain ⟨_, plan, hp, hi, hs⟩ := hDb sub (mem_of_find? hr)
  obtain ⟨hpo, _, ha⟩ := of_decide_eq_true hd
  exact ⟨hr, hd, plan, hp, hi, hs ha hpo⟩

theorem Listed.tail (h : Listed now db (sub :: rest)) : Listed now db rest :=
  ⟨(nodup_cons.mp h.nodup).2, fun x hx => h.current x (mem_cons_of_mem _ hx)⟩

theorem Listed.tail_save (h : Listed now db (sub :: rest)) (hr : row.id = sub.id)
    (hs : db'.subs = db.subs.save row) : Listed now db' rest := by
  refine ⟨h.tail.nodup, ?_⟩
  intro x hx
  obtain ⟨hf, hd⟩ := h.tail.current x hx
  have hn : row.id ≠ x.id := by
    intro he
    exact (nodup_cons.mp h.nodup).1 (mem_map.mpr ⟨x, hx, (hr.symm.trans he).symm⟩)
  rw [hs, find?_save_of_ne hn]
  exact ⟨hf, hd⟩

theorem resetDueRows_scheduled (fl : ResetFaults) (hf : now.toNat ≤ fuel)
    {rows : List UserSubscription} {count : Nat} (hDb : AllScheduled zone plans db)
    (hr : Listed now db rows) :
    AllScheduled zone plans
      (resetDueRows (planEnv (localCalendar zone) plans now fuel) fl rows count db).2 := by
  induction rows generalizing count db with
  | nil => exact hDb
  | cons sub rest ih =>
    obtain ⟨hro, hd, plan, hp, hi, hsc⟩ := hr.head hDb
    rw [resetDueRows, getSubscriptionPlanById_planEnv hp hi]
    dsimp only
    rcases resetLocked_cases fl hsc hf hd hro with
      ⟨e, hTx, _⟩ | ⟨e, hTx, _⟩ | ⟨row, db', hTx, hs, ht⟩
    · rw [hTx]
      exact hDb
    · rw [hTx]
      cases fl.commit sub.id with
      | some e => exact hDb
      | none => exact ih hDb hr.tail
    · rw [hTx]
      cases fl.commit sub.id with
      | some e => exact hDb
      | none =>
        exact ih (hDb.save hro hp ht hs) (hr.tail_save ht.id_eq hs)

theorem resetDueRows_count (hfu : now.toNat ≤ fuel) {rows : List UserSubscription} {count : Nat}
    (hDb : AllScheduled zone plans db) (hro : Listed now db rows) :
    (resetDueRows (planEnv (localCalendar zone) plans now fuel) {} rows count db).1 =
        (count + rows.length, none) ∧
      (resetDueRows (planEnv (localCalendar zone) plans now fuel) {} rows count
          db).2.subs.rows.countP (dueReset now) + rows.length =
        db.subs.rows.countP (dueReset now) := by
  induction rows generalizing count db with
  | nil => exact ⟨rfl, rfl⟩
  | cons sub rest ih =>
    obtain ⟨hr, hd, plan, hp, hi, hsc⟩ := hro.head hDb
    rw [resetDueRows, getSubscriptionPlanById_planEnv hp hi]
    dsimp only
    rcases resetLocked_cases {} hsc hfu hd hr with
      ⟨e, _, hf⟩ | ⟨e, _, hf⟩ | ⟨row, db', ht, hsu, hTo⟩
    · cases hf
    · cases hf
    rw [ht]
    have hs := countP_save (hTo.id_eq ▸ hr) (dueReset now)
    rw [hd, hTo.not_due, ← hsu] at hs
    obtain ⟨hc, hdu⟩ := @ih db' (count + 1) (hDb.save hr hp hTo hsu) (hro.tail_save hTo.id_eq hsu)
    rw [length_cons]
    constructor
    · exact hc.trans (by rw [Nat.add_right_comm, Nat.add_assoc])
    simp only [if_true, Bool.false_eq_true, if_false] at hs
    show (resetDueRows _ _ rest (count + 1) db').2.subs.rows.countP (dueReset now) +
      (rest.length + 1) = _
    omega

theorem dueForReset_eq (now limit : Int) (db : Database) :
    dueForReset now limit db =
      ((db.subs.rows.filter (dueReset now)).insertionSort
        (fun a b => a.nextResetTime ≤ b.nextResetTime)).take
          (if limit ≤ 0 then 200 else limit.toNat) := rfl

theorem listed_dueForReset (now limit : Int) (db : Database) :
    Listed now db (dueForReset now limit db) := by
  rw [dueForReset_eq]
  constructor
  · refine ((take_sublist _ _).map _).nodup ?_
    rw [((perm_insertionSort _ _).map _).nodup_iff]
    exact (filter_sublist.map _).nodup db.subs.nodup
  intro sub hs
  have hm := mem_of_mem_take hs
  rw [mem_insertionSort] at hm
  obtain ⟨hr, hd⟩ := mem_filter.mp hm
  exact ⟨find?_of_mem hr, hd⟩

theorem length_dueForReset (now : Int) (db : Database) :
    (dueForReset now subscriptionResetBatchSize db).length =
      min subscriptionResetBatchSize (db.subs.rows.countP (dueReset now)) := by
  rw [dueForReset_eq, length_take, length_insertionSort, countP_eq_length_filter]
  rfl

end

section

variable {zone : CivilCalendar.Zone} {plans : PlanTable} {now : Int} {fuel : Nat} {db : Database}

theorem AllScheduled.expire (h : AllScheduled zone plans db) (fl : ExpireFaults)
    (rank : Int → Nat) (limit : Int) :
    AllScheduled zone plans (expireDueSubscriptions now fl rank limit db).2 := by
  obtain ⟨done, hr⟩ := @expireDue_rows now db fl rank limit
  intro sub' hSub'
  rw [hr] at hSub'
  obtain ⟨sub, hSub, rfl⟩ := mem_map.mp hSub'
  obtain ⟨hu, plan, hp, hi, hs⟩ := h sub hSub
  unfold expiredBy
  split
  · exact ⟨hu, plan, hp, hi, fun ha => by cases ha⟩
  · exact ⟨hu, plan, hp, hi, hs⟩

theorem AllScheduled.reset (h : AllScheduled zone plans db) (fl : ResetFaults)
    (hf : now.toNat ≤ fuel) (limit : Int) :
    AllScheduled zone plans
      (resetDueSubscriptions (planEnv (localCalendar zone) plans now fuel) fl limit db).2 := by
  unfold resetDueSubscriptions
  split
  · exact h
  · exact resetDueRows_scheduled fl hf h (listed_dueForReset now limit db)

theorem expire_drains (rank : Database → Int → Nat) (h : AllScheduled zone plans db) {k : Nat}
    (hl : db.subs.rows.length = k) :
    ∃ n db', Drains subscriptionResetBatchSize
      (fun db => expireDueSubscriptions now {} (rank db) subscriptionResetBatchSize db)
      (fun db => AllScheduled zone plans db ∧ db.subs.rows.length = k)
      (fun db => ∀ sub ∈ db.subs.rows, isDue now sub = false)
      (fun db => db.subs.rows.countP (isDue now)) db n db' := by
  have hp : ∀ userId ∈ expiringUsers (rank db)
      (dueForExpiry now subscriptionResetBatchSize db), 0 < userId :=
    fun userId hm => (mem_expiringUsers.mp hm).2
  obtain ⟨hn, hr⟩ := @expireUsers_exact now db _ 0 hp
  have hc := countP_expiredBy now (expiringUsers (rank db)
    (dueForExpiry now subscriptionResetBatchSize db)) db.subs.rows
  refine ⟨_, _, Prod.ext hn rfl, ⟨h.expire {} (rank db) _, ?_⟩, ?_, ?_⟩
  · exact (congrArg length hr).trans (length_map ..|>.trans hl)
  · intro hf
    have hsi : 0 < subscriptionResetBatchSize := by decide
    show (expireUsers {} now _ 0 db).2.subs.rows.countP (isDue now) < _
    rw [hr]
    omega
  · intro hs sub' hSub'
    change sub' ∈ (expireUsers {} now _ 0 db).2.subs.rows at hSub'
    rw [hr] at hSub'
    obtain ⟨sub, hSub, rfl⟩ := mem_map.mp hSub'
    rw [isDue_expiredBy, Bool.and_eq_false_imp]
    intro hd
    -- a batch that is not full lists every due row
    have hle := @length_dueForExpiry_le now db (rank db) subscriptionResetBatchSize
      fun x hx => (h x hx).1
    have hsh : (dueForExpiry now subscriptionResetBatchSize db).length <
        subscriptionResetBatchSize := by omega
    have hm : sub ∈ dueForExpiry now subscriptionResetBatchSize db := by
      unfold dueForExpiry at hsh ⊢
      rw [length_take, length_insertionSort] at hsh
      have hsi : (if ((subscriptionResetBatchSize : Nat) : Int) ≤ 0 then 200
        else ((subscriptionResetBatchSize : Nat) : Int).toNat) = subscriptionResetBatchSize := rfl
      rw [hsi] at hsh ⊢
      rw [take_of_length_le (by rw [length_insertionSort]; omega), mem_insertionSort]
      exact mem_filter.mpr ⟨hSub, hd⟩
    simpa using mem_expiringUsers.mpr ⟨⟨sub, hm, rfl⟩, (h sub hSub).1⟩

theorem reset_drains (hfue : now.toNat ≤ fuel) (h : AllScheduled zone plans db)
    (he : ∀ sub ∈ db.subs.rows, isDue now sub = false) :
    ∃ n db', Drains subscriptionResetBatchSize
      (resetDueSubscriptions (planEnv (localCalendar zone) plans now fuel) {}
        subscriptionResetBatchSize)
      (fun db => AllScheduled zone plans db ∧ ∀ sub ∈ db.subs.rows, isDue now sub = false)
      (fun db => ∀ sub ∈ db.subs.rows, dueReset now sub = false)
      (fun db => db.subs.rows.countP (dueReset now)) db n db' := by
  have hb : resetDueSubscriptions (planEnv (localCalendar zone) plans now fuel) {}
      subscriptionResetBatchSize db = resetDueRows _ {} (dueForReset now _ db) 0 db := rfl
  obtain ⟨hc, hl⟩ := @resetDueRows_count _ _ _ _ _ hfue _ 0 h
    (listed_dueForReset now subscriptionResetBatchSize db)
  rw [← hb] at hc hl
  have hr := (resetDue_refreshes (planEnv (localCalendar zone) plans now fuel) {}
    subscriptionResetBatchSize db).frame.rows
  have hle := length_dueForReset now db
  refine ⟨_, _, Prod.ext hc rfl, ⟨h.reset {} hfue _, ?_⟩, ?_, ?_⟩
  · intro sub' hSub'
    obtain ⟨sub, hSub, _, _, _, _, rfl⟩ := hr sub' hSub'
    exact he sub hSub
  · intro hfu
    have hsi : 0 < subscriptionResetBatchSize := by decide
    show (resetDueSubscriptions _ _ _ db).2.subs.rows.countP (dueReset now) < _
    omega
  · intro hs sub hSub
    refine Bool.eq_false_iff.mpr (countP_eq_zero.mp ?_ sub hSub)
    show (resetDueSubscriptions _ _ _ db).2.subs.rows.countP (dueReset now) = 0
    omega

theorem cleanup_subs (env : Env) (fault : Fault) (olderThanSeconds : Int) (db : Database) :
    (cleanupSubscriptionPreConsumeRecords env fault olderThanSeconds db).2.subs = db.subs := by
  unfold cleanupSubscriptionPreConsumeRecords
  cases fault with
  | none => rfl
  | some e => rfl

theorem AllScheduled.run (h : AllScheduled zone plans db) (hf : now.toNat ≤ fuel)
    {fl : MaintenanceFaults} {rank : Database → Int → Nat} {cleanup : Bool}
    (hr : runSubscriptionQuotaResetOnce (planEnv (localCalendar zone) plans now fuel) fl rank
      cleanup db = some db') : AllScheduled zone plans db' := by
  unfold runSubscriptionQuotaResetOnce at hr
  split at hr
  · cases hr
  all_goals
    rename_i mid he
    have hm : AllScheduled zone plans mid :=
      drain_keeps (fun db hd => hd.expire fl.expire (rank db) _) h he
  · cases hr
    exact hm
  split at hr
  · cases hr
  all_goals
    rename_i last hrs
    have hl : AllScheduled zone plans last :=
      drain_keeps (fun db hd => hd.reset fl.reset hf _) hm hrs
    split at hr
  · cases hr
  · cases hr
    exact hl
  · cases hr
    intro sub hs
    rw [cleanup_subs] at hs
    exact hl sub hs
  · cases hr
    exact hl

theorem AllScheduled.exists_run (h : AllScheduled zone plans db) (rank : Database → Int → Nat)
    (cleanup : Bool) (hf : max now.toNat db.subs.rows.length < fuel) :
    ∃ db', runSubscriptionQuotaResetOnce (planEnv (localCalendar zone) plans now fuel) {} rank
        cleanup db = some db' ∧
      (∀ sub ∈ db'.subs.rows, isDue now sub = false) ∧
      ∀ sub ∈ db'.subs.rows, dueReset now sub = false := by
  have hs : 0 < subscriptionResetBatchSize := by decide
  have ht : now.toNat ≤ fuel := by omega
  have hdu : db.subs.rows.countP (isDue now) < fuel := countP_le_length.trans_lt (by omega)
  obtain ⟨mid, he, ⟨hm, hl⟩, hex⟩ := exists_drain hs
    (fun db hDb => expire_drains rank hDb.1 hDb.2) ⟨h, rfl⟩ hdu
  have hd : mid.subs.rows.countP (dueReset now) < fuel := countP_le_length.trans_lt (by omega)
  obtain ⟨last, hr, ⟨_, hst⟩, hdo⟩ := exists_drain hs
    (fun db hDb => reset_drains ht hDb.1 hDb.2) ⟨hm, hex⟩ hd
  unfold runSubscriptionQuotaResetOnce
  dsimp only [planEnv] at he hr ⊢
  rw [he]
  dsimp only
  rw [hr]
  dsimp only
  cases cleanup with
  | false => exact ⟨last, rfl, hst, hdo⟩
  | true =>
    refine ⟨_, rfl, ?_, ?_⟩
    · rw [cleanup_subs]
      exact hst
    · rw [cleanup_subs]
      exact hdo

end

end DeepRouter.Subscription

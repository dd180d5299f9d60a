import DeepRouter.Library.CivilCalendar
import DeepRouter.Library.Progress
import DeepRouter.Library.Runs
import DeepRouter.Subscription.Create
import DeepRouter.Subscription.Ledger
import DeepRouter.Subscription.PlanAdmin

/-! # The schedule of quota resets -/

namespace DeepRouter.Subscription

open Store Atomic KeyedTable Runs CivilCalendar Relation Progress

def localCalendar (zone : Zone) : Calendar where
  addDate := zone.addDate
  startOfDay := zone.startOfDay
  startOfMonth := zone.startOfMonth
  weekday := zone.weekday

def nextBoundary (cal : Calendar) (plan : SubscriptionPlan) (base : Int) : Option Int :=
  match normalizeResetPeriod plan.quotaResetPeriod with
  | .never => none
  | .daily => some (cal.addDate (cal.startOfDay base) 0 0 1)
  | .weekly =>
    some (cal.addDate (cal.startOfDay base) 0 0
      (8 - if cal.weekday base = 0 then 7 else cal.weekday base))
  | .monthly => some (cal.addDate (cal.startOfMonth base) 0 1 0)
  | .custom =>
    if plan.quotaResetCustomSeconds ≤ 0 then none
    else some (addDuration base (plan.quotaResetCustomSeconds * second))

theorem calcNextResetTime_eq (cal : Calendar) (base : Int) (plan : SubscriptionPlan) (eu : Int) :
    calcNextResetTime cal base plan eu =
      match nextBoundary cal plan base with
      | none => 0
      | some next => if 0 < eu ∧ eu < next then 0 else next := by
  unfold calcNextResetTime nextBoundary
  cases normalizeResetPeriod plan.quotaResetPeriod with
  | never => rfl
  | daily => rfl
  | weekly => rfl
  | monthly => rfl
  | custom =>
    dsimp only
    split
    · rfl
    · rfl

variable {cal : Calendar} {plan : SubscriptionPlan}

theorem calcNextResetTime_never {base : Int}
    {eu : Int} (h : normalizeResetPeriod plan.quotaResetPeriod = .never) :
    calcNextResetTime cal base plan eu = 0 := by
  unfold calcNextResetTime
  rw [h]

def Advances (zone : Zone) (plan : SubscriptionPlan) (t : Int) : Prop :=
  match normalizeResetPeriod plan.quotaResetPeriod with
  | .never => True
  | .custom => second ≤ plan.quotaResetCustomSeconds * second
  | _ => zone.SteadyAt t

theorem lt_addDuration {base : Int} {nanoseconds : Int64} (h : second ≤ nanoseconds) :
    base < addDuration base nanoseconds := by
  have hi : (1000000000 : Int) ≤ nanoseconds.toInt := Int64.le_iff_toInt_le.mp h
  unfold addDuration
  omega

theorem Advances.lt {zone : Zone} {t next : Int}
    (h : Advances zone plan t) (hn : nextBoundary (localCalendar zone) plan t = some next) :
    t < next := by
  unfold Advances at h
  unfold nextBoundary at hn
  cases hp : normalizeResetPeriod plan.quotaResetPeriod with
  | never =>
    rw [hp] at hn
    cases hn
  | daily =>
    rw [hp] at h hn
    cases hn
    exact h.lt_addDate_days Int.one_pos
  | weekly =>
    rw [hp] at h hn
    cases hn
    apply h.lt_addDate_days
    have hb := @Zone.weekday_bounds zone t
    show 0 < 8 - if zone.weekday t = 0 then 7 else zone.weekday t
    split <;> omega
  | monthly =>
    rw [hp] at h hn
    cases hn
    exact h.lt_addDate_month
  | custom =>
    rw [hp] at h hn
    dsimp only at hn
    split at hn
    · cases hn
    · cases hn
      exact lt_addDuration h

/-- `b` is the period start after `a`; an end that is not positive is none. -/
def Follows (cal : Calendar) (plan : SubscriptionPlan) (endTime a b : Int) : Prop :=
  nextBoundary cal plan a = some b ∧ (0 < endTime → b ≤ endTime)

theorem follows_rightUnique (cal : Calendar) (plan : SubscriptionPlan) (endTime : Int) :
    Relator.RightUnique (Follows cal plan endTime) := by
  intro a b c hb hc
  exact Option.some.inj (hb.1.symm.trans hc.1)

/-- The period advances at every time from the start of a subscription to its end. -/
def Progresses (zone : Zone) (plan : SubscriptionPlan) (start endTime : Int) : Prop :=
  ∀ t, start ≤ t → (0 < endTime → t ≤ max start endTime) → Advances zone plan t

section

variable {zone : Zone} {plan : SubscriptionPlan} {start endTime now : Int}

theorem Progresses.reached (h : Progresses zone plan start endTime) {t : Int}
    (ht : ReflTransGen (Follows (localCalendar zone) plan endTime) start t) :
    start ≤ t ∧ (0 < endTime → t ≤ max start endTime) := by
  induction ht with
  | refl => exact ⟨le_rfl, fun _ => le_max_left _ _⟩
  | tail _ hs ih =>
    have hl := (h _ ih.1 ih.2).lt hs.1
    exact ⟨ih.1.trans hl.le, fun he => (hs.2 he).trans (le_max_right _ _)⟩

theorem Advances.calcNextResetTime_cases {t : Int} (h : Advances zone plan t) (endTime : Int) :
    (calcNextResetTime (localCalendar zone) t plan endTime = 0 ∧
      ∀ next, ¬Follows (localCalendar zone) plan endTime t next) ∨
    (Follows (localCalendar zone) plan endTime t
        (calcNextResetTime (localCalendar zone) t plan endTime) ∧
      t < calcNextResetTime (localCalendar zone) t plan endTime) := by
  rw [calcNextResetTime_eq]
  cases hn : nextBoundary (localCalendar zone) plan t with
  | none =>
    refine .inl ⟨rfl, ?_⟩
    intro next hf
    cases hn.symm.trans hf.1
  | some next =>
    dsimp only
    split
    · rename_i hc
      refine .inl ⟨rfl, ?_⟩
      intro other hf
      obtain rfl := Option.some.inj (hn.symm.trans hf.1)
      have hLe := hf.2 hc.1
      omega
    · rename_i hk
      exact .inr ⟨⟨hn, fun he => not_lt.mp (fun hl => hk ⟨he, hl⟩)⟩, h.lt hn⟩

theorem Progresses.advances (h : Progresses zone plan start endTime) {t : Int}
    (ht : ReflTransGen (Follows (localCalendar zone) plan endTime) start t) :
    Advances zone plan t :=
  h t (h.reached ht).1 (h.reached ht).2

theorem Progresses.climbs (h : Progresses zone plan start endTime) :
    Climbs (Follows (localCalendar zone) plan endTime) start :=
  fun _ _ ha hs => (h.advances ha).lt hs.1

/-- It stops at the last period start or at one whose successor lies after now. -/
structure CaughtUp (cal : Calendar) (plan : SubscriptionPlan) (endTime now base : Int)
    (advanced : Bool) (last : Int) (advanced' : Bool) : Prop where
  path : ReflTransGen (Follows cal plan endTime) base last
  upTo : last ≤ max base now
  after : calcNextResetTime cal last plan endTime = 0 ∨
    now < calcNextResetTime cal last plan endTime
  moved : advanced = true ∨ (0 < calcNextResetTime cal base plan endTime ∧
    calcNextResetTime cal base plan endTime ≤ now) → advanced' = true

theorem catchUp_of_after {fuel : Nat} {base next : Int} {adv : Bool} (h : next = 0 ∨ now < next) :
    catchUp cal plan endTime now fuel base next adv = some (base, next, adv) := by
  unfold Subscription.catchUp
  rw [if_neg (by omega)]

theorem CaughtUp.of_after {base : Int} (h : calcNextResetTime cal base plan endTime = 0 ∨
      now < calcNextResetTime cal base plan endTime) (adv : Bool) :
    CaughtUp cal plan endTime now base adv base adv where
  path := .refl
  upTo := le_max_left _ _
  after := h
  moved hm := hm.resolve_right (by omega)

theorem Progresses.catchUp (h : Progresses zone plan start endTime) (hst : 0 < start)
    {fuel : Nat} {base : Int}
    (hb : ReflTransGen (Follows (localCalendar zone) plan endTime) start base)
    (hfu : (now - base).toNat ≤ fuel) (advanced : Bool) :
    ∃ last advanced', catchUp (localCalendar zone) plan endTime now fuel base
        (calcNextResetTime (localCalendar zone) base plan endTime) advanced =
          some (last, calcNextResetTime (localCalendar zone) last plan endTime, advanced') ∧
      CaughtUp (localCalendar zone) plan endTime now base advanced last advanced' := by
  induction fuel generalizing base advanced with
  | zero =>
    have ha : calcNextResetTime (localCalendar zone) base plan endTime = 0 ∨
        now < calcNextResetTime (localCalendar zone) base plan endTime := by
      rcases (h.advances hb).calcNextResetTime_cases endTime with ⟨hz, _⟩ | ⟨_, hl⟩
      · exact .inl hz
      · exact .inr (by omega)
    rw [catchUp_of_after ha]
    exact ⟨base, advanced, rfl, .of_after ha advanced⟩
  | succ fuel ih =>
    rcases (h.advances hb).calcNextResetTime_cases endTime with ⟨hz, _⟩ | ⟨hf, hl⟩
    · rw [catchUp_of_after (.inl hz)]
      exact ⟨base, advanced, rfl, .of_after (.inl hz) advanced⟩
    by_cases hd : calcNextResetTime (localCalendar zone) base plan endTime ≤ now
    · have hp : 0 < calcNextResetTime (localCalendar zone) base plan endTime := by
        have hfr := (h.reached hb).1
        omega
      obtain ⟨last, advanced', he, hla⟩ := ih (hb.tail hf) (by omega) true
      rw [Subscription.catchUp, if_pos ⟨hp, hd⟩]
      refine ⟨last, advanced', he, hla.path.head hf, ?_, hla.after, fun _ => hla.moved (.inl rfl)⟩
      have hu := hla.upTo
      omega
    · rw [catchUp_of_after (.inr (not_le.mp hd))]
      exact ⟨base, advanced, rfl, .of_after (.inr (not_le.mp hd)) advanced⟩

def resetBase (sub : UserSubscription) : Int :=
  if sub.lastResetTime ≤ 0 then sub.startTime else sub.lastResetTime

def decideReset (sub : UserSubscription) : Option (Int × Int × Bool) → ResetOutcome
  | none => .unfinished
  | some (base, next, false) =>
    if sub.nextResetTime = 0 ∧ 0 < next then
      .scheduled { sub with nextResetTime := next, lastResetTime := base }
    else .unchanged
  | some (base, next, true) =>
    .reset { sub with amountUsed := 0, lastResetTime := base, nextResetTime := next }

theorem resetOutcome_eq {env : Env} {sub : UserSubscription}
    (hd : ¬(0 < sub.nextResetTime ∧ env.now < sub.nextResetTime))
    (hp : normalizeResetPeriod plan.quotaResetPeriod ≠ .never) :
    resetOutcome env sub plan =
      decideReset sub (catchUp env.calendar plan sub.endTime env.now env.fuel (resetBase sub)
        (calcNextResetTime env.calendar (resetBase sub) plan sub.endTime) false) := by
  unfold resetOutcome
  rw [if_neg hd, if_neg hp]
  rfl

/-- The row was last reset at a period start, and its next reset is computed from there. -/
structure OnSchedule (cal : Calendar) (plan : SubscriptionPlan) (sub : UserSubscription) : Prop where
  base : ReflTransGen (Follows cal plan sub.endTime) sub.startTime (resetBase sub)
  next : sub.nextResetTime = calcNextResetTime cal (resetBase sub) plan sub.endTime

def resetRow (sub : UserSubscription) (last next : Int) : UserSubscription :=
  { sub with amountUsed := 0, lastResetTime := last, nextResetTime := next }

/-- A run resets the row up to the last period start that has passed. -/
structure Resets (env : Env) (plan : SubscriptionPlan) (sub : UserSubscription) (last next : Int) :
    Prop where
  outcome : resetOutcome env sub plan = .reset (resetRow sub last next)
  path : ReflTransGen (Follows env.calendar plan sub.endTime) sub.startTime last
  pos : 0 < last
  upTo : last ≤ env.now
  next_eq : next = calcNextResetTime env.calendar last plan sub.endTime
  after : next = 0 ∨ env.now < next

section

variable {env : Env} {sub : UserSubscription}

theorem Resets.base {last next : Int} (h : Resets env plan sub last next) :
    resetBase (resetRow sub last next) = last :=
  if_neg (not_le.mpr h.pos)

theorem Resets.onSchedule {last next : Int} (h : Resets env plan sub last next) :
    OnSchedule env.calendar plan (resetRow sub last next) where
  base := by
    rw [h.base]
    exact h.path
  next := by
    rw [h.base]
    exact h.next_eq

theorem OnSchedule.unchanged (hs : OnSchedule env.calendar plan sub)
    (hd : sub.nextResetTime = 0 ∨ env.now < sub.nextResetTime) :
    resetOutcome env sub plan = .unchanged := by
  by_cases hl : 0 < sub.nextResetTime ∧ env.now < sub.nextResetTime
  · unfold resetOutcome
    rw [if_pos hl]
  by_cases hn : normalizeResetPeriod plan.quotaResetPeriod = .never
  · unfold resetOutcome
    rw [if_neg hl, if_pos hn]
  · rw [resetOutcome_eq hl hn, ← hs.next, catchUp_of_after hd]
    exact if_neg (by omega)

theorem OnSchedule.resets (hc : env.calendar = localCalendar zone) (hs : 0 < sub.startTime)
    (hpr : Progresses zone plan sub.startTime sub.endTime)
    (hsu : OnSchedule env.calendar plan sub) (hf : env.now.toNat ≤ env.fuel)
    (hpo : 0 < sub.nextResetTime) (hd : sub.nextResetTime ≤ env.now) :
    ∃ last next, Resets env plan sub last next := by
  rw [hc] at hsu
  have hfr := (hpr.reached hsu.base).1
  have hf : (env.now - resetBase sub).toNat ≤ env.fuel := by omega
  obtain ⟨last, advanced, hca, hlas⟩ := hpr.catchUp hs hsu.base hf false
  have hne := hsu.next
  obtain rfl : advanced = true := hlas.moved (.inr (hne ▸ ⟨hpo, hd⟩))
  have hu : last ≤ env.now := by
    have hb : resetBase sub < sub.nextResetTime := by
      rcases (hpr.advances hsu.base).calcNextResetTime_cases sub.endTime with ⟨hz, _⟩ | ⟨_, hla⟩
      · omega
      · omega
    have hm := hlas.upTo
    omega
  have hp := hsu.base.trans hlas.path
  have hl := (hpr.reached hp).1
  refine ⟨last, _, ?_, hc ▸ hp, by omega, hu, rfl, hc ▸ hlas.after⟩
  have hn : normalizeResetPeriod plan.quotaResetPeriod ≠ .never := by
    intro hn
    rw [calcNextResetTime_never hn] at hne
    omega
  rw [resetOutcome_eq (by omega) hn, hc, hca]
  rfl

end

end

def ResetOutcome.row (sub : UserSubscription) : ResetOutcome → UserSubscription
  | .unchanged => sub
  | .scheduled sub' => sub'
  | .reset sub' => sub'
  | .unfinished => sub

structure ResetState where
  row : UserSubscription
  previous : Int

structure ResetCall where
  used : Int64
  now : Int
  fuel : Nat

def ResetCall.env (call : ResetCall) (env : Env) : Env :=
  { env with now := call.now, fuel := call.fuel }

def ResetState.used (s : ResetState) (call : ResetCall) : UserSubscription :=
  { s.row with amountUsed := call.used }

def ResetState.step (env : Env) (plan : SubscriptionPlan) (s : ResetState) (call : ResetCall) :
    ResetState where
  row := (resetOutcome (call.env env) (s.used call) plan).row (s.used call)
  previous := call.now

/-- A period start that has passed since the previous run, not later than the end. -/
def Passed (cal : Calendar) (plan : SubscriptionPlan) (s : ResetState) (now : Int) : Prop :=
  ∃ boundary, TransGen (Follows cal plan s.row.endTime) s.row.startTime boundary ∧
    s.previous < boundary ∧ boundary ≤ now ∧ boundary ≤ s.row.endTime

structure KeepsSchedule (env : Env) (plan : SubscriptionPlan) (s : ResetState) (call : ResetCall) :
    Prop where
  finishes : ∀ db : Database, db.subs.find? s.row.id = some (s.used call) →
    ∃ db', maybeResetUserSubscriptionWithPlanTx (call.env env) none (s.used call) plan db =
        .ok ((s.step env plan call).row, db') ∧
      db'.subs.find? s.row.id = some (s.step env plan call).row
  next : (s.step env plan call).row.nextResetTime = 0 ∨
    call.now < (s.step env plan call).row.nextResetTime
  last : (s.step env plan call).row.lastResetTime ≤ call.now
  cleared : Passed env.calendar plan s call.now → (s.step env plan call).row.amountUsed = 0
  kept : ¬Passed env.calendar plan s call.now → (s.step env plan call).row.amountUsed = call.used

structure OnTime (zone : Zone) (plan : SubscriptionPlan) (s : ResetState) : Prop where
  start_pos : 0 < s.row.startTime
  end_pos : 0 < s.row.endTime
  progresses : Progresses zone plan s.row.startTime s.row.endTime
  schedule : OnSchedule (localCalendar zone) plan s.row
  base_le : resetBase s.row ≤ s.previous
  next_after : s.row.nextResetTime = 0 ∨ s.previous < s.row.nextResetTime

section

variable {zone : Zone} {env : Env} {plan : SubscriptionPlan} {s : ResetState} {call : ResetCall}

section

variable (h : OnTime zone plan s)

include h

theorem OnTime.start_le : s.row.startTime ≤ s.previous :=
  (h.progresses.reached h.schedule.base).1.trans h.base_le

theorem OnTime.last_le : s.row.lastResetTime ≤ s.previous := by
  have hb := h.base_le
  have hs := h.start_le
  have hp := h.start_pos
  unfold resetBase at hb
  split at hb <;> omega

theorem OnTime.next_cases :
    (s.row.nextResetTime = 0 ∧ ∀ next,
      ¬Follows (localCalendar zone) plan s.row.endTime (resetBase s.row) next) ∨
    (Follows (localCalendar zone) plan s.row.endTime (resetBase s.row) s.row.nextResetTime ∧
      resetBase s.row < s.row.nextResetTime) := by
  rw [h.schedule.next]
  exact (h.progresses.advances h.schedule.base).calcNextResetTime_cases _

theorem OnTime.used_onSchedule (hc : env.calendar = localCalendar zone) (call : ResetCall) :
    OnSchedule (call.env env).calendar plan (s.used call) := by
  show OnSchedule env.calendar plan (s.used call)
  rw [hc]
  exact ⟨h.schedule.base, h.schedule.next⟩

theorem OnTime.next_le {boundary : Int}
    (hb : TransGen (Follows (localCalendar zone) plan s.row.endTime) s.row.startTime boundary)
    (hl : s.previous < boundary) : s.row.nextResetTime ≠ 0 ∧ s.row.nextResetTime ≤ boundary := by
  obtain ⟨c, hf, hLe⟩ := h.progresses.climbs.exists_step_le
    (follows_rightUnique _ _ _) h.schedule.base hb.to_reflTransGen
    (h.base_le.trans_lt hl)
  rcases h.next_cases with ⟨_, hn⟩ | ⟨hne, hLt⟩
  · exact absurd hf (hn c)
  obtain rfl := follows_rightUnique _ _ _ hne hf
  have hfr := (h.progresses.reached h.schedule.base).1
  have hp := h.start_pos
  exact ⟨by omega, hLe⟩

theorem OnTime.passed {now : Int} (hp : 0 < s.row.nextResetTime) (hd : s.row.nextResetTime ≤ now) :
    Passed (localCalendar zone) plan s now := by
  rcases h.next_cases with ⟨hz, _⟩ | ⟨hn, _⟩
  · omega
  · have ha := h.next_after
    exact ⟨_, .tail' h.schedule.base hn, by omega, hd, hn.2 h.end_pos⟩

theorem OnTime.step_unchanged (hc : env.calendar = localCalendar zone) (ht : s.previous ≤ call.now)
    (hno : s.row.nextResetTime = 0 ∨ call.now < s.row.nextResetTime) :
    OnTime zone plan (s.step env plan call) ∧ KeepsSchedule env plan s call := by
  have ho := (h.used_onSchedule hc call).unchanged hno
  have hst : s.step env plan call = ⟨s.used call, call.now⟩ := by
    unfold ResetState.step
    rw [ho]
    rfl
  constructor
  · rw [hst]
    exact ⟨h.start_pos, h.end_pos, h.progresses, ⟨h.schedule.base, h.schedule.next⟩,
      h.base_le.trans ht, hno⟩
  refine ⟨?_, ?_, ?_, ?_, ?_⟩
  · intro db hr
    rw [hst, maybeResetUserSubscriptionWithPlanTx, ho]
    exact ⟨db, rfl, hr⟩
  · rw [hst]
    exact hno
  · rw [hst]
    exact h.last_le.trans ht
  · rw [hc]
    rintro ⟨boundary, hb, hl, hn, _⟩
    obtain ⟨hNe, hLe⟩ := h.next_le hb hl
    omega
  · intro _
    rw [hst]
    rfl

theorem OnTime.step_reset (hc : env.calendar = localCalendar zone) (hf : call.now.toNat ≤ call.fuel)
    (hp : 0 < s.row.nextResetTime) (hd : s.row.nextResetTime ≤ call.now) :
    OnTime zone plan (s.step env plan call) ∧ KeepsSchedule env plan s call := by
  obtain ⟨last, next, hrs⟩ : ∃ last next, Resets (call.env env) plan (s.used call) last next :=
    OnSchedule.resets hc h.start_pos h.progresses (h.used_onSchedule hc call) hf hp hd
  have hst : s.step env plan call = ⟨resetRow (s.used call) last next, call.now⟩ := by
    unfold ResetState.step
    rw [hrs.outcome]
    rfl
  constructor
  · rw [hst]
    refine ⟨h.start_pos, h.end_pos, h.progresses, hc ▸ hrs.onSchedule, ?_, hrs.after⟩
    rw [hrs.base]
    exact hrs.upTo
  · refine ⟨?_, ?_, ?_, ?_, ?_⟩
    · intro db hr
      rw [hst, maybeResetUserSubscriptionWithPlanTx, hrs.outcome]
      exact ⟨_, rfl, Table.find?_save_self hr⟩
    · rw [hst]
      exact hrs.after
    · rw [hst]
      exact hrs.upTo
    · intro _
      rw [hst]
      rfl
    · intro hn
      exact absurd (hc ▸ h.passed hp hd) hn

theorem OnTime.step (hc : env.calendar = localCalendar zone) (ht : s.previous ≤ call.now)
    (hf : call.now.toNat ≤ call.fuel) :
    OnTime zone plan (s.step env plan call) ∧ KeepsSchedule env plan s call := by
  by_cases hd : 0 < s.row.nextResetTime ∧ s.row.nextResetTime ≤ call.now
  · exact h.step_reset hc hf hd.1 hd.2
  apply h.step_unchanged hc ht
  have ha := h.next_after
  have hs := h.start_le
  have hp := h.start_pos
  omega

end

theorem resetBase_newSubscription (env : Env) (newId uid : Int) (plan : SubscriptionPlan)
    (src : String) (eu : Int) (pg : String) :
    resetBase (newSubscription env newId uid plan src eu pg) = env.now := by
  unfold resetBase newSubscription
  dsimp only
  split
  · exact ite_self _
  · exact if_pos le_rfl

theorem onSchedule_newSubscription (env : Env) (newId uid : Int) (plan : SubscriptionPlan)
    (src : String) (eu : Int) (pg : String) :
    OnSchedule env.calendar plan (newSubscription env newId uid plan src eu pg) where
  base := by
    rw [resetBase_newSubscription]
    exact .refl
  next := by
    rw [resetBase_newSubscription]
    rfl

theorem onTime_newSubscription (hc : env.calendar = localCalendar zone) (hn : 0 < env.now)
    {newId uid eu : Int} {src pg : String} (he : 0 < eu) (hp : Progresses zone plan env.now eu) :
    OnTime zone plan ⟨newSubscription env newId uid plan src eu pg, env.now⟩ := by
  refine ⟨hn, he, hp, hc ▸ onSchedule_newSubscription _ _ _ _ _ _ _,
    (resetBase_newSubscription _ _ _ _ _ _ _).le, ?_⟩
  show calcNextResetTime env.calendar env.now plan eu = 0 ∨
    env.now < calcNextResetTime env.calendar env.now plan eu
  rw [hc]
  exact ((hp.advances .refl).calcNextResetTime_cases eu).imp And.left And.right

end

/-- While the period of the plan advances, the catch-up loop ends and every run leaves the row on
schedule. -/
theorem resets_keep_schedule {zone : Zone} {env : Env} {faults : CreateFaults} {newId userId : Int}
    {plan : SubscriptionPlan} {source : String} {db db' : Database} {sub : UserSubscription}
    (hCal : env.calendar = localCalendar zone) (hNow : 0 < env.now)
    (hCreate : createUserSubscriptionFromPlanTx env faults newId userId plan source db =
      .ok (sub, db'))
    (hEnd : 0 < sub.endTime) (hProgress : Progresses zone plan env.now sub.endTime) :
    (∀ base, env.now ≤ base → base ≤ max env.now sub.endTime → calcNextResetTime env.calendar base
      plan sub.endTime = 0 ∨ base < calcNextResetTime env.calendar base plan sub.endTime) ∧
    ∀ calls : List ResetCall,
      Along (ResetState.step env plan)
        (fun s call => s.previous ≤ call.now ∧ call.now.toNat ≤ call.fuel) ⟨sub, env.now⟩ calls →
      Along (ResetState.step env plan) (KeepsSchedule env plan) ⟨sub, env.now⟩ calls := by
  obtain ⟨endUnix, prevGroup, mid, hcr⟩ := create_ok hCreate
  constructor
  · intro base hf ht
    rw [hCal]
    exact ((hProgress base hf fun _ => ht).calcNextResetTime_cases _).imp And.left And.right
  intro calls hc
  have hfs : OnTime zone plan ⟨sub, env.now⟩ := by
    rw [hcr.row] at hEnd hProgress ⊢
    exact onTime_newSubscription hCal hNow hEnd hProgress
  refine along_imp ?_ ?_ hfs hc
  · intro s call hs hca
    exact (hs.step hCal hca.1 hca.2).1
  · intro s call hs hca
    exact (hs.step hCal hca.1 hca.2).2

def thirtyDays (quotaResetPeriod : String) (quotaResetCustomSeconds : Int64) : SubscriptionPlan where
  id := 1
  title := "Basic"
  durationUnit := .day
  durationValue := 30
  customSeconds := 0
  maxPurchasePerUser := 0
  upgradeGroup := ""
  totalAmount := 1000
  quotaResetPeriod := quotaResetPeriod
  quotaResetCustomSeconds := quotaResetCustomSeconds

def utcEnv (now : Int) (fuel : Nat) : Env where
  now := now
  calendar := localCalendar (.fixed 0)
  plans _ := .error recordNotFound
  fuel := fuel

def boughtAt (now : Int) (plan : SubscriptionPlan) : UserSubscription :=
  newSubscription (utcEnv now 0) 1 7 plan "order" (now + 30 * 86400) ""

theorem progresses_daily_fixed (offset start endTime : Int) :
    Progresses (.fixed offset) (thirtyDays "daily" 0) start endTime := by
  intro t _ _
  have hd : normalizeResetPeriod (thirtyDays "daily" 0).quotaResetPeriod = .daily := by decide
  unfold Advances
  rw [hd]
  exact Zone.steadyAt_fixed offset t

theorem resets_keep_schedule_daily :
    Along (ResetState.step (utcEnv 100000 0) (thirtyDays "daily" 0))
      (KeepsSchedule (utcEnv 100000 0) (thirtyDays "daily" 0))
      ⟨boughtAt 100000 (thirtyDays "daily" 0), 100000⟩
      [⟨40, 360000, 400000⟩, ⟨15, 363600, 400000⟩] := by
  have hc : ∃ db', createUserSubscriptionFromPlanTx (utcEnv 100000 0) {} 1 7
      (thirtyDays "daily" 0) "order" .initial =
        .ok (boughtAt 100000 (thirtyDays "daily" 0), db') := ⟨_, rfl⟩
  obtain ⟨db', hc⟩ := hc
  refine (resets_keep_schedule rfl (by decide) hc (by decide) (progresses_daily_fixed 0 _ _)).2 _ ?_
  refine ⟨⟨?_, ?_⟩, ⟨?_, ?_⟩, trivial⟩ <;> decide

theorem catchUp_stuck {endTime now next : Int}
    (hn : calcNextResetTime cal next plan endTime = next) (hp : 0 < next) (hd : next ≤ now)
    (fuel : Nat) (base : Int) (adv : Bool) :
    catchUp cal plan endTime now fuel base next adv = none := by
  induction fuel generalizing base adv with
  | zero =>
    unfold catchUp
    rw [if_pos ⟨hp, hd⟩]
  | succ fuel ih =>
    unfold catchUp
    rw [if_pos ⟨hp, hd⟩, hn]
    exact ih next true

/-- Where a due period start is followed by itself, a run on the row never ends. -/
theorem resetOutcome_stuck {env : Env} {sub : UserSubscription} {next : Int}
    (hn : calcNextResetTime env.calendar (resetBase sub) plan sub.endTime = next)
    (ha : calcNextResetTime env.calendar next plan sub.endTime = next) (hpo : 0 < next)
    (hp : next ≤ env.now) (hd : sub.nextResetTime ≤ env.now) :
    resetOutcome env sub plan = .unfinished := by
  have hne : normalizeResetPeriod plan.quotaResetPeriod ≠ .never := by
    intro hne
    rw [calcNextResetTime_never hne] at ha
    omega
  rw [resetOutcome_eq (by omega) hne, hn, catchUp_stuck ha hpo hp]
  rfl

theorem wrapped_period_never_ends :
    ((adminCreateSubscriptionPlan (fun _ => true) none 1
        ⟨thirtyDays "custom" 36028797018963968, 0⟩ (.empty _)).map Prod.fst).toOption =
      some (thirtyDays "custom" 36028797018963968) ∧
    ((createUserSubscriptionFromPlanTx (utcEnv 100000 0) {} 1 7
        (thirtyDays "custom" 36028797018963968) "order" .initial).map Prod.fst).toOption =
      some (boughtAt 100000 (thirtyDays "custom" 36028797018963968)) ∧
    (boughtAt 100000 (thirtyDays "custom" 36028797018963968)).nextResetTime = 100000 ∧
    ∀ fuel, resetOutcome (utcEnv 100060 fuel)
      (boughtAt 100000 (thirtyDays "custom" 36028797018963968))
      (thirtyDays "custom" 36028797018963968) = .unfinished := by
  refine ⟨by decide, by decide, by decide, ?_⟩
  intro fuel
  have hn : calcNextResetTime (localCalendar (.fixed 0))
      (resetBase (boughtAt 100000 (thirtyDays "custom" 36028797018963968)))
      (thirtyDays "custom" 36028797018963968)
      (boughtAt 100000 (thirtyDays "custom" 36028797018963968)).endTime = 100000 := by decide
  have ha : calcNextResetTime (localCalendar (.fixed 0)) 100000
      (thirtyDays "custom" 36028797018963968)
      (boughtAt 100000 (thirtyDays "custom" 36028797018963968)).endTime = 100000 := by decide
  have hd : (boughtAt 100000 (thirtyDays "custom" 36028797018963968)).nextResetTime ≤ 100060 := by
    decide
  have hp : (100000 : Int) ≤ 100060 := by decide
  exact resetOutcome_stuck hn ha (by decide) hp hd

/-- The clock goes from 24:00 of the first day to 1:00. `time.Date` answers 23:00 for the skipped
midnight. -/
example :
    let zone : Zone := ⟨fun t => if t < 100800 then ⟨-14400, none, some 100800⟩ else
      ⟨-10800, some 100800, none⟩⟩
    zone.clock (zone.midnight 1) = 23 * 3600 ∧
      calcNextResetTime (localCalendar zone) (zone.midnight 1) (thirtyDays "daily" 0) 0 =
        zone.midnight 1 := by
  decide

end DeepRouter.Subscription

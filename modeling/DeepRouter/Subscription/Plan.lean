import DeepRouter.Store.Schema

/-! # Plan durations and quota reset times

Times are Unix seconds, and the calendar of the server's zone is a parameter. A `time.Duration` is an
`int64` number of nanoseconds, so a product with a large number of seconds wraps around. -/

namespace DeepRouter.Subscription

open Store GoStrings

structure Calendar where
  addDate : (t years months days : Int) → Int
  (startOfDay startOfMonth weekday : Int → Int)

/-- The clock, the calendar, the plan lookup, and a bound on the turns of the catch-up loop. -/
structure Env where
  now : Int
  calendar : Calendar
  plans : Int → Except Err SubscriptionPlan
  fuel : Nat

def addDuration (t : Int) (nanoseconds : Int64) : Int := t + nanoseconds.toInt / 1000000000

def second : Int64 := 1000000000

def hour : Int64 := 3600000000000

def calcPlanEndTime (cal : Calendar) (start : Int) (plan : SubscriptionPlan) : Except Err Int :=
  if plan.durationValue ≤ 0 ∧ plan.durationUnit ≠ .custom then
    .error "duration_value must be > 0"
  else
    match plan.durationUnit with
    | .year => .ok (cal.addDate start plan.durationValue.toInt 0 0)
    | .month => .ok (cal.addDate start 0 plan.durationValue.toInt 0)
    | .day => .ok (addDuration start (plan.durationValue * 24 * hour))
    | .hour => .ok (addDuration start (plan.durationValue * hour))
    | .custom =>
      if plan.customSeconds ≤ 0 then .error "custom_seconds must be > 0"
      else .ok (addDuration start (plan.customSeconds * second))
    | .other name => .error ("invalid duration_unit: " ++ name)

def normalizeResetPeriod (period : String) : ResetPeriod :=
  if trimSpace period = "daily" then .daily
  else if trimSpace period = "weekly" then .weekly
  else if trimSpace period = "monthly" then .monthly
  else if trimSpace period = "custom" then .custom
  else .never

/-- The start of the quota period after the one of `base`, and 0 for none. -/
def calcNextResetTime (cal : Calendar) (base : Int) (plan : SubscriptionPlan) (endUnix : Int) : Int :=
  let cut (next : Int) : Int := if 0 < endUnix ∧ endUnix < next then 0 else next
  match normalizeResetPeriod plan.quotaResetPeriod with
  | .never => 0
  | .daily => cut (cal.addDate (cal.startOfDay base) 0 0 1)
  | .weekly =>
    let weekday := if cal.weekday base = 0 then 7 else cal.weekday base
    cut (cal.addDate (cal.startOfDay base) 0 0 (8 - weekday))
  | .monthly => cut (cal.addDate (cal.startOfMonth base) 0 1 0)
  | .custom =>
    if plan.quotaResetCustomSeconds ≤ 0 then 0
    else cut (addDuration base (plan.quotaResetCustomSeconds * second))

/-- The loop `for next > 0 && next <= now`; `none` when it is still running after `fuel` turns. -/
def catchUp (cal : Calendar) (plan : SubscriptionPlan) (endTime now : Int) :
    Nat → Int → Int → Bool → Option (Int × Int × Bool)
  | fuel, base, next, advanced =>
    if 0 < next ∧ next ≤ now then
      match fuel with
      | 0 => none
      | fuel + 1 => catchUp cal plan endTime now fuel next (calcNextResetTime cal next plan endTime) true
    else some (base, next, advanced)

inductive ResetOutcome where
  | unchanged
  | scheduled (sub : UserSubscription)
  | reset (sub : UserSubscription)
  | unfinished

def resetOutcome (env : Env) (sub : UserSubscription) (plan : SubscriptionPlan) : ResetOutcome :=
  if 0 < sub.nextResetTime ∧ env.now < sub.nextResetTime then .unchanged
  else if normalizeResetPeriod plan.quotaResetPeriod = .never then .unchanged
  else
    let base := if sub.lastResetTime ≤ 0 then sub.startTime else sub.lastResetTime
    let next := calcNextResetTime env.calendar base plan sub.endTime
    match catchUp env.calendar plan sub.endTime env.now env.fuel base next false with
    | none => .unfinished
    | some (base, next, false) =>
      if sub.nextResetTime = 0 ∧ 0 < next then
        .scheduled { sub with nextResetTime := next, lastResetTime := base }
      else .unchanged
    | some (base, next, true) =>
      .reset { sub with amountUsed := 0, lastResetTime := base, nextResetTime := next }

theorem resetOutcome_cases (env : Env) (sub : UserSubscription) (plan : SubscriptionPlan) :
    resetOutcome env sub plan = .unchanged ∨ resetOutcome env sub plan = .unfinished ∨
    (∃ next last, resetOutcome env sub plan =
      .scheduled { sub with nextResetTime := next, lastResetTime := last }) ∨
    ∃ next last, resetOutcome env sub plan =
      .reset { sub with amountUsed := 0, nextResetTime := next, lastResetTime := last } := by
  unfold resetOutcome
  split
  · exact .inl rfl
  split
  · exact .inl rfl
  dsimp only
  split
  · exact .inr (.inl rfl)
  · split
    · exact .inr (.inr (.inl ⟨_, _, rfl⟩))
    · exact .inl rfl
  · exact .inr (.inr (.inr ⟨_, _, rfl⟩))

theorem resetOutcome_scheduled {env : Env} {sub sub' : UserSubscription} {plan : SubscriptionPlan}
    (h : resetOutcome env sub plan = .scheduled sub') :
    ∃ next last, sub' = { sub with nextResetTime := next, lastResetTime := last } := by
  rcases resetOutcome_cases env sub plan with he | he | ⟨next, last, he⟩ | ⟨next, last, he⟩
  · cases h.symm.trans he
  · cases h.symm.trans he
  · cases h.symm.trans he
    exact ⟨next, last, rfl⟩
  · cases h.symm.trans he

theorem resetOutcome_reset {env : Env} {sub sub' : UserSubscription} {plan : SubscriptionPlan}
    (h : resetOutcome env sub plan = .reset sub') :
    ∃ next last, sub' = { sub with amountUsed := 0, nextResetTime := next, lastResetTime := last } := by
  rcases resetOutcome_cases env sub plan with he | he | ⟨next, last, he⟩ | ⟨next, last, he⟩
  · cases h.symm.trans he
  · cases h.symm.trans he
  · cases h.symm.trans he
  · cases h.symm.trans he
    exact ⟨next, last, rfl⟩

end DeepRouter.Subscription

import DeepRouter.Tasks.PollingSpec

/-! # Concurrent workers on the tasks table -/

namespace DeepRouter.Tasks

open Store KeyedTable Billing Runs

/-- It holds a copy, owes the refund of a swept task, has written a plan and bills it next, or saves
a Suno copy. -/
inductive Worker where
  | idle
  | holding (copy : Task)
  | refunding (copy : Task)
  | billing (plan : VideoPlan)
  | saving (copy : Task) (refunded : Bool)

structure Crew where
  world : World
  workers : Nat → Worker

def Crew.set (s : Crew) (i : Nat) (worker : Worker) (world : World) : Crew :=
  ⟨world, Function.update s.workers i worker⟩

inductive CrewOp where
  | read (i : Nat) (id : Int)
  | sweep (i : Nat) (fault : Fault) (taskTimeoutMinutes now : Int)
  | refund (i : Nat) (calls : BillingCalls)
  | video (i : Nat) (env : VideoEnv) (fault : Fault) (taskId : String) (answer : VideoAnswer)
  | bill (i : Nat) (calls : TaskSettleCalls)
  | suno (i : Nat) (calls : BillingCalls) (item : SunoDataResponse)
  | save (i : Nat) (fault : Fault)

def readTask (s : Crew) (i : Nat) (id : Int) : Crew :=
  match s.world.tasks.find? id with
  | none => s
  | some row => if row.Unfinished then s.set i (.holding row) s.world else s

def sweepStep (s : Crew) (i : Nat) (copy : Task) (fault : Fault) (taskTimeoutMinutes now : Int) :
    Crew :=
  let (refund, tasks) := sweepWrite fault taskTimeoutMinutes now copy s.world.tasks
  s.set i (if refund then .refunding (timedOut taskTimeoutMinutes now copy) else .idle)
    { s.world with tasks }

def videoStep (s : Crew) (i : Nat) (copy : Task) (env : VideoEnv) (fault : Fault) (taskId : String)
    (answer : VideoAnswer) : Crew :=
  match readVideo env taskId answer copy with
  | .stopped copy _ => s.set i (.holding copy) s.world
  | .planned plan =>
    let (plan, tasks) := writeVideo fault copy plan s.world.tasks
    s.set i (.billing plan) { s.world with tasks }

def billStep (s : Crew) (i : Nat) (plan : VideoPlan) (calls : TaskSettleCalls) : Crew :=
  let (copy, world) := billVideo calls plan s.world
  s.set i (.holding copy) world

def sunoStep (s : Crew) (i : Nat) (copy : Task) (calls : BillingCalls) (item : SunoDataResponse) :
    Crew :=
  if taskNeedsUpdate copy item then
    s.set i (.saving (sunoSaved copy item) (sunoFails copy item))
      (if sunoFails copy item then refundTaskQuota calls (sunoFailed copy item) s.world else s.world)
  else s

def saveStep (s : Crew) (i : Nat) (copy : Task) (fault : Fault) : Crew :=
  s.set i (.holding copy) { s.world with tasks := (update fault copy s.world.tasks).2 }

/-- One step of worker `i`; a step that it is not ready for does nothing. -/
def crewStep (s : Crew) : CrewOp → Crew
  | .read i id =>
    match s.workers i with
    | .idle => readTask s i id
    | .holding _ => readTask s i id
    | _ => s
  | .sweep i fault taskTimeoutMinutes now =>
    match s.workers i with
    | .holding copy => sweepStep s i copy fault taskTimeoutMinutes now
    | _ => s
  | .refund i calls =>
    match s.workers i with
    | .refunding copy => s.set i .idle (refundTaskQuota calls copy s.world)
    | _ => s
  | .video i env fault taskId answer =>
    match s.workers i with
    | .holding copy => videoStep s i copy env fault taskId answer
    | _ => s
  | .bill i calls =>
    match s.workers i with
    | .billing plan => billStep s i plan calls
    | _ => s
  | .suno i calls item =>
    match s.workers i with
    | .holding copy => sunoStep s i copy calls item
    | _ => s
  | .save i fault =>
    match s.workers i with
    | .saving copy _ => saveStep s i copy fault
    | _ => s

section

variable {s : Crew} {i : Nat} {copy : Task}

@[simp] theorem set_world (worker : Worker) (world : World) : (s.set i worker world).world = world :=
  rfl

@[simp] theorem set_workers_self (worker : Worker) (world : World) :
    (s.set i worker world).workers i = worker := Function.update_self ..

theorem set_workers_of_ne {j : Nat} (hj : j ≠ i) (worker : Worker) (world : World) :
    (s.set i worker world).workers j = s.workers j := Function.update_of_ne hj ..

theorem run_sweep (h : s.workers i = .holding copy) (fault : Fault) (calls : BillingCalls)
    (mins now : Int) :
    (run crewStep s [.sweep i fault mins now, .refund i calls]).world =
      sweepTask fault calls mins now copy s.world := by
  simp only [run_cons, run_nil, crewStep, h, sweepStep, set_workers_self, sweepTask]
  cases (sweepWrite fault mins now copy s.world.tasks).1 with
  | false => rfl
  | true => rfl

theorem run_video (h : s.workers i = .holding copy) (env : VideoEnv) (fault : Fault)
    (calls : TaskSettleCalls) (taskId : String) (answer : VideoAnswer) :
    (run crewStep s [.video i env fault taskId answer, .bill i calls]).world =
      (updateVideoSingleTask env fault calls taskId answer copy s.world).2 := by
  simp only [run_cons, run_nil, crewStep, h, videoStep, updateVideoSingleTask]
  cases readVideo env taskId answer copy with
  | stopped copy' e => simp only [set_workers_self, set_world]
  | planned plan => simp only [set_workers_self, billStep, set_world]

theorem run_suno (h : s.workers i = .holding copy) (fault : Fault) (calls : BillingCalls)
    (item : SunoDataResponse) :
    (run crewStep s [.suno i calls item, .save i fault]).world =
      (updateSunoTask fault calls item copy s.world).2 := by
  simp only [run_cons, run_nil, crewStep, h, sunoStep, updateSunoTask]
  cases taskNeedsUpdate copy item with
  | false => simp only [Bool.false_eq_true, if_false, h]
  | true => simp only [if_true, set_workers_self, saveStep, set_world]

end

end DeepRouter.Tasks

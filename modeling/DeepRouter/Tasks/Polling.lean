import DeepRouter.Tasks.Billing

/-! # Polling one task

Each poll is given in the parts between which other workers can run. -/

namespace DeepRouter.Tasks

open Store KeyedTable Billing

/-! ## Timed-out tasks -/

def legacyTaskCutoff : Int := 1740182400

def isLegacy (task : Task) : Bool := 0 < task.submitTime ∧ task.submitTime < legacyTaskCutoff

def timedOut (taskTimeoutMinutes now : Int) (task : Task) : Task :=
  { task with
    status := .failure
    progress := "100%"
    finishTime := now
    failReason :=
      if isLegacy task then "任务超时（旧系统遗留任务，不进行退款，请联系管理员）"
      else "任务超时（" ++ toString taskTimeoutMinutes ++ "分钟）" }

def sweepWrite (fault : Fault) (taskTimeoutMinutes now : Int) (task : Task) (tasks : TaskTable) :
    Bool × TaskTable :=
  match updateWithStatus fault (timedOut taskTimeoutMinutes now task) task.status tasks with
  | (.ok true, tasks) => (!isLegacy task && task.quota ≠ 0, tasks)
  | (_, tasks) => (false, tasks)

def sweepTask (fault : Fault) (calls : BillingCalls) (taskTimeoutMinutes now : Int) (task : Task)
    (w : World) : World :=
  let (refund, tasks) := sweepWrite fault taskTimeoutMinutes now task w.tasks
  if refund then refundTaskQuota calls (timedOut taskTimeoutMinutes now task) { w with tasks }
  else { w with tasks }

/-! ## Video tasks -/

/-- The task of a New API answer, the parse of the adaptor, the code of an OpenAI error, and the
text kept in the row. -/
structure VideoBody where
  newApi : Option TaskInfo := none
  parsed : Except Err TaskInfo
  generalError : Option (Option String) := none
  redacted : String

inductive VideoAnswer where
  | fetchFailed (e : Err)
  | readFailed (e : Err)
  | body (body : VideoBody)

def failTaskInfo (reason : String) : TaskInfo := { status := .failure, reason }

/-- `none` when the upstream limits the rate of requests. An empty status stays empty when the body
is no general answer. -/
def VideoBody.taskResult (body : VideoBody) (info : TaskInfo) : Option TaskInfo :=
  if info.status ≠ .unset then some info
  else
    match body.generalError with
    | none => some info
    | some (some code) =>
      if code = "429" then none else some (failTaskInfo "upstream returned error")
    | some none => some (failTaskInfo "upstream returned unrecognized message")

structure VideoPlan where
  task : Task
  taskResult : TaskInfo
  (shouldRefund shouldSettle : Bool := false)

inductive VideoOutcome where
  | stopped (task : Task) (error : Option Err)
  | planned (plan : VideoPlan)

structure VideoEnv where
  now : Int
  buildProxyURL : String → String

def resultURL (env : VideoEnv) (task : Task) (url : String) : String :=
  if url.startsWith "data:" then env.buildProxyURL task.taskID
  else if url ≠ "" then url
  else env.buildProxyURL task.taskID

def statusPlan (env : VideoEnv) (task : Task) (taskResult : TaskInfo) : Option VideoPlan :=
  let task : Task := { task with status := taskResult.status }
  let finishTime := if task.finishTime = 0 then env.now else task.finishTime
  match taskResult.status with
  | .submitted => some { task := { task with progress := "10%" }, taskResult }
  | .queued => some { task := { task with progress := "20%" }, taskResult }
  | .inProgress =>
    some
      { task :=
          { task with
            progress := "30%"
            startTime := if task.startTime = 0 then env.now else task.startTime }
        taskResult }
  | .success =>
    some
      { task :=
          { task with
            progress := "100%"
            finishTime
            privateData :=
              { task.privateData with resultURL := resultURL env task taskResult.url } }
        taskResult
        shouldSettle := true }
  | .failure =>
    some
      { task := { task with progress := "100%", finishTime, failReason := taskResult.reason }
        taskResult := { taskResult with progress := "100%" }
        shouldRefund := task.quota ≠ 0 }
  | _ => none

def VideoPlan.withProgress (plan : VideoPlan) : VideoPlan :=
  if plan.taskResult.progress ≠ "" then
    { plan with task := { plan.task with progress := plan.taskResult.progress } }
  else plan

def readVideo (env : VideoEnv) (taskId : String) (answer : VideoAnswer) (task : Task) :
    VideoOutcome :=
  match answer with
  | .fetchFailed e => .stopped task (some ("fetchTask failed for task " ++ taskId ++ ": " ++ e))
  | .readFailed e => .stopped task (some ("readAll failed for task " ++ taskId ++ ": " ++ e))
  | .body body =>
    match body.newApi.elim body.parsed fun t => .ok { t with totalTokens := 0 } with
    | .error e => .stopped task (some ("parseTaskResult failed for task " ++ taskId ++ ": " ++ e))
    | .ok info =>
      let task : Task := { task with data := body.redacted }
      match body.taskResult info with
      | none => .stopped task none
      | some taskResult =>
        match statusPlan env task taskResult with
        | none =>
          .stopped { task with status := taskResult.status }
            (some ("unknown task status " ++ taskResult.status.text ++ " for task " ++ task.taskID))
        | some plan => .planned plan.withProgress

/-- Who loses the conditional update to a final status does not bill. -/
def writeVideo (fault : Fault) (snap : Task) (plan : VideoPlan) (tasks : TaskTable) :
    VideoPlan × TaskTable :=
  if plan.task.status.Final ∧ snap.status ≠ plan.task.status then
    match updateWithStatus fault plan.task snap.status tasks with
    | (.ok true, tasks) => (plan, tasks)
    | (_, tasks) => ({ plan with shouldRefund := false, shouldSettle := false }, tasks)
  else if snap.snapshot ≠ plan.task.snapshot then
    (plan, (updateWithStatus fault plan.task snap.status tasks).2)
  else (plan, tasks)

def billVideo (calls : TaskSettleCalls) (plan : VideoPlan) (w : World) : Task × World :=
  let (task, w) :=
    if plan.shouldSettle then settleTaskBillingOnComplete calls plan.task plan.taskResult w
    else (plan.task, w)
  (task, if plan.shouldRefund then refundTaskQuota calls.billing task w else w)

def updateVideoSingleTask (env : VideoEnv) (fault : Fault) (calls : TaskSettleCalls)
    (taskId : String) (answer : VideoAnswer) (task : Task) (w : World) : Task × World :=
  match readVideo env taskId answer task with
  | .stopped task _ => (task, w)
  | .planned plan =>
    let (plan, tasks) := writeVideo fault task plan w.tasks
    billVideo calls plan { w with tasks }

/-! ## Suno tasks -/

structure SunoDataResponse where
  taskID : String
  status : TaskStatus
  failReason : String
  (submitTime startTime finishTime : Int)
  data : String

/-- The bytes of the two data are compared after sorting. -/
def taskNeedsUpdate (oldTask : Task) (newTask : SunoDataResponse) : Bool :=
  oldTask.submitTime ≠ newTask.submitTime ∨ oldTask.startTime ≠ newTask.startTime ∨
    oldTask.finishTime ≠ newTask.finishTime ∨ oldTask.status ≠ newTask.status ∨
    oldTask.failReason ≠ newTask.failReason ∨
    (oldTask.status.Final ∧ oldTask.progress ≠ "100%") ∨
    ¬oldTask.data.toUTF8.data.toList.Perm newTask.data.toUTF8.data.toList

/-- An answer overrides the columns that it has a value for. -/
def sunoMerged (task : Task) (item : SunoDataResponse) : Task :=
  { task with
    status := if item.status ≠ .unset then item.status else task.status
    failReason := if item.failReason ≠ "" then item.failReason else task.failReason
    submitTime := if item.submitTime ≠ 0 then item.submitTime else task.submitTime
    startTime := if item.startTime ≠ 0 then item.startTime else task.startTime
    finishTime := if item.finishTime ≠ 0 then item.finishTime else task.finishTime }

def sunoFails (task : Task) (item : SunoDataResponse) : Bool :=
  item.failReason ≠ "" ∨ (sunoMerged task item).status = .failure

def sunoFailed (task : Task) (item : SunoDataResponse) : Task :=
  { sunoMerged task item with progress := "100%" }

def sunoSaved (task : Task) (item : SunoDataResponse) : Task :=
  let merged := if sunoFails task item then sunoFailed task item else sunoMerged task item
  { merged with
    progress := if item.status = .success then "100%" else merged.progress
    data := item.data }

def updateSunoTask (fault : Fault) (calls : BillingCalls) (item : SunoDataResponse) (task : Task)
    (w : World) : Task × World :=
  if taskNeedsUpdate task item then
    let w := if sunoFails task item then refundTaskQuota calls (sunoFailed task item) w else w
    (sunoSaved task item, { w with tasks := (update fault (sunoSaved task item) w.tasks).2 })
  else (task, w)

end DeepRouter.Tasks

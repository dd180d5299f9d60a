import Mathlib.Data.List.Dedup
import DeepRouter.Tasks.Polling

/-! # The polling loop

Of two tasks with the same upstream id the later one stands for both. Go iterates over its maps in
any order. -/

namespace DeepRouter.Tasks

open Store KeyedTable Billing

structure MapOrder (α : Type) where
  order : List α → List α
  perm : ∀ l, (order l).Perm l

structure SweepInputs where
  (taskTimeoutMinutes started now : Int)
  query : Fault := none
  update : Int → Fault := fun _ => none
  billing : Int → BillingCalls := fun _ => {}

def sweepTimedOutTasks (inp : SweepInputs) (tasks : TaskTable) : List Task :=
  if inp.taskTimeoutMinutes ≤ 0 then []
  else getTimedOutUnfinishedTasks inp.query (inp.started - inp.taskTimeoutMinutes * 60) 100 tasks

structure SunoCall where
  item : SunoDataResponse
  fault : Fault := none
  calls : BillingCalls := {}

structure VideoCall where
  env : VideoEnv
  fault : Fault := none
  calls : TaskSettleCalls
  answer : VideoAnswer

inductive PollAction where
  | failRows (ids : List Int) (failReason : Option String) (fault : Fault)
  | suno (call : SunoCall)
  | video (platform : TaskPlatform) (taskId : String) (call : VideoCall)

/-- Without a list of items the request of a Suno channel has failed; a platform may have no
adaptor. -/
structure PollInputs where
  query : Fault := none
  taskQueryLimit : Nat
  platforms : MapOrder TaskPlatform
  channels : MapOrder (Int × List String)
  nullIds : TaskPlatform → Fault := fun _ => none
  cacheGetChannel : TaskPlatform → Int → Bool
  failedIDs : TaskPlatform → Int → Fault := fun _ _ => none
  suno : Int → Option (List SunoCall)
  hasAdaptor : TaskPlatform → Bool
  video : TaskPlatform → Int → Nat → VideoCall

def nullTaskIds (tasks : List Task) : List Int :=
  (tasks.filter fun task => task.getUpstreamTaskID = "").map Task.id

def taskM (tasks : List Task) (upstreamID : String) : Option Int :=
  if upstreamID = "" then none
  else (tasks.reverse.find? fun task => task.getUpstreamTaskID = upstreamID).map Task.id

def taskChannelM (tasks : List Task) : List (Int × List String) :=
  let named := tasks.filter fun task => task.getUpstreamTaskID ≠ ""
  (named.map Task.channelId).dedup.map fun channelId =>
    (channelId, (named.filter fun task => task.channelId = channelId).map Task.getUpstreamTaskID)

def updateSunoTasks (inp : PollInputs) (taskM : String → Option Int) (channelId : Int)
    (taskIds : List String) : List PollAction :=
  if inp.cacheGetChannel .suno channelId then
    match inp.suno channelId with
    | none => []
    | some items => items.map .suno
  else
    [.failRows (taskIds.filterMap taskM)
      (some ("获取渠道信息失败，请联系管理员，渠道ID：" ++ toString channelId))
      (inp.failedIDs .suno channelId)]

def updateVideoTasks (inp : PollInputs) (platform : TaskPlatform) (taskM : String → Option Int)
    (channelId : Int) (taskIds : List String) : List PollAction :=
  if inp.cacheGetChannel platform channelId then
    if inp.hasAdaptor platform then
      taskIds.zipIdx.map fun (taskId, n) => .video platform taskId (inp.video platform channelId n)
    else []
  else
    [.failRows (taskIds.filterMap taskM)
      (some ("Failed to get channel info, channel ID: " ++ toString channelId))
      (inp.failedIDs platform channelId)]

def dispatchPlatformUpdate (inp : PollInputs) (platform : TaskPlatform) (tasks : List Task) :
    List PollAction :=
  match platform with
  | .midjourney => []
  | .suno =>
    (inp.channels.order (taskChannelM tasks)).flatMap fun (channelId, taskIds) =>
      updateSunoTasks inp (taskM tasks) channelId taskIds
  | .other name =>
    (inp.channels.order (taskChannelM tasks)).flatMap fun (channelId, taskIds) =>
      updateVideoTasks inp (.other name) (taskM tasks) channelId taskIds

def platformTasks (tasks : List Task) (platform : TaskPlatform) : List Task :=
  tasks.filter fun task => task.platform = platform

def pollPlatform (inp : PollInputs) (tasks : List Task) (platform : TaskPlatform) :
    List PollAction :=
  let tasks := platformTasks tasks platform
  let nullIds := nullTaskIds tasks
  (if nullIds = [] then [] else [.failRows nullIds none (inp.nullIds platform)]) ++
    dispatchPlatformUpdate inp platform tasks

/-- The tasks in memory by their key, and the key that a platform has for an upstream id. -/
structure Loaded where
  memory : Int → Option Task
  taskM : TaskPlatform → String → Option Int

def load (tasks : List Task) : Loaded where
  memory id := tasks.find? fun task => task.id = id
  taskM platform := taskM (platformTasks tasks platform)

def Loaded.lookup (loaded : Loaded) (platform : TaskPlatform) (taskId : String) : Option Task :=
  (loaded.taskM platform taskId).bind loaded.memory

def Loaded.set (loaded : Loaded) (task : Task) : Loaded :=
  { loaded with memory := Function.update loaded.memory task.id (some task) }

/-- It stops for good when a Suno answer names a task that was not asked for: the lookup gives a nil
pointer. -/
inductive LoopJob where
  | sleeping
  | sweeping (inp : SweepInputs) (tasks : List Task)
  | polling (loaded : Loaded) (actions : List PollAction)
  | stopped

structure LoopState where
  w : World
  job : LoopJob

def pollAction (loaded : Loaded) (rest : List PollAction) (w : World) : PollAction → LoopState
  | .failRows ids failReason fault =>
    ⟨{ w with tasks := taskBulkUpdateByID fault ids failReason w.tasks }, .polling loaded rest⟩
  | .suno call =>
    match loaded.lookup .suno call.item.taskID with
    | none => ⟨w, .stopped⟩
    | some task =>
      let (task, w) := updateSunoTask call.fault call.calls call.item task w
      ⟨w, .polling (loaded.set task) rest⟩
  | .video platform taskId call =>
    match loaded.lookup platform taskId with
    | none => ⟨w, .polling loaded rest⟩
    | some task =>
      let (task, w) := updateVideoSingleTask call.env call.fault call.calls taskId call.answer task w
      ⟨w, .polling (loaded.set task) rest⟩

inductive LoopOp where
  | wake (inp : SweepInputs)
  | query (inp : PollInputs)
  | next

/-- `TaskPollingLoop`, one task at a time; a step that the loop is not at does nothing. -/
def loopStep (s : LoopState) : LoopOp → LoopState
  | .wake inp =>
    match s.job with
    | .sleeping => ⟨s.w, .sweeping inp (sweepTimedOutTasks inp s.w.tasks)⟩
    | _ => s
  | .query inp =>
    match s.job with
    | .sweeping _ [] =>
      let allTasks := getAllUnFinishSyncTasks inp.query inp.taskQueryLimit s.w.tasks
      ⟨s.w, .polling (load allTasks)
        ((inp.platforms.order (allTasks.map Task.platform).dedup).flatMap (pollPlatform inp allTasks))⟩
    | _ => s
  | .next =>
    match s.job with
    | .sweeping inp (task :: rest) =>
      ⟨sweepTask (inp.update task.id) (inp.billing task.id) inp.taskTimeoutMinutes inp.now task s.w,
        .sweeping inp rest⟩
    | .polling loaded (action :: rest) => pollAction loaded rest s.w action
    | .polling _ [] => ⟨s.w, .sleeping⟩
    | _ => s

end DeepRouter.Tasks

import DeepRouter.Billing.Funding

/-! # The tasks table

The columns are those that polling and billing read or write. -/

namespace DeepRouter.Tasks

open Store KeyedTable Billing List

inductive TaskStatus where
  | unset
  | notStart
  | submitted
  | queued
  | inProgress
  | failure
  | success
  | unknown
  | other (text : String)
deriving DecidableEq

def TaskStatus.text : TaskStatus → String
  | .unset => ""
  | .notStart => "NOT_START"
  | .submitted => "SUBMITTED"
  | .queued => "QUEUED"
  | .inProgress => "IN_PROGRESS"
  | .failure => "FAILURE"
  | .success => "SUCCESS"
  | .unknown => "UNKNOWN"
  | .other text => text

def TaskStatus.Final (status : TaskStatus) : Prop := status = .success ∨ status = .failure
deriving Decidable

inductive TaskPlatform where
  | midjourney
  | suno
  | other (name : String)
deriving DecidableEq

structure TaskBillingContext where
  otherRatios : List Rat
  originModelName : String
  perCallBilling : Bool
deriving DecidableEq

structure TaskPrivateData where
  (upstreamTaskID resultURL : String)
  billingSource : BillingSource
  (subscriptionId tokenId : Int)
  billingContext : Option TaskBillingContext
deriving DecidableEq

structure Task where
  id : Int
  taskID : String
  platform : TaskPlatform
  userId : Int
  group : String
  channelId : Int
  quota : Int64
  status : TaskStatus
  failReason : String
  (submitTime startTime finishTime : Int)
  (progress originModelName : String)
  privateData : TaskPrivateData
  data : String
deriving DecidableEq

abbrev TaskTable := Table Task.id

def Task.getUpstreamTaskID (task : Task) : String :=
  if task.privateData.upstreamTaskID ≠ "" then task.privateData.upstreamTaskID else task.taskID

structure TaskSnapshot where
  status : TaskStatus
  progress : String
  (startTime finishTime : Int)
  (failReason resultURL data : String)
deriving DecidableEq

def Task.snapshot (task : Task) : TaskSnapshot where
  status := task.status
  progress := task.progress
  startTime := task.startTime
  finishTime := task.finishTime
  failReason := task.failReason
  resultURL := task.privateData.resultURL
  data := task.data

def Task.Fresh (task : Task) : Prop := task.status = .notStart ∧ task.progress = "0%"

def Task.Unfinished (task : Task) : Prop := task.progress ≠ "100%" ∧ ¬task.status.Final
deriving Decidable

/-- A query that fails answers with no rows. -/
def getTimedOutUnfinishedTasks (fault : Fault) (cutoffUnix : Int) (limit : Nat)
    (tasks : TaskTable) : List Task :=
  match fault with
  | some _ => []
  | none =>
    ((tasks.rows.filter fun task => task.Unfinished ∧ task.submitTime < cutoffUnix).insertionSort
      (·.submitTime ≤ ·.submitTime)).take limit

def getAllUnFinishSyncTasks (fault : Fault) (limit : Nat) (tasks : TaskTable) : List Task :=
  match fault with
  | some _ => []
  | none => ((tasks.rows.filter fun task => task.Unfinished).insertionSort (·.id ≤ ·.id)).take limit

def update (fault : Fault) (task : Task) (tasks : TaskTable) : Except Err Unit × TaskTable :=
  match fault with
  | some e => (.error e, tasks)
  | none => (.ok (), tasks.save task)

def updateWithStatus (fault : Fault) (task : Task) (fromStatus : TaskStatus) (tasks : TaskTable) :
    Except Err Bool × TaskTable :=
  match fault, tasks.find? task.id with
  | some e, _ => (.error e, tasks)
  | none, some row =>
    if row.status = fromStatus then (.ok true, tasks.save task) else (.ok false, tasks)
  | none, none => (.ok false, tasks)

def bulkFailed (failReason : Option String) (task : Task) : Task :=
  { task with
    status := .failure, progress := "100%", failReason := failReason.getD task.failReason }

def taskBulkUpdateByID (fault : Fault) (ids : List Int) (failReason : Option String)
    (tasks : TaskTable) : TaskTable :=
  match fault with
  | some _ => tasks
  | none =>
    tasks.mapRows (fun task => if task.id ∈ ids then bulkFailed failReason task else task) (by
      intro task
      split <;> rfl)

section

variable {tasks : TaskTable} {task : Task} {fault : Fault} {cutoffUnix : Int} {limit : Nat}

theorem of_mem_query {p : Task → Prop} [DecidablePred p] {r : Task → Task → Prop} [DecidableRel r]
    (h : task ∈ ((tasks.rows.filter fun task => p task).insertionSort r).take limit) :
    task ∈ tasks.rows ∧ p task := by
  have hm := mem_of_mem_take h
  rw [mem_insertionSort, mem_filter, decide_eq_true_eq] at hm
  exact hm

theorem mem_query_iff {p : Task → Prop} [DecidablePred p] {r : Task → Task → Prop} [DecidableRel r]
    (hl : tasks.rows.length ≤ limit) :
    task ∈ ((tasks.rows.filter fun task => p task).insertionSort r).take limit ↔
      task ∈ tasks.rows ∧ p task := by
  rw [take_of_length_le, mem_insertionSort, mem_filter, decide_eq_true_eq]
  rw [length_insertionSort]
  exact (length_filter_le _ _).trans hl

theorem of_mem_getAllUnFinishSyncTasks (h : task ∈ getAllUnFinishSyncTasks fault limit tasks) :
    task ∈ tasks.rows ∧ task.Unfinished := by
  cases fault with
  | some e => cases h
  | none => exact of_mem_query h

theorem of_mem_getTimedOutUnfinishedTasks
    (h : task ∈ getTimedOutUnfinishedTasks fault cutoffUnix limit tasks) :
    task ∈ tasks.rows ∧ task.Unfinished ∧ task.submitTime < cutoffUnix := by
  cases fault with
  | some e => cases h
  | none => exact of_mem_query h

theorem nodup_getTimedOutUnfinishedTasks (fault : Fault) (cutoffUnix : Int) (limit : Nat)
    (tasks : TaskTable) :
    ((getTimedOutUnfinishedTasks fault cutoffUnix limit tasks).map Task.id).Nodup := by
  unfold getTimedOutUnfinishedTasks
  cases fault with
  | some e => exact nodup_nil
  | none =>
    refine ((take_sublist _ _).map Task.id).nodup ?_
    rw [((perm_insertionSort _ _).map Task.id).nodup_iff]
    exact (filter_sublist.map Task.id).nodup tasks.nodup

theorem mem_getAllUnFinishSyncTasks_iff (hl : tasks.rows.length ≤ limit) :
    task ∈ getAllUnFinishSyncTasks none limit tasks ↔ task ∈ tasks.rows ∧ task.Unfinished :=
  mem_query_iff hl

theorem mem_getTimedOutUnfinishedTasks_iff (hl : tasks.rows.length ≤ limit) :
    task ∈ getTimedOutUnfinishedTasks none cutoffUnix limit tasks ↔
      task ∈ tasks.rows ∧ task.Unfinished ∧ task.submitTime < cutoffUnix :=
  mem_query_iff hl

end

end DeepRouter.Tasks

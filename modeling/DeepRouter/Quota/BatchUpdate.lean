import DeepRouter.Billing.Funding

/-! # Batched quota updates

The background loop takes each map out under its lock and then updates row by row, so calls run
between any two of its steps. -/

namespace DeepRouter.Quota

open Store KeyedTable

inductive BatchUpdateType where
  | userQuota
  | tokenQuota
  | usedQuota
  | channelUsedQuota
  | requestCount
deriving DecidableEq

def batchUpdateTypes : List BatchUpdateType :=
  [.userQuota, .tokenQuota, .usedQuota, .channelUsedQuota, .requestCount]

structure Pending where
  (id value : Int)
deriving DecidableEq

abbrev BatchStore := Table Pending.id

inductive Flusher where
  | idle
  | checking (types : List BatchUpdateType)
  | swapping (types : List BatchUpdateType)
  | ranging (type : BatchUpdateType) (rows : List Pending) (types : List BatchUpdateType)
deriving DecidableEq

structure BatchState where
  db : Database
  (usedQuota channelUsedQuota requestCount : Int → Int)
  batchUpdateStores : BatchUpdateType → BatchStore
  flusher : Flusher

namespace BatchState

def start (db : Database) : BatchState :=
  ⟨db, fun _ => 0, fun _ => 0, fun _ => 0, fun _ => .empty _, .idle⟩

def withStore (s : BatchState) (type : BatchUpdateType) (store : BatchStore) : BatchState :=
  { s with batchUpdateStores := Function.update s.batchUpdateStores type store }

def addNewRecord (s : BatchState) (type : BatchUpdateType) (id value : Int) : BatchState :=
  match (s.batchUpdateStores type).find? id with
  | none => s.withStore type ((s.batchUpdateStores type).put ⟨id, value⟩)
  | some row => s.withStore type ((s.batchUpdateStores type).put ⟨id, row.value + value⟩)

def updateRow (s : BatchState) (fault : Fault) (type : BatchUpdateType) (row : Pending) :
    BatchState :=
  match fault, type with
  | some _, _ => s
  | none, .userQuota =>
    { s with db := s.db.updateUser row.id fun user => { user with quota := user.quota + row.value } }
  | none, .tokenQuota =>
    { s with db := s.db.updateToken row.id fun token =>
      { token with
        remainQuota := token.remainQuota + row.value, usedQuota := token.usedQuota - row.value } }
  | none, .usedQuota =>
    { s with usedQuota := Function.update s.usedQuota row.id (s.usedQuota row.id + row.value) }
  | none, .channelUsedQuota =>
    { s with
      channelUsedQuota :=
        Function.update s.channelUsedQuota row.id (s.channelUsedQuota row.id + row.value) }
  | none, .requestCount =>
    { s with
      requestCount := Function.update s.requestCount row.id (s.requestCount row.id + row.value) }

def flush (s : BatchState) (pick : Nat) (fault : Fault) : BatchState :=
  match s.flusher with
  | .idle => { s with flusher := .checking batchUpdateTypes }
  | .checking [] => { s with flusher := .idle }
  | .checking (type :: types) =>
    if (s.batchUpdateStores type).rows.length > 0 then
      { s with flusher := .swapping batchUpdateTypes }
    else { s with flusher := .checking types }
  | .swapping [] => { s with flusher := .idle }
  | .swapping (type :: types) =>
    { s.withStore type (.empty _) with
      flusher := .ranging type (s.batchUpdateStores type).rows types }
  | .ranging _ [] types => { s with flusher := .swapping types }
  | .ranging type rows types =>
    match rows[pick]? with
    | none => s
    | some row =>
      { s.updateRow fault type row with flusher := .ranging type (rows.eraseIdx pick) types }

end BatchState

def quotaCall (batched : Bool) (type : BatchUpdateType) (id quota value : Int)
    (direct : Database → Except Err Unit × Database) (s : BatchState) :
    Except Err Unit × BatchState :=
  if quota < 0 then (.error "quota 不能为负数！", s)
  else if batched then (.ok (), s.addNewRecord type id value)
  else
    let (result, db) := direct s.db
    (result, { s with db })

def increaseUserQuota (batchUpdateEnabled : Bool) (fault : Fault) (id quota : Int) (db : Bool) :
    BatchState → Except Err Unit × BatchState :=
  quotaCall (!db && batchUpdateEnabled) .userQuota id quota quota
    (Billing.increaseUserQuota fault id quota)

def decreaseUserQuota (batchUpdateEnabled : Bool) (fault : Fault) (id quota : Int) (db : Bool) :
    BatchState → Except Err Unit × BatchState :=
  quotaCall (!db && batchUpdateEnabled) .userQuota id quota (-quota)
    (Billing.decreaseUserQuota fault id quota)

def increaseTokenQuota (batchUpdateEnabled : Bool) (fault : Fault) (tokenId quota : Int) :
    BatchState → Except Err Unit × BatchState :=
  quotaCall batchUpdateEnabled .tokenQuota tokenId quota quota
    (Billing.increaseTokenQuota fault tokenId quota)

def decreaseTokenQuota (batchUpdateEnabled : Bool) (fault : Fault) (id quota : Int) :
    BatchState → Except Err Unit × BatchState :=
  quotaCall batchUpdateEnabled .tokenQuota id quota (-quota)
    (Billing.decreaseTokenQuota fault id quota)

def updateUserUsedQuotaAndRequestCount (id quota : Int) (s : BatchState) : BatchState :=
  (s.addNewRecord .usedQuota id quota).addNewRecord .requestCount id 1

def updateChannelUsedQuota (id quota : Int) (s : BatchState) : BatchState :=
  s.addNewRecord .channelUsedQuota id quota

end DeepRouter.Quota

import DeepRouter.Library.ReadCommitted
import DeepRouter.Store.Schema

/-! # Redemption codes

Neither function locks the row of the code when it reads it: the query option of `Redeem` does not
reach the SQL, and the administrator's edit reads outside of a transaction. -/

namespace DeepRouter.Redemptions

open Store KeyedTable ReadCommitted Runs

inductive RedemptionStatus where
  | enabled
  | disabled
  | used
deriving DecidableEq

structure Redemption where
  id : Int
  key : String
  status : RedemptionStatus
  name : String
  (quota redeemedTime usedUserId expiredTime : Int)
deriving DecidableEq

structure Credit where
  (code user amount : Int)
  quota : Option Int
deriving DecidableEq

structure RedemptionStore where
  codes : Table Redemption.id
  quotas : Int → Int
  credits : List Credit := []

inductive RedemptionKey where
  | code (id : Int)
  | user (id : Int)
deriving DecidableEq

inductive RedemptionWrite where
  | credit (code user amount : Int)
  | save (found saved : Redemption)
  | update (found columns : Redemption)

def Redemption.withColumns (row columns : Redemption) : Redemption :=
  { row with
    name := columns.name
    status := columns.status
    quota := columns.quota
    redeemedTime := columns.redeemedTime
    expiredTime := columns.expiredTime }

namespace RedemptionWrite

def key : RedemptionWrite → RedemptionKey
  | .credit _ user _ => .user user
  | .save _ saved => .code saved.id
  | .update _ columns => .code columns.id

def apply (s : RedemptionStore) : RedemptionWrite → RedemptionStore
  | .credit code user amount =>
    { s with
      quotas := Function.update s.quotas user (s.quotas user + amount)
      credits := s.credits ++ [⟨code, user, amount, (s.codes.find? code).map Redemption.quota⟩] }
  | .save _ saved => { s with codes := s.codes.save saved }
  | .update _ columns =>
    match s.codes.find? columns.id with
    | some row => { s with codes := s.codes.save (row.withColumns columns) }
    | none => s

end RedemptionWrite

section

variable {s : RedemptionStore} (found : Redemption) {columns row : Redemption}

open RedemptionWrite

theorem update_of_find? (h : s.codes.find? columns.id = some row) :
    apply s (.update found columns) =
      { s with codes := s.codes.save (row.withColumns columns) } := by
  simp only [apply, h]

theorem find?_update_self (h : s.codes.find? columns.id = some row) :
    (apply s (.update found columns)).codes.find? columns.id = some (row.withColumns columns) := by
  have hk : row.id = columns.id := Table.key_of_find? h
  rw [update_of_find? found h]
  exact Table.find?_save_of_key h hk

theorem find?_update_of_ne {id : Int} (hi : columns.id ≠ id) :
    (apply s (.update found columns)).codes.find? id = s.codes.find? id := by
  cases h : s.codes.find? columns.id with
  | none => simp only [apply, h]
  | some row =>
    have hk : row.id = columns.id := Table.key_of_find? h
    rw [update_of_find? found h]
    exact Table.find?_save_of_ne fun hs => hi (hk.symm.trans hs)

theorem update_kept (s : RedemptionStore) (columns : Redemption) :
    (apply s (.update found columns)).quotas = s.quotas ∧
      (apply s (.update found columns)).credits = s.credits := by
  simp only [apply]
  split
  · exact ⟨rfl, rfl⟩
  · exact ⟨rfl, rfl⟩

end

def RedemptionKey.slot (s : RedemptionStore) : RedemptionKey → Option Redemption × Int
  | .code id => (s.codes.find? id, 0)
  | .user id => (none, s.quotas id)

def redemptionEngine :
    Engine RedemptionKey RedemptionStore RedemptionWrite Err (Option Redemption × Int) where
  key := RedemptionWrite.key
  apply := RedemptionWrite.apply
  refuse _ _ := none
  slot k s := k.slot s
  frame k s row hk := by
    cases k with
    | code id =>
      simp only [RedemptionKey.slot, Prod.mk.injEq, and_true]
      cases row with
      | credit code user amount => rfl
      | save found saved => exact Table.find?_save_of_ne fun h => hk (congrArg _ h.symm)
      | update found columns => exact find?_update_of_ne found fun h => hk (congrArg _ h.symm)
    | user id =>
      simp only [RedemptionKey.slot, Prod.mk.injEq, true_and]
      cases row with
      | credit code user amount =>
        exact Function.update_of_ne (fun h => hk (congrArg RedemptionKey.user h)) _ _
      | save found saved => rfl
      | update found columns => rw [(update_kept found s columns).1]
  local_row s t row hs := by
    cases row with
    | credit code user amount =>
      simp only [RedemptionWrite.key, RedemptionKey.slot, Prod.mk.injEq, true_and] at hs
      simp [RedemptionWrite.key, RedemptionKey.slot, RedemptionWrite.apply, hs]
    | save found saved =>
      simp only [RedemptionWrite.key, RedemptionKey.slot, Prod.mk.injEq, and_true] at hs
      simp [RedemptionWrite.key, RedemptionKey.slot, RedemptionWrite.apply,
        Table.find?_save_congr hs]
    | update found columns =>
      simp only [RedemptionWrite.key, RedemptionKey.slot, Prod.mk.injEq, and_true] at hs ⊢
      cases hFind : s.codes.find? columns.id with
      | none =>
        have hFind' := hs.symm.trans hFind
        simp only [RedemptionWrite.apply, hFind, hFind']
      | some row => rw [find?_update_self found hFind, find?_update_self found (hs.symm.trans hFind)]

inductive RedemptionReply where
  | redeemed (quota : Int)
  | updated (row : Redemption)

abbrev RedemptionProg := Prog RedemptionStore RedemptionWrite Err RedemptionReply

def errRedeemFailed : Err := "redeem.failed"

def redeemFailed : RedemptionProg := .rollback (.done (.error errRedeemFailed))

def Redemption.expired (row : Redemption) (now : Int) : Bool :=
  decide (row.expiredTime ≠ 0 ∧ row.expiredTime < now)

def Redemption.markUsed (row : Redemption) (now userId : Int) : Redemption :=
  { row with redeemedTime := now, status := .used, usedUserId := userId }

def redeemProg (now : Int) (key : String) (userId : Int) : RedemptionProg :=
  if key = "" then .done (.error "未提供兑换码")
  else if userId = 0 then .done (.error "无效的 user id")
  else
    .read fun
      | .error _ => redeemFailed
      | .ok s =>
        match s.codes.rows.find? (·.key = key) with
        | none => redeemFailed
        | some row =>
          if row.status ≠ .enabled then redeemFailed
          else if row.expired now then redeemFailed
          else
            .write (.credit row.id userId row.quota) fun
              | .error _ => redeemFailed
              | .ok () =>
                .write (.save row (row.markUsed now userId)) fun
                  | .error _ => redeemFailed
                  | .ok () =>
                    .commit fun
                      | .error _ => .done (.error errRedeemFailed)
                      | .ok () => .done (.ok (.redeemed row.quota))

structure RedemptionRequest where
  id : Int
  status : RedemptionStatus
  name : String
  (quota expiredTime : Int)

def validateExpiredTime (now expired : Int) : Option Err :=
  if expired ≠ 0 ∧ expired < now then some "redemption.expire_time_invalid" else none

def RedemptionRequest.edit (request : RedemptionRequest) (row : Redemption) : Redemption :=
  { row with name := request.name, quota := request.quota, expiredTime := request.expiredTime }

def updateColumnsProg (found columns : Redemption) : RedemptionProg :=
  .write (.update found columns) fun
    | .error e => .rollback (.done (.error e))
    | .ok () =>
      .commit fun
        | .error e => .done (.error e)
        | .ok () => .done (.ok (.updated columns))

def updateRedemptionProg (now : Int) (statusOnly : String) (request : RedemptionRequest) :
    RedemptionProg :=
  if request.id = 0 then .done (.error "id 为空！")
  else
    .read fun
      | .error e => .done (.error e)
      | .ok s =>
        match s.codes.find? request.id with
        | none => .done (.error recordNotFound)
        | some row =>
          if statusOnly = "" then
            match validateExpiredTime now request.expiredTime with
            | some e => .done (.error e)
            | none => updateColumnsProg row (request.edit row)
          else updateColumnsProg row { row with status := request.status }

inductive RedemptionCall where
  | topUp (now : Int) (key : String) (userId : Int)
  | updateRedemption (now : Int) (statusOnly : String) (request : RedemptionRequest)

def RedemptionCall.prog : RedemptionCall → RedemptionProg
  | .topUp now key userId => redeemProg now key userId
  | .updateRedemption now statusOnly request => updateRedemptionProg now statusOnly request

abbrev RedemptionState :=
  State Nat RedemptionKey RedemptionStore RedemptionWrite Err RedemptionReply

abbrev RedemptionEvent := Event Nat RedemptionCall Err

abbrev redemptionStep : RedemptionState → RedemptionEvent → RedemptionState :=
  State.step redemptionEngine RedemptionCall.prog

end DeepRouter.Redemptions

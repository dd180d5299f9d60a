import DeepRouter.Billing.Debits

/-! # Concurrent writers of one user row

The reward of an inviter reads the whole row and saves all columns of the copy in a second statement. -/

namespace DeepRouter.Quota

open Store Atomic Billing Runs

structure AffColumns where
  (affCount affQuota affHistoryQuota : Int)

structure UserRow where
  user : User
  aff : AffColumns

structure InviteSettings where
  quotaForInviter : Int
  quotaPerUnit : Rat
  logQuota : Int → String

structure RowState where
  db : Database
  aff : Int → AffColumns
  copies : Nat → Option UserRow

namespace RowState

def row (s : RowState) (id : Int) : UserRow := ⟨s.db.users id, s.aff id⟩

def save (s : RowState) (id : Int) (row : UserRow) : RowState :=
  { s with
    db := s.db.updateUser id fun _ => row.user
    aff := Function.update s.aff id row.aff }

end RowState

def readInviter (cfg : InviteSettings) (fault : Fault) (inviterId : Int) (call : Nat)
    (s : RowState) : Except Err Unit × RowState :=
  if cfg.quotaForInviter ≤ 0 then (.ok (), s)
  else if inviterId = 0 then (.error "id 为空！", s)
  else
    match fault with
    | some e => (.error e, s)
    | none => (.ok (), { s with copies := Function.update s.copies call (some (s.row inviterId)) })

def rewarded (cfg : InviteSettings) (row : UserRow) : UserRow :=
  { row with
    aff :=
      { affCount := row.aff.affCount + 1
        affQuota := row.aff.affQuota + cfg.quotaForInviter
        affHistoryQuota := row.aff.affHistoryQuota + cfg.quotaForInviter } }

def saveInviter (cfg : InviteSettings) (fault : Fault) (inviterId : Int) (call : Nat)
    (s : RowState) : Except Err Unit × RowState :=
  match s.copies call with
  | none => (.error recordNotFound, s)
  | some copy =>
    let s := { s with copies := Function.update s.copies call none }
    match fault with
    | some e => (.error e, s)
    | none => (.ok (), s.save inviterId (rewarded cfg copy))

structure TransferFaults where
  (begin find save commit : Fault := none)

def transferTx (faults : TransferFaults) (id quota : Int) (s : RowState) :
    Except Err (Unit × RowState) := do
  attempt faults.begin
  attempt faults.find
  let row := s.row id
  if row.aff.affQuota < quota then .error "邀请额度不足！"
  else
    attempt faults.save
    .ok ((), s.save id
      { user := { row.user with quota := row.user.quota + quota }
        aff := { row.aff with affQuota := row.aff.affQuota - quota } })

def transferAffQuotaToQuota (cfg : InviteSettings) (faults : TransferFaults) (id quota : Int)
    (s : RowState) : Except Err Unit × RowState :=
  if (quota : Rat) < cfg.quotaPerUnit then
    (.error ("转移额度最小为" ++
      cfg.logQuota (cfg.quotaPerUnit.num.tdiv cfg.quotaPerUnit.den) ++ "！"), s)
  else transaction s (transferTx faults id quota s) faults.commit

def onDatabase (call : Database → Except Err Unit × Database) (s : RowState) :
    Except Err Unit × RowState :=
  let (result, db) := call s.db
  (result, { s with db })

inductive RowOp where
  | readInviter (call : Nat) (fault : Fault)
  | saveInviter (call : Nat) (fault : Fault)
  | transfer (quota : Int) (faults : TransferFaults)
  | increase (quota : Int) (fault : Fault)
  | decrease (quota : Int) (fault : Fault)

def rowCall (cfg : InviteSettings) (id : Int) (s : RowState) :
    RowOp → Except Err Unit × RowState
  | .readInviter call fault => readInviter cfg fault id call s
  | .saveInviter call fault => saveInviter cfg fault id call s
  | .transfer quota faults => transferAffQuotaToQuota cfg faults id quota s
  | .increase quota fault => onDatabase (Billing.increaseUserQuota fault id quota) s
  | .decrease quota fault => onDatabase (Billing.decreaseUserQuota fault id quota) s

def rowStep (cfg : InviteSettings) (id : Int) (s : RowState) (op : RowOp) : RowState :=
  (rowCall cfg id s op).2

inductive ChangeKind where
  | increase
  | decrease
  | transfer
  | invite
deriving DecidableEq

def RowOp.change (cfg : InviteSettings) : RowOp → Option (ChangeKind × Int)
  | .readInviter _ _ => none
  | .saveInviter _ _ => some (.invite, cfg.quotaForInviter)
  | .transfer quota _ => some (.transfer, quota)
  | .increase quota _ => some (.increase, quota)
  | .decrease quota _ => some (.decrease, quota)

def changed (cfg : InviteSettings) (id : Int) (kind : ChangeKind) (s : RowState)
    (op : RowOp) : Int :=
  match (rowCall cfg id s op).1, op.change cfg with
  | .ok (), some (k, amount) => if k = kind then amount else 0
  | _, _ => 0

end DeepRouter.Quota

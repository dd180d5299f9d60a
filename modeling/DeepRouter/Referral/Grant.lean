import DeepRouter.Library.ReadCommitted
import DeepRouter.Store.Schema

/-! # Referral rewards

The row of the invitee is locked, then read. The count of the inviter's rewards locks no row. -/

namespace DeepRouter.Referral

open Store KeyedTable ReadCommitted Runs GoStrings

inductive ReferralStatus where
  | signedUp
  | converted
  | rewarded
  | blocked
deriving DecidableEq

inductive BlockedReason where
  | selfReferral
  | noInviter
  | fraudCap

structure ReferralRecord where
  (inviterId inviteeId : Int)
  status : ReferralStatus := .signedUp
  convertedAt : Option Int := none
  (conversionSource conversionReference rewardKind : String := "")
  (inviterRewardAmount inviteeRewardAmount : Int := 0)
  rewardGrantedAt : Option Int := none
  blockedReason : Option BlockedReason := none

def kindQuota : String := "quota"

def kindSkill : String := "skill_credit"

def kindPlusDays : String := "plus_days"

structure RewardConfig where
  kind : String
  (inviterAmount inviteeAmount maxRewardsPerInvite : Int)

structure ReferralStore where
  records : Table ReferralRecord.inviteeId
  quotas : Int → Option Int

def ReferralRecord.rewardedBy (record : ReferralRecord) (inviter : Int) : Bool :=
  decide (record.inviterId = inviter ∧ record.status = .rewarded)

def ReferralStore.rewardedCount (s : ReferralStore) (inviter : Int) : Nat :=
  s.records.total fun record => if record.rewardedBy inviter then 1 else 0

inductive ReferralKey where
  | record (invitee : Int)
  | user (id : Int)
deriving DecidableEq

inductive ReferralWrite where
  | lock (invitee : Int)
  | credit (user amount : Int)
  | save (counted : Option Nat) (saved : ReferralRecord)

namespace ReferralWrite

def key : ReferralWrite → ReferralKey
  | .lock invitee => .record invitee
  | .credit user _ => .user user
  | .save _ saved => .record saved.inviteeId

def apply (s : ReferralStore) : ReferralWrite → ReferralStore
  | .lock _ => s
  | .credit user amount =>
    { s with quotas := Function.update s.quotas user ((s.quotas user).map (· + amount)) }
  | .save _ saved => { s with records := s.records.save saved }

end ReferralWrite

def ReferralKey.slot (s : ReferralStore) : ReferralKey → Option ReferralRecord × Option Int
  | .record invitee => (s.records.find? invitee, none)
  | .user id => (none, s.quotas id)

def referralEngine :
    Engine ReferralKey ReferralStore ReferralWrite Err (Option ReferralRecord × Option Int) where
  key := ReferralWrite.key
  apply := ReferralWrite.apply
  refuse _ _ := none
  slot k s := k.slot s
  frame k s row hk := by
    cases k with
    | record invitee =>
      cases row with
      | lock _ => rfl
      | credit user amount => rfl
      | save counted saved =>
        simp only [ReferralKey.slot, ReferralWrite.apply, Prod.mk.injEq, and_true]
        exact Table.find?_save_of_ne fun h => hk (congrArg _ h.symm)
    | user id =>
      cases row with
      | lock _ => rfl
      | credit user amount =>
        simp only [ReferralKey.slot, ReferralWrite.apply, Prod.mk.injEq, true_and]
        exact Function.update_of_ne (fun h => hk (congrArg ReferralKey.user h)) _ _
      | save counted saved => rfl
  local_row s t row hs := by
    cases row with
    | lock _ => exact hs
    | credit user amount =>
      simp only [ReferralWrite.key, ReferralKey.slot, Prod.mk.injEq, true_and] at hs
      simp [ReferralWrite.key, ReferralKey.slot, ReferralWrite.apply, hs]
    | save counted saved =>
      simp only [ReferralWrite.key, ReferralKey.slot, Prod.mk.injEq, and_true] at hs
      simp [ReferralWrite.key, ReferralKey.slot, ReferralWrite.apply, Table.find?_save_congr hs]

abbrev ReferralReply := Option ReferralRecord × Bool

abbrev ReferralProg := Prog ReferralStore ReferralWrite Err ReferralReply

structure Conversion where
  (now inviteeId : Int)
  (source reference : String)

namespace Conversion

variable (call : Conversion) (record : ReferralRecord)

def convert (status : ReferralStatus) : ReferralRecord :=
  { record with
    status
    convertedAt := some call.now
    conversionSource := trimSpace call.source
    conversionReference := trimSpace call.reference }

def block (reason : BlockedReason) : ReferralRecord :=
  { call.convert record .blocked with blockedReason := some reason }

def reward (config : RewardConfig) : ReferralRecord :=
  { call.convert record .rewarded with
    rewardKind := config.kind
    inviterRewardAmount := config.inviterAmount
    inviteeRewardAmount := config.inviteeAmount
    rewardGrantedAt := some call.now }

end Conversion

def failed (e : Err) : ReferralProg := .rollback (.done (.error e))

def commitProg (reply : ReferralReply) : ReferralProg :=
  .commit fun
    | .error e => .done (.error e)
    | .ok () => .done (.ok reply)

def saveProg (counted : Option Nat) (saved : ReferralRecord) (awarded : Bool) : ReferralProg :=
  .write (.save counted saved) fun
    | .error e => failed e
    | .ok () => commitProg (some saved, awarded)

def creditProg (user amount : Int) (next : ReferralProg) : ReferralProg :=
  if 0 < amount then
    .write (.credit user amount) fun
      | .error e => failed e
      | .ok () => next
  else next

def applyReward (config : RewardConfig) (inviterId inviteeId : Int) (next : ReferralProg) :
    ReferralProg :=
  if config.kind = kindQuota ∨ config.kind = kindSkill then
    creditProg inviterId config.inviterAmount (creditProg inviteeId config.inviteeAmount next)
  else if config.kind = kindPlusDays then next
  else failed ("unsupported referral reward kind: " ++ config.kind)

def rewardProg (config : RewardConfig) (call : Conversion) (record : ReferralRecord)
    (counted : Option Nat) : ReferralProg :=
  applyReward config record.inviterId record.inviteeId
    (saveProg counted (call.reward record config) true)

def countProg (config : RewardConfig) (call : Conversion) (record : ReferralRecord) :
    ReferralProg :=
  if 0 < config.maxRewardsPerInvite then
    .read fun
      | .error e => failed e
      | .ok s =>
        let rewardedCount := s.rewardedCount record.inviterId
        if config.maxRewardsPerInvite ≤ rewardedCount then
          saveProg none (call.block record .fraudCap) false
        else rewardProg config call record (some rewardedCount)
  else rewardProg config call record none

def recordProg (config : RewardConfig) (call : Conversion) (record : ReferralRecord) :
    ReferralProg :=
  if record.status = .blocked then commitProg (some record, false)
  else if record.rewardGrantedAt ≠ none then commitProg (some record, false)
  else if record.inviterId ≤ 0 then saveProg none (call.block record .noInviter) false
  else if record.inviterId = record.inviteeId then
    saveProg none (call.block record .selfReferral) false
  else countProg config call record

def grantForConversion (config : RewardConfig) (call : Conversion) : ReferralProg :=
  if call.inviteeId ≤ 0 ∨ trimSpace call.source = "" then .done (.ok (none, false))
  else
    .write (.lock call.inviteeId) fun
      | .error e => failed e
      | .ok () =>
        .read fun
          | .error e => failed e
          | .ok s =>
            match s.records.find? call.inviteeId with
            | none => commitProg (none, false)
            | some record => recordProg config call record

abbrev ReferralState := State Nat ReferralKey ReferralStore ReferralWrite Err ReferralReply

abbrev ReferralEvent := Event Nat Conversion Err

abbrev referralStep (config : RewardConfig) : ReferralState → ReferralEvent → ReferralState :=
  State.step referralEngine (grantForConversion config)

/-- A call with no other one beside it, one answer for each of its statements. -/
def callEvents (call : Conversion) (answers : List Fault) : List ReferralEvent :=
  .start 0 call :: answers.map (.exec 0)

end DeepRouter.Referral

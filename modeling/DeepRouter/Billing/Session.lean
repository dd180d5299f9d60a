import DeepRouter.Billing.Funding

/-! # The billing session of one request

Reads that may be served from a cache are inputs of the call, and what the code only logs is
returned as log lines. -/

namespace DeepRouter.Billing

open Store GoStrings Atomic Subscription

inductive ErrorCode where
  | invalidRequest
  | queryDataError
  | updateDataError
  | insufficientUserQuota
  | preConsumeTokenQuotaFailed
deriving DecidableEq

structure NewAPIError where
  message : String
  errorCode : ErrorCode
  statusCode : Nat
deriving DecidableEq

def newError (err : Err) (errorCode : ErrorCode) : NewAPIError := ⟨err, errorCode, 500⟩

def forbidden (err : Err) (errorCode : ErrorCode) : NewAPIError := ⟨err, errorCode, 403⟩

structure RelayInfo where
  (userId tokenId : Int)
  (isPlayground tokenUnlimited forcePreConsume : Bool)
  (requestId billingPreference : String)
  (userQuota finalPreConsumedQuota : Int := 0)
  billingSource : BillingSource := .unset
  subscriptionId : Int := 0
  (subscriptionPreConsumed subscriptionPostDelta subscriptionAmountTotal : Int64 := 0)
  subscriptionAmountUsedAfterPreConsume : Int64 := 0
  subscriptionPlanId : Int := 0
  subscriptionPlanTitle : String := ""
deriving DecidableEq

structure BillingSession where
  relayInfo : RelayInfo
  funding : FundingSource
  (preConsumedQuota tokenConsumed extraReserved : Int := 0)
  (trusted fundingSettled settled refunded : Bool := false)
deriving DecidableEq

structure Context where
  env : Env
  (trustQuota tokenQuota : Int)
  formatQuota : Int → String

structure TokenCall where
  read : Except Err Int
  write : Fault := none

def preConsumeTokenQuota (ctx : Context) (call : TokenCall) (relayInfo : RelayInfo) (quota : Int)
    (db : Database) : Except Err Unit × Database :=
  if quota < 0 then (.error "quota 不能为负数！", db)
  else if relayInfo.isPlayground then (.ok (), db)
  else
    match call.read with
    | .error e => (.error e, db)
    | .ok remainQuota =>
      if !relayInfo.tokenUnlimited ∧ remainQuota < quota then
        (.error ("token quota is not enough, token remain quota: " ++ ctx.formatQuota remainQuota ++
          ", need quota: " ++ ctx.formatQuota quota), db)
      else decreaseTokenQuota call.write relayInfo.tokenId quota db

structure FundingCall where
  wallet : Fault := none
  subscription : PostFaults := {}

namespace FundingSource

def preConsume (env : Env) (wallet : Fault) (subscription : SubscriptionFaults) (amount : Int) :
    FundingSource → Database → Except Err FundingSource × Database
  | .wallet w, db =>
    match w.preConsume wallet amount db with
    | (.error e, db) => (.error e, db)
    | (.ok w, db) => (.ok (.wallet w), db)
  | .subscription s, db =>
    match s.preConsume env subscription db with
    | (.error e, db) => (.error e, db)
    | (.ok s, db) => (.ok (.subscription s), db)

def settle (call : FundingCall) (delta : Int) : FundingSource → Database → Except Err Unit × Database
  | .wallet w, db => w.settle call.wallet delta db
  | .subscription s, db => s.settle call.subscription delta db

def refund (wallet : Fault) (attempts : Nat → Env × RefundFaults) :
    FundingSource → Database → Except Err Unit × Database
  | .wallet w, db => w.refund wallet db
  | .subscription s, db => s.refund attempts db

end FundingSource

namespace BillingSession

def syncRelayInfo (s : BillingSession) : BillingSession :=
  let info := { s.relayInfo with
    finalPreConsumedQuota := s.preConsumedQuota, billingSource := s.funding.source }
  match s.funding with
  | .subscription sub =>
    { s with relayInfo := { info with
        subscriptionId := sub.subscriptionId
        subscriptionPreConsumed := sub.preConsumed + .ofInt s.extraReserved
        subscriptionPostDelta := 0
        subscriptionAmountTotal := sub.amountTotal
        subscriptionAmountUsedAfterPreConsume := sub.amountUsedAfter + .ofInt s.extraReserved
        subscriptionPlanId := sub.planId
        subscriptionPlanTitle := sub.planTitle } }
  | .wallet _ => { s with relayInfo := { info with subscriptionId := 0, subscriptionPreConsumed := 0 } }

def shouldTrust (ctx : Context) (s : BillingSession) : Bool :=
  if s.relayInfo.forcePreConsume then false
  else if ctx.trustQuota ≤ 0 then false
  else if !(s.relayInfo.tokenUnlimited || ctx.tokenQuota > ctx.trustQuota) then false
  else
    match s.funding.source with
    | .wallet => s.relayInfo.userQuota > ctx.trustQuota
    | _ => false

structure NewReply where
  result : Except NewAPIError BillingSession
  db : Database
  logs : List String := []

structure Reply (ε : Type) where
  result : Except ε Unit
  session : BillingSession
  db : Database
  logs : List String := []

/-- Only the first one lets the caller try the other source. -/
def fundingError (err : Err) : NewAPIError :=
  if contains err "no active subscription" || contains err "subscription quota insufficient" then
    forbidden ("订阅额度不足或未配置订阅: " ++ err) .insufficientUserQuota
  else newError err .updateDataError

structure PreConsumeCalls where
  token : TokenCall
  wallet : Fault := none
  subscription : SubscriptionFaults := {}
  rollback : Fault := none

def rollbackToken (rollback : Fault) (err : Err) (s : BillingSession) (db : Database) :
    Database × List String :=
  if 0 < s.tokenConsumed ∧ !s.relayInfo.isPlayground then
    match increaseTokenQuota rollback s.relayInfo.tokenId s.tokenConsumed db with
    | (.ok (), db) => (db, [])
    | (.error e, db) => (db, ["error rolling back token quota (userId=" ++
        toString s.relayInfo.userId ++ ", tokenId=" ++ toString s.relayInfo.tokenId ++ ", amount=" ++
        toString s.tokenConsumed ++ ", fundingErr=" ++ err ++ "): " ++ e])
  else (db, [])

def preConsumeFunding (ctx : Context) (calls : PreConsumeCalls) (effectiveQuota : Int)
    (s : BillingSession) (db : Database) : NewReply :=
  match s.funding.preConsume ctx.env calls.wallet calls.subscription effectiveQuota db with
  | (.error e, db) =>
    let (db, logs) := rollbackToken calls.rollback e s db
    ⟨.error (fundingError e), db, logs⟩
  | (.ok funding, db) =>
    ⟨.ok { s with funding, preConsumedQuota := effectiveQuota }.syncRelayInfo, db, []⟩

def preConsume (ctx : Context) (calls : PreConsumeCalls) (quota : Int) (s : BillingSession)
    (db : Database) : NewReply :=
  let trusted := s.shouldTrust ctx
  let effectiveQuota := if trusted then 0 else quota
  let s := { s with trusted := s.trusted || trusted }
  if 0 < effectiveQuota then
    match preConsumeTokenQuota ctx calls.token s.relayInfo effectiveQuota db with
    | (.error e, db) => ⟨.error (forbidden e .preConsumeTokenQuotaFailed), db, []⟩
    | (.ok (), db) =>
      preConsumeFunding ctx calls effectiveQuota { s with tokenConsumed := effectiveQuota } db
  else preConsumeFunding ctx calls effectiveQuota s db

structure ReserveCalls where
  funding : FundingCall := {}
  token : TokenCall
  rollback : FundingCall := {}

def reserveFunding (call : FundingCall) (delta : Int) (s : BillingSession) (db : Database) :
    Except NewAPIError BillingSession × Database :=
  match s.funding with
  | .wallet w =>
    match decreaseUserQuota call.wallet w.userId delta db with
    | (.error e, db) => (.error (newError e .updateDataError), db)
    | (.ok (), db) => (.ok { s with funding := .wallet { w with consumed := w.consumed + delta } }, db)
  | .subscription sub =>
    match postConsumeUserSubscriptionDelta call.subscription sub.subscriptionId (.ofInt delta) db with
    | (.error e, db) =>
      (.error (forbidden ("订阅额度不足或未配置订阅: " ++ e) .insufficientUserQuota), db)
    | (.ok (), db) => (.ok s, db)

def rollbackFundingReserve (call : FundingCall) (delta : Int) (s : BillingSession)
    (db : Database) : BillingSession × Database × List String :=
  match s.funding with
  | .wallet w =>
    match increaseUserQuota call.wallet w.userId delta db with
    | (.error e, db) => (s, db, ["error rolling back wallet funding reserve: " ++ e])
    | (.ok (), db) => ({ s with funding := .wallet { w with consumed := w.consumed - delta } }, db, [])
  | .subscription sub =>
    match postConsumeUserSubscriptionDelta call.subscription sub.subscriptionId (-.ofInt delta) db with
    | (.error e, db) => (s, db, ["error rolling back subscription funding reserve: " ++ e])
    | (.ok (), db) => (s, db, [])

def reserveToken (ctx : Context) (call : TokenCall) (delta : Int) (s : BillingSession)
    (db : Database) : Except NewAPIError Unit × Database :=
  if delta ≤ 0 ∨ s.relayInfo.isPlayground then (.ok (), db)
  else
    match preConsumeTokenQuota ctx call s.relayInfo delta db with
    | (.error e, db) => (.error (forbidden e .preConsumeTokenQuotaFailed), db)
    | (.ok (), db) => (.ok (), db)

def reserve (ctx : Context) (calls : ReserveCalls) (targetQuota : Int) (s : BillingSession)
    (db : Database) : Reply NewAPIError :=
  if s.settled ∨ s.refunded ∨ s.trusted ∨ targetQuota ≤ s.preConsumedQuota then ⟨.ok (), s, db, []⟩
  else
    let delta := targetQuota - s.preConsumedQuota
    match reserveFunding calls.funding delta s db with
    | (.error e, db) => ⟨.error e, s, db, []⟩
    | (.ok s, db) =>
      match reserveToken ctx calls.token delta s db with
      | (.error e, db) =>
        let (s, db, logs) := rollbackFundingReserve calls.rollback delta s db
        ⟨.error e, s, db, logs⟩
      | (.ok (), db) =>
        ⟨.ok (), syncRelayInfo { s with
          preConsumedQuota := s.preConsumedQuota + delta
          tokenConsumed := s.tokenConsumed + delta
          extraReserved := s.extraReserved + delta }, db, []⟩

structure SettleCalls where
  funding : FundingCall := {}
  token : Fault := none

def settleToken (fault : Fault) (delta : Int) (relayInfo : RelayInfo) (db : Database) :
    Except Err Unit × Database :=
  if relayInfo.isPlayground then (.ok (), db)
  else if 0 < delta then decreaseTokenQuota fault relayInfo.tokenId delta db
  else increaseTokenQuota fault relayInfo.tokenId (-delta) db

def logged (message : String) : Except Err Unit × Database → Database × List String
  | (.ok (), db) => (db, [])
  | (.error e, db) => (db, [message ++ e])

def addPostDelta (delta : Int) (s : BillingSession) : BillingSession :=
  match s.funding.source with
  | .subscription => { s with relayInfo := { s.relayInfo with
      subscriptionPostDelta := s.relayInfo.subscriptionPostDelta + .ofInt delta } }
  | _ => s

def settleRest (fault : Fault) (delta : Int) (s : BillingSession) (db : Database) : Reply Err :=
  let call := settleToken fault delta s.relayInfo db
  let (db, logs) := logged ("error adjusting token quota after funding settled (userId=" ++
    toString s.relayInfo.userId ++ ", tokenId=" ++ toString s.relayInfo.tokenId ++ ", delta=" ++
    toString delta ++ "): ") call
  ⟨call.1, { addPostDelta delta s with fundingSettled := true, settled := true }, db, logs⟩

def settle (calls : SettleCalls) (actualQuota : Int) (s : BillingSession) (db : Database) :
    Reply Err :=
  if s.settled then ⟨.ok (), s, db, []⟩
  else
    let delta := actualQuota - s.preConsumedQuota
    if delta = 0 then ⟨.ok (), { s with settled := true }, db, []⟩
    else if s.fundingSettled then settleRest calls.token delta s db
    else
      match s.funding.settle calls.funding delta db with
      | (.error e, db) => ⟨.error e, s, db, []⟩
      | (.ok (), db) => settleRest calls.token delta s db

def needsRefundLocked (s : BillingSession) : Bool :=
  if s.settled || s.refunded || s.fundingSettled then false
  else if 0 < s.tokenConsumed then true
  else
    match s.funding with
    | .subscription sub => 0 < sub.preConsumed
    | .wallet _ => false

structure RefundCalls where
  wallet : Fault := none
  attempts : Nat → Env × RefundFaults
  extra : PostFaults := {}
  token : Fault := none

def refundAll (calls : RefundCalls) (s : BillingSession) (db : Database) : Database × List String :=
  let (db, fundingLogs) := logged "error refunding billing source: "
    (s.funding.refund calls.wallet calls.attempts db)
  let (db, extraLogs) :=
    if 0 < s.extraReserved ∧ s.funding.source = .subscription ∧ 0 < s.relayInfo.subscriptionId then
      logged "error refunding subscription extra reserved quota: "
        (postConsumeUserSubscriptionDelta calls.extra s.relayInfo.subscriptionId
          (-.ofInt s.extraReserved) db)
    else (db, [])
  let (db, tokenLogs) :=
    if 0 < s.tokenConsumed ∧ !s.relayInfo.isPlayground then
      logged "error refunding token quota: "
        (increaseTokenQuota calls.token s.relayInfo.tokenId s.tokenConsumed db)
    else (db, [])
  (db, fundingLogs ++ extraLogs ++ tokenLogs)

def refund (calls : RefundCalls) (s : BillingSession) (db : Database) : Reply Err :=
  if s.settled ∨ s.refunded ∨ !s.needsRefundLocked then ⟨.ok (), s, db, []⟩
  else
    let (db, logs) := refundAll calls s db
    ⟨.ok (), { s with refunded := true }, db, logs⟩

end BillingSession

open BillingSession

inductive BillingPreference where
  | subscriptionFirst
  | walletFirst
  | subscriptionOnly
  | walletOnly

def normalizeBillingPreference (pref : String) : BillingPreference :=
  if trimSpace pref = "wallet_first" then .walletFirst
  else if trimSpace pref = "subscription_only" then .subscriptionOnly
  else if trimSpace pref = "wallet_only" then .walletOnly
  else .subscriptionFirst

def hasActiveUserSubscription (env : Env) (fault : Fault) (userId : Int) (db : Database) :
    Except Err Bool :=
  if userId ≤ 0 then .error "invalid userId"
  else do
    attempt fault
    .ok (0 < db.subs.rows.countP fun sub =>
      sub.userId = userId ∧ sub.status = .active ∧ env.now < sub.endTime)

structure NewSessionCalls where
  userQuota : Except Err Int
  (wallet subscription : PreConsumeCalls)
  hasActive : Fault := none

def tryWallet (ctx : Context) (calls : NewSessionCalls) (preConsumedQuota : Int)
    (relayInfo : RelayInfo) (db : Database) : NewReply × RelayInfo :=
  match calls.userQuota with
  | .error e => (⟨.error (newError e .queryDataError), db, []⟩, relayInfo)
  | .ok userQuota =>
    if userQuota ≤ 0 then
      (⟨.error (forbidden ("用户额度不足, 剩余额度: " ++ ctx.formatQuota userQuota)
        .insufficientUserQuota), db, []⟩, relayInfo)
    else if userQuota - preConsumedQuota < 0 then
      (⟨.error (forbidden ("预扣费额度失败, 用户剩余额度: " ++ ctx.formatQuota userQuota ++
        ", 需要预扣费额度: " ++ ctx.formatQuota preConsumedQuota) .insufficientUserQuota), db, []⟩,
        relayInfo)
    else
      let relayInfo := { relayInfo with userQuota }
      (preConsume ctx calls.wallet preConsumedQuota
        { relayInfo, funding := .wallet { userId := relayInfo.userId } } db, relayInfo)

def subConsume (preConsumedQuota : Int) : Int64 :=
  if Int64.ofInt preConsumedQuota ≤ 0 then 1 else .ofInt preConsumedQuota

def trySubscription (ctx : Context) (calls : NewSessionCalls) (preConsumedQuota : Int)
    (relayInfo : RelayInfo) (db : Database) : NewReply :=
  preConsume ctx calls.subscription (subConsume preConsumedQuota).toInt
    { relayInfo
      funding := .subscription
        { requestId := relayInfo.requestId, userId := relayInfo.userId,
          amount := subConsume preConsumedQuota } } db

def orElse (first : NewReply) (second : Database → NewReply) : NewReply :=
  match first.result with
  | .ok session => ⟨.ok session, first.db, first.logs⟩
  | .error e =>
    if e.errorCode = .insufficientUserQuota then
      let reply := second first.db
      ⟨reply.result, reply.db, first.logs ++ reply.logs⟩
    else ⟨.error e, first.db, first.logs⟩

def newBillingSession (ctx : Context) (calls : NewSessionCalls) (relayInfo : Option RelayInfo)
    (preConsumedQuota : Int) (db : Database) : NewReply :=
  match relayInfo with
  | none => ⟨.error (newError "relayInfo is nil" .invalidRequest), db, []⟩
  | some relayInfo =>
    match normalizeBillingPreference relayInfo.billingPreference with
    | .subscriptionOnly => trySubscription ctx calls preConsumedQuota relayInfo db
    | .walletOnly => (tryWallet ctx calls preConsumedQuota relayInfo db).1
    | .walletFirst =>
      let (first, relayInfo) := tryWallet ctx calls preConsumedQuota relayInfo db
      orElse first (trySubscription ctx calls preConsumedQuota relayInfo)
    | .subscriptionFirst =>
      match hasActiveUserSubscription ctx.env calls.hasActive relayInfo.userId db with
      | .error e => ⟨.error (newError e .queryDataError), db, []⟩
      | .ok false => (tryWallet ctx calls preConsumedQuota relayInfo db).1
      | .ok true =>
        orElse (trySubscription ctx calls preConsumedQuota relayInfo db)
          (fun db => (tryWallet ctx calls preConsumedQuota relayInfo db).1)

end DeepRouter.Billing

import Mathlib.Data.Rat.Floor
import DeepRouter.Billing.Session
import DeepRouter.TopUps.Recharge

/-! # Metering a realtime session

Every finished response is debited at once; when the connection closes, the session is settled on the
total usage. Ratios and prices are decimals, taken as exact. -/

namespace DeepRouter.Billing

open Store Atomic Subscription Runs BillingSession TopUps

structure InputTokenDetails where
  (cachedTokens textTokens audioTokens : Int := 0)

structure OutputTokenDetails where
  (textTokens audioTokens : Int := 0)

structure RealtimeUsage where
  (totalTokens inputTokens outputTokens : Int := 0)
  inputTokenDetails : InputTokenDetails := {}
  outputTokenDetails : OutputTokenDetails := {}

def RealtimeUsage.add (total usage : RealtimeUsage) : RealtimeUsage where
  totalTokens := total.totalTokens + usage.totalTokens
  inputTokens := total.inputTokens + usage.inputTokens
  outputTokens := total.outputTokens + usage.outputTokens
  inputTokenDetails :=
    { cachedTokens := total.inputTokenDetails.cachedTokens + usage.inputTokenDetails.cachedTokens
      textTokens := total.inputTokenDetails.textTokens + usage.inputTokenDetails.textTokens
      audioTokens := total.inputTokenDetails.audioTokens + usage.inputTokenDetails.audioTokens }
  outputTokenDetails :=
    { textTokens := total.outputTokenDetails.textTokens + usage.outputTokenDetails.textTokens
      audioTokens := total.outputTokenDetails.audioTokens + usage.outputTokenDetails.audioTokens }

structure RatioSettings where
  (completionRatio audioRatio audioCompletionRatio modelRatio groupRatio : String → Rat)
  groupGroupRatio : String → String → Option Rat
  quotaPerUnit : Rat

structure TokenDetails where
  (textTokens audioTokens : Int)

structure QuotaInfo where
  (inputDetails outputDetails : TokenDetails)
  modelName : String
  usePrice : Bool
  modelPrice : Rat := 0
  (modelRatio groupRatio : Rat)

/-- `decimal.Round(0)`: halves are rounded away from zero. -/
def roundHalfUp (d : Rat) : Int := if 0 ≤ d then ⌊d + 1 / 2⌋ else ⌈d - 1 / 2⌉

def calculateAudioQuota (cfg : RatioSettings) (info : QuotaInfo) : Int :=
  if info.usePrice then intPart (info.modelPrice * cfg.quotaPerUnit * info.groupRatio)
  else
    let completionRatio := cfg.completionRatio info.modelName
    let audioRatio := cfg.audioRatio info.modelName
    let audioCompletionRatio := cfg.audioCompletionRatio info.modelName
    let ratio := info.groupRatio * info.modelRatio
    let quota := (info.inputDetails.textTokens + info.outputDetails.textTokens * completionRatio +
      info.inputDetails.audioTokens * audioRatio +
      info.outputDetails.audioTokens * audioRatio * audioCompletionRatio) * ratio
    let quota := if ratio ≠ 0 ∧ quota ≤ 0 then 1 else quota
    intPart (roundHalfUp quota)

structure PriceData where
  (modelPrice modelRatio groupRatio : Rat)
  usePrice : Bool

/-- Its session shares the relay info, so that part is read from the session. -/
structure RealtimeInfo where
  session : BillingSession
  (originModelName upstreamModelName usingGroup userGroup : String)
  autoGroup : Option String
  usePrice : Bool
  priceData : PriceData

def RealtimeInfo.resolveGroup (info : RealtimeInfo) : RealtimeInfo :=
  { info with usingGroup := info.autoGroup.getD info.usingGroup }

def TokenDetails.ofUsage (usage : RealtimeUsage) : TokenDetails × TokenDetails :=
  (⟨usage.inputTokenDetails.textTokens, usage.inputTokenDetails.audioTokens⟩,
    ⟨usage.outputTokenDetails.textTokens, usage.outputTokenDetails.audioTokens⟩)

def responseQuota (cfg : RatioSettings) (info : RealtimeInfo) (usage : RealtimeUsage) : Int :=
  let usingGroup := info.resolveGroup.usingGroup
  calculateAudioQuota cfg
    { inputDetails := (TokenDetails.ofUsage usage).1
      outputDetails := (TokenDetails.ofUsage usage).2
      modelName := info.originModelName
      usePrice := info.usePrice
      modelRatio := cfg.modelRatio info.originModelName
      groupRatio :=
        (cfg.groupGroupRatio info.userGroup usingGroup).getD (cfg.groupRatio usingGroup) }

def postConsumeFunding (call : FundingCall) (relayInfo : RelayInfo) (quota : Int) (db : Database) :
    Except Err RelayInfo × Database :=
  if relayInfo.billingSource = .subscription then
    if relayInfo.subscriptionId = 0 then (.error "subscription id is missing", db)
    else if Int64.ofInt quota = 0 then (.ok relayInfo, db)
    else
      match postConsumeUserSubscriptionDelta call.subscription relayInfo.subscriptionId
          (.ofInt quota) db with
      | (.error e, db) => (.error e, db)
      | (.ok (), db) => (.ok { relayInfo with
          subscriptionPostDelta := relayInfo.subscriptionPostDelta + .ofInt quota }, db)
  else
    match (if 0 < quota then decreaseUserQuota call.wallet relayInfo.userId quota db
      else increaseUserQuota call.wallet relayInfo.userId (-quota) db) with
    | (.error e, db) => (.error e, db)
    | (.ok (), db) => (.ok relayInfo, db)

def postConsumeQuota (calls : SettleCalls) (relayInfo : RelayInfo) (quota : Int) (db : Database) :
    Except Err Unit × RelayInfo × Database :=
  match postConsumeFunding calls.funding relayInfo quota db with
  | (.error e, db) => (.error e, relayInfo, db)
  | (.ok relayInfo, db) =>
    let (result, db) := settleToken calls.token quota relayInfo db
    (result, relayInfo, db)

structure WssCalls where
  userQuota : Except Err Int
  token : Except Err (Int × Bool)
  post : SettleCalls := {}

def preWssConsumeQuota (cfg : RatioSettings) (formatQuota : Int → String) (calls : WssCalls)
    (info : RealtimeInfo) (usage : RealtimeUsage) (db : Database) :
    Except Err Unit × RealtimeInfo × Database :=
  if info.usePrice then (.ok (), info, db)
  else
    match calls.userQuota, calls.token with
    | .error e, _ => (.error e, info, db)
    | .ok _, .error e => (.error e, info, db)
    | .ok userQuota, .ok (remainQuota, unlimitedQuota) =>
      let info := info.resolveGroup
      let quota := responseQuota cfg info usage
      if userQuota < quota then
        (.error ("user quota is not enough, user quota: " ++ formatQuota userQuota ++
          ", need quota: " ++ formatQuota quota), info, db)
      else if !unlimitedQuota ∧ remainQuota < quota then
        (.error ("token quota is not enough, token remain quota: " ++ formatQuota remainQuota ++
          ", need quota: " ++ formatQuota quota), info, db)
      else
        let (result, relayInfo, db) := postConsumeQuota calls.post info.session.relayInfo quota db
        (result, { info with session := { info.session with relayInfo } }, db)

structure Metered where
  info : RealtimeInfo
  totalUsage : RealtimeUsage
  db : Database

/-- The total grows before the debit, also when the debit then fails. -/
def preConsumeUsage (cfg : RatioSettings) (formatQuota : Int → String) (calls : WssCalls)
    (usage : RealtimeUsage) (m : Metered) : Except Err Unit × Metered :=
  let (result, info, db) := preWssConsumeQuota cfg formatQuota calls m.info usage m.db
  (result, ⟨info, m.totalUsage.add usage, db⟩)

structure ConsumeLog where
  (userId promptTokens completionTokens : Int)
  modelName : String
  (quota tokenId : Int)
  group : String

def sessionQuota (cfg : RatioSettings) (tieredQuota : Option Int) (info : RealtimeInfo)
    (modelName : String) (usage : RealtimeUsage) : Int :=
  let quota := calculateAudioQuota cfg
    { inputDetails := (TokenDetails.ofUsage usage).1
      outputDetails := (TokenDetails.ofUsage usage).2
      modelName := modelName
      usePrice := info.priceData.usePrice
      modelPrice := info.priceData.modelPrice
      modelRatio := info.priceData.modelRatio
      groupRatio := info.priceData.groupRatio }
  if usage.totalTokens = 0 then 0 else tieredQuota.getD quota

/-- `tieredQuota` is what a tiered snapshot gives; a failed settlement is only logged. -/
def postWssConsumeQuota (cfg : RatioSettings) (tieredQuota : Option Int) (calls : SettleCalls)
    (modelName : String) (m : Metered) : ConsumeLog × Reply Err :=
  let quota := sessionQuota cfg tieredQuota m.info modelName m.totalUsage
  (⟨m.info.session.relayInfo.userId, m.totalUsage.inputTokens, m.totalUsage.outputTokens, modelName,
      quota, m.info.session.relayInfo.tokenId, m.info.usingGroup⟩,
    settle calls quota m.info.session m.db)

end DeepRouter.Billing

import DeepRouter.Relay.ApiError
import DeepRouter.Relay.Price

/-! # The retry loop of a relayed request

What the channel table, the handlers and the upstream answer in a turn of the loop is an `Attempt`. -/

namespace DeepRouter.Relay

open Store Runs

structure RetryParam where
  (tokenGroup modelName : String)
  retry : Int := 0
  resetNextTry : Bool := false

def RetryParam.increaseRetry (param : RetryParam) : RetryParam :=
  if param.resetNextTry then { param with resetNextTry := false }
  else { param with retry := param.retry + 1 }

structure StatusCodeRange where
  (start stop : Int)

structure RetrySettings where
  price : PriceSettings
  retryTimes : Int
  autoGroups : List String
  getUserAutoGroup : String → List String
  automaticRetryStatusCodeRanges : List StatusCodeRange

structure RelayRequest where
  price : PriceRequest
  (modelName tokenGroup userGroup usingGroup : String)
  (crossGroupRetry specificChannel : Bool := false)
  relayFormat : RelayFormat := .openai
  channel : ChannelMeta
  autoGroup : Option String := none
  autoGroupIndex : Option Nat := none
  smartRouterFallback : List String := []

abbrev ChannelSource := String → String → Int → Except Err (Option ChannelMeta)

structure BodyError where
  message : Err
  tooLarge : Bool

structure Attempt where
  source : ChannelSource
  setupError : Option ApiError := none
  bodyError : Option BodyError := none
  requestConversionChain : List RelayFormat := []
  finalRequestRelayFormat : Option RelayFormat := none
  responsesUsageInfo : Option (List (String × Int)) := none
  skipAfterAffinityFailure : Bool := false
  reply : Option ApiError := none

structure Selection where
  param : RetryParam
  autoGroup : Option String := none
  autoGroupIndex : Option Nat := none

inductive RelayPhase where
  | running
  | served
  | ended
deriving DecidableEq

structure RelayState where
  phase : RelayPhase
  selection : Selection
  usingGroup : String
  info : TextRelayInfo
  channel : ChannelMeta
  channelGroup : Option String
  smartRouterFallback : List String
  usedChannels : List Int := []
  newAPIError : Option ApiError := none

section

variable (cfg : RetrySettings) (crossGroupRetry : Bool) (source : ChannelSource)

def selectAutoGroup : List String → Nat → Int → Selection → Option (ChannelMeta × String) × Selection
  | [], _, _, selection => (none, selection)
  | autoGroup :: autoGroups, i, priorityRetry, selection =>
    match source autoGroup selection.param.modelName priorityRetry with
    | .ok (some channel) =>
      let selection := { selection with autoGroup := some autoGroup }
      if crossGroupRetry && decide (cfg.retryTimes ≤ priorityRetry) then
        (some (channel, autoGroup), { selection with
          autoGroupIndex := some (i + 1)
          param := { selection.param with retry := 0, resetNextTry := true } })
      else (some (channel, autoGroup), { selection with autoGroupIndex := some i })
    | _ => selectAutoGroup autoGroups (i + 1) 0 { selection with
        autoGroupIndex := some (i + 1), param := { selection.param with retry := 0 } }

def cacheGetRandomSatisfiedChannel (userGroup : String) (selection : Selection) :
    Except Err (Option ChannelMeta) × String × Selection :=
  let param := selection.param
  if param.tokenGroup = "auto" then
    if cfg.autoGroups = [] then
      (.error "auto groups is not enabled", param.tokenGroup, selection)
    else
      let startGroupIndex := selection.autoGroupIndex.getD 0
      match selectAutoGroup cfg crossGroupRetry source
          ((cfg.getUserAutoGroup userGroup).drop startGroupIndex) startGroupIndex param.retry
          selection with
      | (some (channel, autoGroup), selection) => (.ok (some channel), autoGroup, selection)
      | (none, selection) => (.ok none, param.tokenGroup, selection)
  else (source param.tokenGroup param.modelName param.retry, param.tokenGroup, selection)

end

def shouldMatchStatusCodeRanges (code : Int) : List StatusCodeRange → Bool
  | [] => false
  | range :: ranges =>
    if code < range.start then false
    else if code ≤ range.stop then true
    else shouldMatchStatusCodeRanges code ranges

def shouldRetryByStatusCode (cfg : RetrySettings) (code : Int) : Bool :=
  if code = 504 ∨ code = 524 then false
  else if code < 100 ∨ 599 < code then false
  else shouldMatchStatusCodeRanges code cfg.automaticRetryStatusCodeRanges

def shouldRetry (cfg : RetrySettings) (request : RelayRequest) (attempt : Attempt)
    (err : ApiError) (retryTimes : Int) : Bool :=
  if attempt.skipAfterAffinityFailure then false
  else if isChannelError err then true
  else if err.skipRetry then false
  else if retryTimes ≤ 0 then false
  else if request.specificChannel then false
  else if 200 ≤ err.statusCode ∧ err.statusCode < 300 then false
  else if err.statusCode < 100 ∨ 599 < err.statusCode then true
  else if err.errorCode = "bad_response_body" then false
  else shouldRetryByStatusCode cfg err.statusCode

namespace RelayState

variable (cfg : RetrySettings) (request : RelayRequest)

def turn (state : RelayState) : RelayState :=
  if state.selection.param.retry ≤ cfg.retryTimes then { state with phase := .running }
  else { state with phase := .ended }

def next (state : RelayState) : RelayState :=
  turn cfg { state with
    selection := { state.selection with param := state.selection.param.increaseRetry } }

def fail (err : ApiError) (state : RelayState) : RelayState :=
  { state with phase := .ended, newAPIError := some err }

def tryCrossModelFallback (state : RelayState) : Option RelayState :=
  match state.smartRouterFallback with
  | [] => none
  | nextModel :: chain => some { state with
      smartRouterFallback := chain
      info := { state.info with originModelName := nextModel }
      selection := { state.selection with
        param := { state.selection.param with modelName := nextModel, retry := -1 } } }

def isChannelExhaustionError (err : ApiError) : Bool := err.errorCode = "get_channel_failed"

def reselected (selection : Selection) (state : RelayState) : RelayState :=
  let (groupRatioInfo, usingGroup) :=
    handleGroupRatio cfg.price selection.autoGroup request.userGroup state.usingGroup
  { state with
    selection, usingGroup
    info := { state.info with priceData := { state.info.priceData with groupRatioInfo } } }

def getChannel (attempt : Attempt) (state : RelayState) : Except ApiError ChannelMeta × RelayState :=
  if state.info.channelMeta = none then (.ok state.channel, state)
  else
    let (found, selectGroup, selection) := cacheGetRandomSatisfiedChannel cfg
      request.crossGroupRetry attempt.source request.userGroup state.selection
    let state := reselected cfg request selection state
    match found with
    | .error e => (.error (.final "get_channel_failed" ("获取分组 " ++ selectGroup ++ " 下模型 " ++
        state.info.originModelName ++ " 的可用渠道失败（retry）: " ++ e) 500), state)
    | .ok none => (.error (.final "get_channel_failed" ("分组 " ++ selectGroup ++ " 下模型 " ++
        state.info.originModelName ++ " 的可用渠道不存在（retry）") 500), state)
    | .ok (some channel) =>
      -- the channel is in the context before its key is looked for
      let state := { state with channel, channelGroup := some selectGroup }
      match attempt.setupError with
      | some err => (.error err, state)
      | none => (.ok channel, state)

def handled (attempt : Attempt) (state : RelayState) : RelayState :=
  { state with
    usedChannels := state.usedChannels ++ [state.channel.channelId]
    info := { state.info with
      channelMeta := some state.channel
      requestConversionChain := attempt.requestConversionChain
      finalRequestRelayFormat := attempt.finalRequestRelayFormat
      responsesUsageInfo := attempt.responsesUsageInfo } }

def bodyFailure (err : BodyError) : ApiError :=
  .final "read_request_body_failed" err.message (if err.tooLarge then 413 else 400)

def relay (attempt : Attempt) (state : RelayState) : RelayState :=
  match attempt.bodyError with
  | some err =>
    fail (bodyFailure err)
      { state with usedChannels := state.usedChannels ++ [state.channel.channelId] }
  | none =>
    let state := handled attempt state
    match attempt.reply with
    | none => { state with phase := .served, newAPIError := none }
    | some err =>
      if shouldRetry cfg request attempt err
          (cfg.retryTimes - state.selection.param.retry) then
        next cfg { state with newAPIError := some err }
      else fail err state

def step (state : RelayState) (attempt : Attempt) : RelayState :=
  if state.phase ≠ .running then state
  else
    match getChannel cfg request attempt state with
    | (.error err, state) =>
      if isChannelExhaustionError err then
        match tryCrossModelFallback state with
        | some state => next cfg state
        | none => fail err state
      else fail err state
    | (.ok _, state) => relay cfg request attempt state

end RelayState

def enteredInfo (request : RelayRequest) (billing : RequestBilling) (priced : Priced) :
    TextRelayInfo :=
  { billing
    originModelName := request.modelName
    channelMeta := none
    relayFormat := request.relayFormat
    estimatePromptTokens := request.price.promptTokens
    priceData := priced.priceData
    tieredBillingSnapshot := priced.snapshot
    billingRequestInput := priced.requestInput }

def enterLoop (cfg : RetrySettings) (request : RelayRequest) (billing : RequestBilling)
    (usingGroup : String) (priced : Priced) : RelayState :=
  RelayState.turn cfg
    { phase := .running
      selection :=
        { param := { tokenGroup := request.tokenGroup, modelName := request.modelName }
          autoGroup := request.autoGroup
          autoGroupIndex := request.autoGroupIndex }
      usingGroup
      info := enteredInfo request billing priced
      channel := request.channel
      channelGroup := request.autoGroup
      smartRouterFallback := request.smartRouterFallback }

def startRelay (cfg : RetrySettings) (request : RelayRequest) (billing : RequestBilling) :
    Except ApiError RelayState :=
  let (groupRatioInfo, usingGroup) :=
    handleGroupRatio cfg.price request.autoGroup request.userGroup request.usingGroup
  match modelPriceHelper cfg.price request.price request.modelName groupRatioInfo with
  | .error e => .error { errorCode := "model_price_error", message := e, statusCode := 400 }
  | .ok priced => .ok (enterLoop cfg request billing usingGroup priced)

end DeepRouter.Relay

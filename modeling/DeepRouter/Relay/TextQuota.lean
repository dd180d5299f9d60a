import DeepRouter.Billing.Realtime

/-! # The quota of a text request

Ratios, prices and expression results are decimals, taken as exact, and the evaluation of an
expression is a parameter. -/

namespace DeepRouter.Relay

open GoStrings Billing TopUps

structure InputTokenDetails where
  (cachedTokens cachedCreationTokens textTokens audioTokens imageTokens : Int := 0)
deriving DecidableEq

structure OutputTokenDetails where
  (textTokens audioTokens imageTokens : Int := 0)
deriving DecidableEq

inductive UsageCost where
  | unset
  | float (cost : Rat)
  | int (cost : Int)
deriving DecidableEq

structure Usage where
  (promptTokens completionTokens totalTokens : Int := 0)
  (usageSemantic usageSource : String := "")
  promptTokensDetails : InputTokenDetails := {}
  completionTokenDetails : OutputTokenDetails := {}
  (claudeCacheCreation5mTokens claudeCacheCreation1hTokens : Int := 0)
  cost : UsageCost := .unset

inductive RelayFormat where
  | openai
  | claude
  | gemini
  | openaiResponses
  | other (name : String)
deriving DecidableEq

structure GroupRatioInfo where
  groupRatio : Rat := 1
  groupSpecialRatio : Rat := -1
  hasSpecialRatio : Bool := false

structure PriceData where
  freeModel : Bool := false
  (modelPrice modelRatio completionRatio cacheRatio cacheCreationRatio : Rat := 0)
  (cacheCreation5mRatio cacheCreation1hRatio imageRatio : Rat := 0)
  otherRatios : List (String × Rat) := []
  usePrice : Bool := false
  quotaToPreConsume : Int := 0
  groupRatioInfo : GroupRatioInfo := {}

structure RequestInput where
  headers : List (String × String) := []
  body : String := ""

inductive BillingMode where
  | ratio
  | tieredExpr
deriving DecidableEq

structure BillingSnapshot where
  billingMode : BillingMode
  exprString : String
  groupRatio : Rat
  estimatedQuotaAfterGroup : Int
  quotaPerUnit : Rat

structure TokenParams where
  (p c len cr cc cc1h img imgO ai ao : Rat := 0)

structure ExprEngine where
  usedVars : String → String → Bool
  run : String → TokenParams → RequestInput → Except String Rat

structure ToolPriceIndex where
  prefixes : String → List (String × Rat)
  defaults : String → Option Rat

def ToolPriceIndex.getToolPriceForModel (index : ToolPriceIndex) (toolName modelName : String) :
    Rat :=
  let matched := if modelName = "" then none
    else (index.prefixes toolName).find? fun entry => hasPrefix modelName entry.1
  match matched with
  | some entry => entry.2
  | none => (index.defaults toolName).getD 0

def ToolPriceIndex.getToolPrice (index : ToolPriceIndex) (toolName : String) : Rat :=
  index.getToolPriceForModel toolName ""

def getGPTImage1PriceOnceCall (quality size : String) : Rat :=
  match quality, size with
  | "low", "1024x1024" => 11 / 1000
  | "low", "1024x1536" => 16 / 1000
  | "low", "1536x1024" => 16 / 1000
  | "medium", "1024x1024" => 42 / 1000
  | "medium", "1024x1536" => 63 / 1000
  | "medium", "1536x1024" => 63 / 1000
  | "high", "1024x1024" => 167 / 1000
  | "high", "1024x1536" => 25 / 100
  | "high", "1536x1024" => 25 / 100
  | _, _ => 167 / 1000

def getGeminiInputAudioPricePerMillionTokens (modelName : String) : Rat :=
  if hasPrefix modelName "gemini-2.5-flash-preview-native-audio" then 3
  else if hasPrefix modelName "gemini-2.5-flash-preview-lite" then 1 / 2
  else if hasPrefix modelName "gemini-2.5-flash-preview" then 1
  else if hasPrefix modelName "gemini-2.5-flash" then 1
  else if hasPrefix modelName "gemini-2.0-flash" then 7 / 10
  else if hasPrefix modelName "gemini-robotics-er-1.5" then 1
  else 0

structure TextSettings where
  quotaPerUnit : Rat
  toolPrices : ToolPriceIndex
  defaultModelRatio : String → Option Rat
  engine : ExprEngine

structure ToolCalls where
  claudeWebSearchRequests : Int := 0
  imageGenerationCall : Option (String × String) := none

structure ChannelMeta where
  (channelId channelType : Int)
deriving DecidableEq

def channelTypeOpenRouter : Int := 20

inductive RequestBilling where
  | opened (session : BillingSession)
  | unbilled (relayInfo : RelayInfo)

def RequestBilling.relayInfo : RequestBilling → RelayInfo
  | .opened session => session.relayInfo
  | .unbilled relayInfo => relayInfo

structure TextRelayInfo where
  billing : RequestBilling
  originModelName : String
  channelMeta : Option ChannelMeta
  relayFormat : RelayFormat
  requestConversionChain : List RelayFormat := []
  finalRequestRelayFormat : Option RelayFormat := none
  estimatePromptTokens : Int
  priceData : PriceData
  tieredBillingSnapshot : Option BillingSnapshot := none
  billingRequestInput : Option RequestInput := none
  responsesUsageInfo : Option (List (String × Int)) := none

def TextRelayInfo.getFinalRequestRelayFormat (info : TextRelayInfo) : RelayFormat :=
  match info.finalRequestRelayFormat with
  | some format => format
  | none => info.requestConversionChain.getLast?.getD info.relayFormat

def usageSemanticFromUsage (info : TextRelayInfo) (usage : Option Usage) : String :=
  match usage with
  | some usage =>
    if usage.usageSemantic ≠ "" then usage.usageSemantic
    else if info.getFinalRequestRelayFormat = .claude then "anthropic" else "openai"
  | none => if info.getFinalRequestRelayFormat = .claude then "anthropic" else "openai"

def isLegacyClaudeDerivedOpenAIUsage (info : TextRelayInfo) (usage : Usage) : Bool :=
  if info.getFinalRequestRelayFormat = .claude then false
  else if usage.usageSource ≠ "" ∨ usage.usageSemantic ≠ "" then false
  else decide (0 < usage.claudeCacheCreation5mTokens ∨ 0 < usage.claudeCacheCreation1hTokens)

section

variable (cfg : TextSettings) (info : TextRelayInfo) (groupRatio : Rat)

def TextRelayInfo.builtInCalls (tool : String) : Option Int :=
  match info.responsesUsageInfo with
  | none => none
  | some tools => (tools.lookup tool).filter (0 < ·)

def webSearchSurcharge : Rat :=
  let price := cfg.toolPrices.getToolPriceForModel "web_search_preview" info.originModelName
  match info.responsesUsageInfo with
  | some _ =>
    match info.builtInCalls "web_search_preview" with
    | some callCount => price * callCount / 1000 * groupRatio * cfg.quotaPerUnit
    | none => 0
  | none =>
    if hasSuffix info.originModelName "search-preview" then
      price / 1000 * groupRatio * cfg.quotaPerUnit
    else 0

def claudeWebSearchSurcharge (calls : ToolCalls) : Rat :=
  if 0 < calls.claudeWebSearchRequests then
    cfg.toolPrices.getToolPrice "web_search" / 1000 * groupRatio * cfg.quotaPerUnit *
      calls.claudeWebSearchRequests
  else 0

def fileSearchSurcharge : Rat :=
  match info.builtInCalls "file_search" with
  | some callCount =>
    cfg.toolPrices.getToolPrice "file_search" * callCount / 1000 * groupRatio *
      cfg.quotaPerUnit
  | none => 0

def imageGenerationSurcharge (calls : ToolCalls) : Rat :=
  match calls.imageGenerationCall with
  | some (quality, size) =>
    getGPTImage1PriceOnceCall quality size * groupRatio * cfg.quotaPerUnit
  | none => 0

def calculateTextToolCallSurcharge (calls : ToolCalls) : Rat :=
  webSearchSurcharge cfg info groupRatio +
    claudeWebSearchSurcharge cfg groupRatio calls +
    fileSearchSurcharge cfg info groupRatio +
    imageGenerationSurcharge cfg groupRatio calls

end

def hasCustomModelRatio (cfg : TextSettings) (modelName : String) (currentRatio : Rat) : Bool :=
  match cfg.defaultModelRatio modelName with
  | none => true
  | some defaultRatio => decide (currentRatio ≠ defaultRatio)

def calcOpenRouterCacheCreateTokens (cfg : TextSettings) (usage : Usage)
    (priceData : PriceData) : Int :=
  if priceData.cacheCreationRatio = 1 then 0
  else
    let quotaPrice := priceData.modelRatio / cfg.quotaPerUnit
    let promptCacheCreatePrice := quotaPrice * priceData.cacheCreationRatio
    let promptCacheReadPrice := quotaPrice * priceData.cacheRatio
    let completionPrice := quotaPrice * priceData.completionRatio
    let cost : Rat := match usage.cost with
      | .float cost => cost
      | _ => 0
    roundHalfUp ((cost - usage.promptTokens * quotaPrice +
      usage.promptTokensDetails.cachedTokens * (quotaPrice - promptCacheReadPrice) -
      usage.completionTokens * completionPrice) / (promptCacheCreatePrice - quotaPrice))

structure TextQuotaSummary where
  (promptTokens completionTokens totalTokens cacheTokens cacheCreationTokens : Int)
  (cacheCreationTokens5m cacheCreationTokens1h imageTokens audioTokens : Int)
  modelName : String
  groupRatio : Rat
  isClaudeUsageSemantic : Bool
  quota : Int := 0
  toolCallSurchargeQuota : Rat := 0

def summaryOfUsage (info : TextRelayInfo) (isClaudeUsageSemantic : Bool) (usage : Usage) :
    TextQuotaSummary where
  promptTokens := usage.promptTokens
  completionTokens := usage.completionTokens
  totalTokens := usage.promptTokens + usage.completionTokens
  cacheTokens := usage.promptTokensDetails.cachedTokens
  cacheCreationTokens := usage.promptTokensDetails.cachedCreationTokens
  cacheCreationTokens5m := usage.claudeCacheCreation5mTokens
  cacheCreationTokens1h := usage.claudeCacheCreation1hTokens
  imageTokens := usage.promptTokensDetails.imageTokens
  audioTokens := usage.promptTokensDetails.audioTokens
  modelName := info.originModelName
  groupRatio := info.priceData.groupRatioInfo.groupRatio
  isClaudeUsageSemantic

def isOpenRouterClaudeBilling (info : TextRelayInfo) (summary : TextQuotaSummary) : Bool :=
  match info.channelMeta with
  | none => false
  | some channel =>
    decide (channel.channelType = channelTypeOpenRouter) && summary.isClaudeUsageSemantic

def splitOpenRouterTokens (cfg : TextSettings) (info : TextRelayInfo) (usage : Usage)
    (summary : TextQuotaSummary) : TextQuotaSummary :=
  let priceData := info.priceData
  let promptTokens := summary.promptTokens - summary.cacheTokens
  let isUsingCustomSettings :=
    priceData.usePrice || hasCustomModelRatio cfg summary.modelName priceData.modelRatio
  let cacheCreationTokens :=
    if summary.cacheCreationTokens = 0 ∧ priceData.cacheCreationRatio ≠ 1 ∧ usage.cost ≠ .int 0 ∧
        !isUsingCustomSettings then
      let tokens := calcOpenRouterCacheCreateTokens cfg usage priceData
      if 0 ≤ tokens ∧ tokens ≤ promptTokens then tokens else summary.cacheCreationTokens
    else summary.cacheCreationTokens
  { summary with promptTokens := promptTokens - cacheCreationTokens, cacheCreationTokens }

def tokenQuota (priceData : PriceData) (summary : TextQuotaSummary) (legacyClaudeDerived : Bool)
    (audioPriced : Bool) : Rat :=
  let included := !summary.isClaudeUsageSemantic && !legacyClaudeDerived
  let hasSplit := decide (0 < summary.cacheCreationTokens5m ∨ 0 < summary.cacheCreationTokens1h)
  let writes := decide (summary.cacheCreationTokens ≠ 0) || hasSplit
  let baseTokens : Int := summary.promptTokens -
    (if included then summary.cacheTokens else 0) -
    (if included && writes then summary.cacheCreationTokens else 0) -
    summary.imageTokens -
    (if audioPriced then summary.audioTokens else 0)
  let cachedTokensWithRatio := summary.cacheTokens * priceData.cacheRatio
  let cachedCreationTokensWithRatio : Rat :=
    if !writes then 0
    else if included then summary.cacheCreationTokens * priceData.cacheCreationRatio
    else
      let remaining := max 0 (summary.cacheCreationTokens - summary.cacheCreationTokens5m -
        summary.cacheCreationTokens1h)
      remaining * priceData.cacheCreationRatio +
        summary.cacheCreationTokens5m * priceData.cacheCreation5mRatio +
        summary.cacheCreationTokens1h * priceData.cacheCreation1hRatio
  let imageTokensWithRatio := summary.imageTokens * priceData.imageRatio
  baseTokens + cachedTokensWithRatio + imageTokensWithRatio + cachedCreationTokensWithRatio +
    summary.completionTokens * priceData.completionRatio

def applyOtherRatios (priceData : PriceData) (quota : Rat) : Rat :=
  priceData.otherRatios.foldl (fun quota ratio => quota * ratio.2) quota

def ratioQuota (cfg : TextSettings) (info : TextRelayInfo) (summary : TextQuotaSummary)
    (legacyClaudeDerived : Bool) : Int :=
  let priceData := info.priceData
  let ratio := priceData.modelRatio * summary.groupRatio
  let audioInputPrice := getGeminiInputAudioPricePerMillionTokens summary.modelName
  let audioPriced := decide (summary.audioTokens ≠ 0 ∧ 0 < audioInputPrice)
  let audioInputQuota : Rat := if audioPriced then
      audioInputPrice / 1000000 * summary.audioTokens * summary.groupRatio * cfg.quotaPerUnit
    else 0
  let quota := tokenQuota priceData summary legacyClaudeDerived audioPriced * ratio +
    summary.toolCallSurchargeQuota + audioInputQuota
  let quota := applyOtherRatios priceData quota
  let quota := if ratio ≠ 0 ∧ quota ≤ 0 then 1 else quota
  intPart (roundHalfUp quota)

def priceQuota (cfg : TextSettings) (info : TextRelayInfo) (summary : TextQuotaSummary) : Int :=
  let priceData := info.priceData
  let quota := priceData.modelPrice * cfg.quotaPerUnit * summary.groupRatio +
    summary.toolCallSurchargeQuota
  intPart (roundHalfUp (applyOtherRatios priceData quota))

def calculateTextQuotaSummary (cfg : TextSettings) (calls : ToolCalls) (info : TextRelayInfo)
    (usage : Option Usage) : TextQuotaSummary :=
  let isClaudeUsageSemantic := decide (usageSemanticFromUsage info usage = "anthropic")
  let usage := usage.getD
    { promptTokens := info.estimatePromptTokens, totalTokens := info.estimatePromptTokens }
  let summary := summaryOfUsage info isClaudeUsageSemantic usage
  let legacyClaudeDerived := isLegacyClaudeDerivedOpenAIUsage info usage
  let summary := if isOpenRouterClaudeBilling info summary then
      splitOpenRouterTokens cfg info usage summary
    else summary
  let ratio := info.priceData.modelRatio * summary.groupRatio
  let summary := { summary with
    toolCallSurchargeQuota :=
      calculateTextToolCallSurcharge cfg info summary.groupRatio calls }
  let quota := if info.priceData.usePrice then priceQuota cfg info summary
    else ratioQuota cfg info summary legacyClaudeDerived
  let quota := if summary.totalTokens = 0 then 0
    else if ratio ≠ 0 ∧ quota = 0 then 1
    else quota
  { summary with quota }

/-- A sub-category leaves the prompt or the completion when the expression prices it. -/
def buildTieredTokenParams (usage : Usage) (isClaudeUsageSemantic : Bool)
    (usedVars : String → Bool) : TokenParams :=
  let cr : Rat := usage.promptTokensDetails.cachedTokens
  let isAnthropic := usage.usageSemantic = "anthropic"
  let cc5m : Rat := if isAnthropic then usage.claudeCacheCreation5mTokens
    else usage.promptTokensDetails.cachedCreationTokens
  let cc1h : Rat := if isAnthropic then usage.claudeCacheCreation1hTokens else 0
  let img : Rat := usage.promptTokensDetails.imageTokens
  let ai : Rat := usage.promptTokensDetails.audioTokens
  let imgO : Rat := usage.completionTokenDetails.imageTokens
  let ao : Rat := usage.completionTokenDetails.audioTokens
  let p : Rat := usage.promptTokens
  let c : Rat := usage.completionTokens
  let inputLen := if isClaudeUsageSemantic then p + cr + cc5m + cc1h else p
  let priced (name : String) (count : Rat) : Rat :=
    if !isClaudeUsageSemantic && usedVars name then count else 0
  let p := p - priced "cr" cr - priced "cc" cc5m - priced "cc1h" cc1h - priced "img" img -
    priced "ai" ai
  let c := c - priced "img_o" imgO - priced "ao" ao
  { p := max 0 p, c := max 0 c, len := inputLen, cr, cc := cc5m, cc1h, img, imgO, ai, ao }

structure TieredResult where
  actualQuotaBeforeGroup : Rat
  actualQuotaAfterGroup : Int

def quotaRound (f : Rat) : Int := roundHalfUp f

def computeTieredQuotaWithRequest (engine : ExprEngine) (snap : BillingSnapshot)
    (params : TokenParams) (request : RequestInput) : Except String TieredResult :=
  match engine.run snap.exprString params request with
  | .error e => .error e
  | .ok cost =>
    let quotaBeforeGroup := cost / 1000000 * snap.quotaPerUnit
    .ok ⟨quotaBeforeGroup, quotaRound (quotaBeforeGroup * snap.groupRatio)⟩

def TextRelayInfo.tieredSnapshot (info : TextRelayInfo) : Option BillingSnapshot :=
  info.tieredBillingSnapshot.filter (·.billingMode = .tieredExpr)

def tryTieredSettle (engine : ExprEngine) (info : TextRelayInfo) (params : TokenParams) :
    Option (Int × Option TieredResult) :=
  match info.tieredSnapshot with
  | none => none
  | some snap =>
    match computeTieredQuotaWithRequest engine snap params (info.billingRequestInput.getD {}) with
    | .error _ =>
      let quota := info.billing.relayInfo.finalPreConsumedQuota
      some (if quota ≤ 0 then snap.estimatedQuotaAfterGroup else quota, none)
    | .ok result => some (result.actualQuotaAfterGroup, some result)

def composeTieredTextQuota (info : TextRelayInfo) (summary : TextQuotaSummary) (tieredQuota : Int)
    (tieredResult : Option TieredResult) : Int :=
  if summary.toolCallSurchargeQuota = 0 then tieredQuota
  else
    match tieredResult, info.tieredBillingSnapshot with
    | some result, some snap =>
      intPart (roundHalfUp (result.actualQuotaBeforeGroup * snap.groupRatio +
        summary.toolCallSurchargeQuota))
    | _, _ => tieredQuota + intPart (roundHalfUp summary.toolCallSurchargeQuota)

def TextRelayInfo.usedVars (engine : ExprEngine) (info : TextRelayInfo) (name : String) : Bool :=
  match info.tieredBillingSnapshot with
  | none => false
  | some snap => engine.usedVars snap.exprString name

def textQuotaSummary (cfg : TextSettings) (calls : ToolCalls) (info : TextRelayInfo)
    (usage : Option Usage) : TextQuotaSummary :=
  let summary := calculateTextQuotaSummary cfg calls info usage
  match usage with
  | none => summary
  | some usage =>
    let params := buildTieredTokenParams usage summary.isClaudeUsageSemantic
      (info.usedVars cfg.engine)
    match tryTieredSettle cfg.engine info params with
    | none => summary
    | some (tieredQuota, tieredResult) =>
      { summary with quota := composeTieredTextQuota info summary tieredQuota tieredResult }

theorem textQuotaSummary_untiered {cfg : TextSettings} {tools : ToolCalls}
    {info : TextRelayInfo} {usage : Option Usage} (h : info.tieredSnapshot = none) :
    textQuotaSummary cfg tools info usage = calculateTextQuotaSummary cfg tools info usage := by
  cases usage with
  | none => rfl
  | some usage => simp only [textQuotaSummary, tryTieredSettle, h]

section

variable (cfg : TextSettings) (info : TextRelayInfo) (billing : RequestBilling)
  (snapshot : Option BillingSnapshot) (requestInput : Option RequestInput) (freeModel : Bool)
  (quotaToPreConsume : Int)

def TextRelayInfo.rebilled : TextRelayInfo :=
  { info with
    billing, tieredBillingSnapshot := snapshot, billingRequestInput := requestInput
    priceData := { info.priceData with freeModel, quotaToPreConsume } }

theorem calculateTextToolCallSurcharge_rebilled (groupRatio : Rat) (calls : ToolCalls) :
    calculateTextToolCallSurcharge cfg
        (info.rebilled billing snapshot requestInput freeModel quotaToPreConsume) groupRatio calls =
      calculateTextToolCallSurcharge cfg info groupRatio calls := rfl

theorem splitOpenRouterTokens_rebilled (usage : Usage) (summary : TextQuotaSummary) :
    splitOpenRouterTokens cfg
        (info.rebilled billing snapshot requestInput freeModel quotaToPreConsume) usage summary =
      splitOpenRouterTokens cfg info usage summary := rfl

theorem priceQuota_rebilled (summary : TextQuotaSummary) :
    priceQuota cfg
        (info.rebilled billing snapshot requestInput freeModel quotaToPreConsume) summary =
      priceQuota cfg info summary := rfl

theorem tokenQuota_rebilled (summary : TextQuotaSummary) (legacy audioPriced : Bool) :
    tokenQuota (info.rebilled billing snapshot requestInput freeModel quotaToPreConsume).priceData
        summary legacy audioPriced = tokenQuota info.priceData summary legacy audioPriced := rfl

theorem ratioQuota_rebilled (summary : TextQuotaSummary) (legacy : Bool) :
    ratioQuota cfg
        (info.rebilled billing snapshot requestInput freeModel quotaToPreConsume) summary legacy =
      ratioQuota cfg info summary legacy := by
  simp only [ratioQuota, tokenQuota_rebilled]
  rfl

theorem calculateTextQuotaSummary_rebilled (calls : ToolCalls) (usage : Option Usage) :
    calculateTextQuotaSummary cfg calls
        (info.rebilled billing snapshot requestInput freeModel quotaToPreConsume) usage =
      calculateTextQuotaSummary cfg calls info usage := by
  simp only [calculateTextQuotaSummary, splitOpenRouterTokens_rebilled, priceQuota_rebilled,
    ratioQuota_rebilled, calculateTextToolCallSurcharge_rebilled]
  rfl

end

end DeepRouter.Relay

import DeepRouter.Relay.TextQuota
import DeepRouter.TopUps.ManualCredit

/-! # The charge by ratio -/

namespace DeepRouter.Relay

open Billing TopUps

section

variable (cfg : TextSettings) (calls : ToolCalls) (info : TextRelayInfo)

def chargedUsage (usage : Option Usage) : Usage :=
  usage.getD { promptTokens := info.estimatePromptTokens, totalTokens := info.estimatePromptTokens }

def countedSummary (usage : Option Usage) : TextQuotaSummary :=
  let summary := summaryOfUsage info (decide (usageSemanticFromUsage info usage = "anthropic"))
    (chargedUsage info usage)
  if isOpenRouterClaudeBilling info summary then
    splitOpenRouterTokens cfg info (chargedUsage info usage) summary
  else summary

def audioPriced (usage : Option Usage) : Bool :=
  decide ((chargedUsage info usage).promptTokensDetails.audioTokens ≠ 0 ∧
    0 < getGeminiInputAudioPricePerMillionTokens info.originModelName)

def weighedTokens (usage : Option Usage) : Rat :=
  tokenQuota info.priceData (countedSummary cfg info usage)
    (isLegacyClaudeDerivedOpenAIUsage info (chargedUsage info usage)) (audioPriced info usage)

def audioInputQuota (usage : Option Usage) : Rat :=
  if audioPriced info usage then
    getGeminiInputAudioPricePerMillionTokens info.originModelName / 1000000 *
      (chargedUsage info usage).promptTokensDetails.audioTokens *
      info.priceData.groupRatioInfo.groupRatio * cfg.quotaPerUnit
  else 0

def PriceData.ratio (priceData : PriceData) : Rat :=
  priceData.modelRatio * priceData.groupRatioInfo.groupRatio

def decimalCharge (usage : Option Usage) (tokens : Rat) : Rat :=
  applyOtherRatios info.priceData (tokens * info.priceData.ratio +
    calculateTextToolCallSurcharge cfg info info.priceData.groupRatioInfo.groupRatio calls +
    audioInputQuota cfg info usage)

def quotaOfDecimal (priceData : PriceData) (totalTokens : Int) (decimal : Rat) : Int :=
  let quota := intPart
    (roundHalfUp (if priceData.ratio ≠ 0 ∧ decimal ≤ 0 then 1 else decimal))
  if totalTokens = 0 then 0
  else if priceData.ratio ≠ 0 ∧ quota = 0 then 1
  else quota

theorem decimalCharge_eq {usage : Option Usage} {tokens : Rat}
    (ho : info.priceData.otherRatios = [])
    (ha : (chargedUsage info usage).promptTokensDetails.audioTokens = 0) :
    decimalCharge cfg calls info usage tokens = tokens * info.priceData.ratio +
      calculateTextToolCallSurcharge cfg info info.priceData.groupRatioInfo.groupRatio calls := by
  simp [decimalCharge, applyOtherRatios, ho, audioInputQuota, audioPriced, ha]

theorem countedSummary_kept (usage : Option Usage) :
    let summary := countedSummary cfg info usage
    summary.audioTokens = (chargedUsage info usage).promptTokensDetails.audioTokens ∧
      summary.modelName = info.originModelName ∧
      summary.groupRatio = info.priceData.groupRatioInfo.groupRatio ∧
      summary.totalTokens =
        (chargedUsage info usage).promptTokens + (chargedUsage info usage).completionTokens := by
  simp only [countedSummary]
  split <;> exact ⟨rfl, rfl, rfl, rfl⟩

theorem isOpenRouterClaudeBilling_eq_true {summary : TextQuotaSummary} :
    isOpenRouterClaudeBilling info summary = true ↔
      ∃ ch, info.channelMeta = some ch ∧ ch.channelType = channelTypeOpenRouter ∧
        summary.isClaudeUsageSemantic = true := by
  cases hm : info.channelMeta with
  | none => simp [isOpenRouterClaudeBilling, hm]
  | some ch => simp [isOpenRouterClaudeBilling, hm]

theorem ratioQuota_surcharged (summary : TextQuotaSummary) (surcharge : Rat) (legacy : Bool) :
    let audioInputPrice := getGeminiInputAudioPricePerMillionTokens summary.modelName
    let priced := decide (summary.audioTokens ≠ 0 ∧ 0 < audioInputPrice)
    let ratio := info.priceData.modelRatio * summary.groupRatio
    let decimal := applyOtherRatios info.priceData
      (tokenQuota info.priceData summary legacy priced * ratio + surcharge +
        if priced then
          audioInputPrice / 1000000 * summary.audioTokens * summary.groupRatio * cfg.quotaPerUnit
        else 0)
    ratioQuota cfg info { summary with toolCallSurchargeQuota := surcharge } legacy =
      intPart (roundHalfUp (if ratio ≠ 0 ∧ decimal ≤ 0 then 1 else decimal)) := rfl

def surchargedSummary (usage : Option Usage) : TextQuotaSummary :=
  { countedSummary cfg info usage with
    toolCallSurchargeQuota := calculateTextToolCallSurcharge cfg info
      (countedSummary cfg info usage).groupRatio calls }

def computedQuota (usage : Option Usage) : Int :=
  if info.priceData.usePrice then priceQuota cfg info (surchargedSummary cfg calls info usage)
  else ratioQuota cfg info (surchargedSummary cfg calls info usage)
    (isLegacyClaudeDerivedOpenAIUsage info (chargedUsage info usage))

theorem calculateTextQuotaSummary_eq (usage : Option Usage) :
    calculateTextQuotaSummary cfg calls info usage =
      { surchargedSummary cfg calls info usage with
        quota :=
          if (countedSummary cfg info usage).totalTokens = 0 then 0
          else if info.priceData.modelRatio * (countedSummary cfg info usage).groupRatio ≠ 0 ∧
              computedQuota cfg calls info usage = 0 then 1
          else computedQuota cfg calls info usage } := rfl

theorem calculateTextQuotaSummary_quota (usage : Option Usage)
    (hr : info.priceData.usePrice = false) :
    (calculateTextQuotaSummary cfg calls info usage).quota =
      quotaOfDecimal info.priceData
        ((chargedUsage info usage).promptTokens + (chargedUsage info usage).completionTokens)
        (decimalCharge cfg calls info usage (weighedTokens cfg info usage)) := by
  obtain ⟨ha, hm, hg, ht⟩ := countedSummary_kept cfg info usage
  have hq : computedQuota cfg calls info usage = intPart (roundHalfUp (if info.priceData.ratio ≠ 0 ∧
          decimalCharge cfg calls info usage (weighedTokens cfg info usage) ≤ 0 then 1
        else decimalCharge cfg calls info usage (weighedTokens cfg info usage))) := by
    rw [computedQuota, hr, if_neg Bool.false_ne_true]
    refine (ratioQuota_surcharged cfg info (countedSummary cfg info usage) _ _).trans ?_
    simp only [ha, hm, hg]
    rfl
  rw [calculateTextQuotaSummary_eq, hq, hg, ht]
  rfl

end

theorem roundHalfUp_nonneg {d : Rat} (h : 0 ≤ d) : 0 ≤ roundHalfUp d := by
  rw [roundHalfUp, if_pos h, Int.floor_nonneg]
  linarith

theorem roundHalfUp_nonpos {d : Rat} (h : d ≤ 0) : roundHalfUp d ≤ 0 := by
  rw [roundHalfUp]
  split
  · rename_i hn
    rw [← Int.lt_add_one_iff, Int.floor_lt]
    push_cast
    linarith
  · rw [Int.ceil_le]
    push_cast
    linarith

theorem roundHalfUp_intCast (n : Int) : roundHalfUp n = n := by
  rw [roundHalfUp]
  split
  · rw [Int.floor_eq_iff]
    constructor <;> linarith
  · rw [Int.ceil_eq_iff]
    constructor <;> linarith

theorem roundHalfUp_one : roundHalfUp 1 = 1 := by
  exact_mod_cast roundHalfUp_intCast 1

theorem intPart_of_lt {n : Int} (hn : 0 ≤ n) (hf : n < 9223372036854775808) : intPart n = n := by
  rw [intPart_intCast]
  exact Int.bmod_eq_of_le (by omega) (by omega)

theorem quotaOfDecimal_total {priceData : PriceData} {first second : Int} {decimal : Rat}
    (hf : first ≠ 0) (hs : second ≠ 0) :
    quotaOfDecimal priceData first decimal = quotaOfDecimal priceData second decimal := by
  rw [quotaOfDecimal, quotaOfDecimal, if_neg hf, if_neg hs]

theorem quotaOfDecimal_eq {priceData : PriceData} {totalTokens : Int} {decimal : Rat}
    (hRat : priceData.ratio ≠ 0) (ht : totalTokens ≠ 0) (hf : roundHalfUp decimal < 9223372036854775808) :
    quotaOfDecimal priceData totalTokens decimal = max 1 (roundHalfUp decimal) := by
  rw [quotaOfDecimal, if_neg ht]
  by_cases hp : decimal ≤ 0
  · have hr := roundHalfUp_nonpos hp
    have hra : (if priceData.ratio ≠ 0 ∧ decimal ≤ 0 then 1 else decimal) = 1 := if_pos ⟨hRat, hp⟩
    rw [hra, roundHalfUp_one, intPart_of_lt (by omega) (by omega)]
    split <;> omega
  · have hr := roundHalfUp_nonneg (le_of_not_ge hp)
    have hk : (if priceData.ratio ≠ 0 ∧ decimal ≤ 0 then 1 else decimal) = decimal :=
      if_neg fun h => hp h.2
    rw [hk, intPart_of_lt hr hf]
    simp only [ne_eq, hRat, not_false_eq_true, true_and]
    split <;> omega

/-! ## Two ways to report the same tokens -/

structure TokenBreakdown where
  (plain cacheRead cacheCreation creation5m creation1h output : Nat)
  split_le : creation5m + creation1h ≤ cacheCreation
  charged : 0 < plain + output

namespace TokenBreakdown

variable (tokens : TokenBreakdown)

def openAIUsage (rest : Usage) : Usage :=
  { rest with
    promptTokens := tokens.plain + tokens.cacheRead + tokens.cacheCreation
    completionTokens := tokens.output
    usageSemantic := "openai"
    promptTokensDetails :=
      { rest.promptTokensDetails with
        cachedTokens := tokens.cacheRead, cachedCreationTokens := tokens.cacheCreation
        imageTokens := 0, audioTokens := 0 }
    claudeCacheCreation5mTokens := 0
    claudeCacheCreation1hTokens := 0 }

def anthropicUsage (rest : Usage) : Usage :=
  { rest with
    promptTokens := tokens.plain
    completionTokens := tokens.output
    usageSemantic := "anthropic"
    promptTokensDetails :=
      { rest.promptTokensDetails with
        cachedTokens := tokens.cacheRead, cachedCreationTokens := tokens.cacheCreation
        imageTokens := 0, audioTokens := 0 }
    claudeCacheCreation5mTokens := tokens.creation5m
    claudeCacheCreation1hTokens := tokens.creation1h }

def weighed (priceData : PriceData) : Rat :=
  tokens.plain + tokens.cacheRead * priceData.cacheRatio +
    tokens.cacheCreation * priceData.cacheCreationRatio + tokens.output * priceData.completionRatio

section

variable (cfg : TextSettings) (calls : ToolCalls) {info : TextRelayInfo} (rest : Usage)

theorem weighedTokens_openAI :
    weighedTokens cfg info (some (tokens.openAIUsage rest)) = tokens.weighed info.priceData := by
  have hs : countedSummary cfg info (some (tokens.openAIUsage rest)) =
      summaryOfUsage info false (tokens.openAIUsage rest) :=
    if_neg (by simp [isOpenRouterClaudeBilling_eq_true, summaryOfUsage, usageSemanticFromUsage,
      openAIUsage])
  have hl : isLegacyClaudeDerivedOpenAIUsage info (tokens.openAIUsage rest) = false := by
    simp [isLegacyClaudeDerivedOpenAIUsage, openAIUsage]
  simp only [weighedTokens, hs, chargedUsage, Option.getD_some, hl]
  simp only [tokenQuota, summaryOfUsage, openAIUsage, weighed, audioPriced, chargedUsage]
  by_cases hc : tokens.cacheCreation = 0
  · simp [hc]
  · simp [hc]
    ring

theorem weighedTokens_anthropic
    (h5m : info.priceData.cacheCreation5mRatio = info.priceData.cacheCreationRatio)
    (h1h : info.priceData.cacheCreation1hRatio = info.priceData.cacheCreationRatio)
    (hCh : ∀ ch, info.channelMeta = some ch →
      ch.channelType ≠ channelTypeOpenRouter) :
    weighedTokens cfg info (some (tokens.anthropicUsage rest)) = tokens.weighed info.priceData := by
  have hs : countedSummary cfg info (some (tokens.anthropicUsage rest)) =
      summaryOfUsage info true (tokens.anthropicUsage rest) :=
    if_neg (by
      rw [isOpenRouterClaudeBilling_eq_true]
      rintro ⟨ch, hso, ht, -⟩
      exact hCh ch hso ht)
  have hsp := tokens.split_le
  have hr : max 0 ((tokens.cacheCreation : Int) - tokens.creation5m - tokens.creation1h) =
      tokens.cacheCreation - tokens.creation5m - tokens.creation1h := by
    omega
  simp only [weighedTokens, hs, chargedUsage, Option.getD_some]
  simp only [tokenQuota, summaryOfUsage, anthropicUsage, weighed, audioPriced, chargedUsage, h5m, h1h,
    hr]
  by_cases hc : tokens.cacheCreation = 0
  · have hn : tokens.creation5m = 0 ∧ tokens.creation1h = 0 := by omega
    simp [hc, hn.1, hn.2]
  · simp [hc]
    ring

end

/-- On a channel other than OpenRouter both reports are charged alike. -/
theorem same_charge_of_reports (cfg : TextSettings) (calls : ToolCalls) (info : TextRelayInfo)
    (hRatio : info.priceData.usePrice = false) (hOther : info.priceData.otherRatios = [])
    (h5m : info.priceData.cacheCreation5mRatio = info.priceData.cacheCreationRatio)
    (h1h : info.priceData.cacheCreation1hRatio = info.priceData.cacheCreationRatio)
    (hChannel : ∀ channel, info.channelMeta = some channel →
      channel.channelType ≠ channelTypeOpenRouter) (openAIRest anthropicRest : Usage) :
    let openAI := some (tokens.openAIUsage openAIRest)
    let anthropic := some (tokens.anthropicUsage anthropicRest)
    let groupRatio := info.priceData.groupRatioInfo.groupRatio
    let amount := roundHalfUp (tokens.weighed info.priceData * info.priceData.modelRatio * groupRatio +
      calculateTextToolCallSurcharge cfg info groupRatio calls)
    (calculateTextQuotaSummary cfg calls info openAI).quota =
        (calculateTextQuotaSummary cfg calls info anthropic).quota ∧
      (0 < info.priceData.modelRatio * groupRatio → amount < 9223372036854775808 →
        (calculateTextQuotaSummary cfg calls info openAI).quota = max 1 amount) := by
  intro openAI anthropic groupRatio amount
  have hc := tokens.charged
  have ho := calculateTextQuotaSummary_quota cfg calls info openAI hRatio
  have ha := calculateTextQuotaSummary_quota cfg calls info anthropic hRatio
  rw [tokens.weighedTokens_openAI, decimalCharge_eq _ _ _ hOther rfl] at ho
  rw [tokens.weighedTokens_anthropic _ _ h5m h1h hChannel, decimalCharge_eq _ _ _ hOther rfl] at ha
  have ht : (tokens.plain + tokens.cacheRead + tokens.cacheCreation + tokens.output : Int) ≠ 0 := by
    omega
  have hp : (tokens.plain + tokens.output : Int) ≠ 0 := by
    omega
  refine ⟨?_, fun hpo hf => ?_⟩
  · rw [ho, ha]
    exact quotaOfDecimal_total ht hp
  rw [ho]
  have ham : amount = roundHalfUp (tokens.weighed info.priceData * info.priceData.ratio +
      calculateTextToolCallSurcharge cfg info groupRatio calls) := by
    rw [PriceData.ratio, ← mul_assoc]
  rw [ham] at hf ⊢
  exact quotaOfDecimal_eq hpo.ne' ht hf

def sampleTokens : TokenBreakdown := ⟨10, 20, 30, 5, 10, 7, by decide, by decide⟩

def sampleInfo : TextRelayInfo :=
  { billing := .unbilled ⟨7, 5, false, false, false, "r", "", 0, 0, .wallet, 0, 0, 0, 0, 0, 0, ""⟩
    originModelName := "small"
    channelMeta := some ⟨1, 1⟩
    relayFormat := .openai
    estimatePromptTokens := 0
    priceData :=
      { modelRatio := 3 / 2, completionRatio := 4, cacheRatio := 1 / 10, cacheCreationRatio := 5 / 4
        cacheCreation5mRatio := 5 / 4, cacheCreation1hRatio := 5 / 4 } }

def sampleTextSettings : TextSettings :=
  { quotaPerUnit := 500000
    toolPrices := ⟨fun _ => [], fun _ => some 10⟩
    defaultModelRatio := fun _ => none
    engine := ⟨fun _ _ => false, fun _ _ _ => .error "no expression"⟩ }

theorem same_charge_of_reports_sample :
    (calculateTextQuotaSummary sampleTextSettings { claudeWebSearchRequests := 1 } sampleInfo
        (some (sampleTokens.openAIUsage {}))).quota =
      (calculateTextQuotaSummary sampleTextSettings { claudeWebSearchRequests := 1 } sampleInfo
        (some (sampleTokens.anthropicUsage {}))).quota ∧
    (calculateTextQuotaSummary sampleTextSettings { claudeWebSearchRequests := 1 } sampleInfo
        (some (sampleTokens.openAIUsage {}))).quota = 5116 := by
  obtain ⟨hs, ha⟩ := same_charge_of_reports sampleTokens sampleTextSettings
    { claudeWebSearchRequests := 1 } sampleInfo rfl rfl rfl rfl
    (fun channel hc => by cases hc; decide) {} {}
  exact ⟨hs, (ha (by decide +kernel) (by decide +kernel)).trans (by decide +kernel)⟩

end TokenBreakdown

end DeepRouter.Relay

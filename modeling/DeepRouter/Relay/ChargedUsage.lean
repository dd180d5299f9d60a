import DeepRouter.Relay.Price
import DeepRouter.Relay.Settlement
import DeepRouter.Relay.TextCharge

/-! # Used tokens and missing usage -/

namespace DeepRouter.Relay

open GoStrings Billing TopUps
open TokenBreakdown (sampleInfo sampleTextSettings)

section

namespace Usage

variable (usage : Usage)

def Used : Prop :=
  0 < usage.promptTokens ∨ 0 < usage.completionTokens ∨
    0 < usage.promptTokensDetails.cachedTokens ∨
    0 < usage.promptTokensDetails.cachedCreationTokens ∨
    0 < usage.claudeCacheCreation5mTokens ∨ 0 < usage.claudeCacheCreation1hTokens ∨
    0 < usage.promptTokensDetails.textTokens ∨ 0 < usage.promptTokensDetails.audioTokens ∨
    0 < usage.completionTokenDetails.textTokens ∨ 0 < usage.completionTokenDetails.audioTokens
deriving Decidable

def Unused : Prop :=
  usage.promptTokens = 0 ∧ usage.completionTokens = 0 ∧ usage.totalTokens = 0 ∧
    usage.promptTokensDetails = {} ∧ usage.completionTokenDetails = {} ∧
    usage.claudeCacheCreation5mTokens = 0 ∧ usage.claudeCacheCreation1hTokens = 0
deriving Decidable

def NeverFree (quota : Int) : Prop :=
  (usage.Used → 1 ≤ quota) ∧ (usage.Unused → quota = 0)
deriving Decidable

end Usage

theorem intPart_roundHalfUp {decimal : Rat} (h : 0 < decimal) :
    intPart (roundHalfUp decimal) = ⌊decimal + 1 / 2⌋.bmod (2 ^ 64) := by
  rw [roundHalfUp, if_pos h.le, intPart_intCast]

theorem one_le_quotaOfDecimal {priceData : PriceData} (totalTokens : Int) (decimal : Rat)
    (hra : priceData.ratio ≠ 0) :
    1 ≤ quotaOfDecimal priceData totalTokens decimal ↔
      totalTokens ≠ 0 ∧ (0 < decimal → ⌊decimal + 1 / 2⌋ % 2 ^ 64 < 2 ^ 63) := by
  by_cases ht : totalTokens = 0
  · simp [quotaOfDecimal, ht]
  rw [quotaOfDecimal, if_neg ht]
  by_cases hp : 0 < decimal
  · have hk : (if priceData.ratio ≠ 0 ∧ decimal ≤ 0 then 1 else decimal) = decimal :=
      if_neg fun h => absurd h.2 (not_le.mpr hp)
    rw [hk, intPart_roundHalfUp hp, Int.bmod_def]
    simp only [ne_eq, hra, not_false_eq_true, true_and, ht, hp, true_imp_iff]
    omega
  · have hr : (if priceData.ratio ≠ 0 ∧ decimal ≤ 0 then 1 else decimal) = 1 :=
      if_pos ⟨hra, not_lt.mp hp⟩
    rw [hr, roundHalfUp_one, intPart_of_lt (by omega) (by omega)]
    simp [ht, hp]

def audioDecimal (ratios : RatioSettings) (info : TextRelayInfo) (usage : Usage) : Rat :=
  let model := info.originModelName
  (usage.promptTokensDetails.textTokens + usage.completionTokenDetails.textTokens *
    ratios.completionRatio model + usage.promptTokensDetails.audioTokens * ratios.audioRatio model +
    usage.completionTokenDetails.audioTokens * ratios.audioRatio model * ratios.audioCompletionRatio
    model) *
    (info.priceData.groupRatioInfo.groupRatio * info.priceData.modelRatio)

variable {cfg : TextSettings} {ratios : RatioSettings} {info : TextRelayInfo}

theorem audioQuota_untiered (usage : Usage) (ht : info.tieredSnapshot = none)
    (hp : info.priceData.usePrice = false) :
    audioQuota cfg ratios info usage =
      if usage.totalTokens = 0 then 0
      else intPart (roundHalfUp
        (if info.priceData.groupRatioInfo.groupRatio * info.priceData.modelRatio ≠ 0 ∧
            audioDecimal ratios info usage ≤ 0 then 1
          else audioDecimal ratios info usage)) := by
  simp only [audioQuota, tryTieredSettle, ht, calculateAudioQuota, hp, Bool.false_eq_true, if_false]
  rfl

theorem one_le_audioQuota (usage : Usage) (ht : info.tieredSnapshot = none)
    (hp : info.priceData.usePrice = false) (hRatio : info.priceData.ratio ≠ 0) :
    1 ≤ audioQuota cfg ratios info usage ↔
      usage.totalTokens ≠ 0 ∧ (0 < audioDecimal ratios info usage →
        1 / 2 ≤ audioDecimal ratios info usage ∧
          0 < ⌊audioDecimal ratios info usage + 1 / 2⌋ % 2 ^ 64 ∧
          ⌊audioDecimal ratios info usage + 1 / 2⌋ % 2 ^ 64 < 2 ^ 63) := by
  have hRatio' : info.priceData.groupRatioInfo.groupRatio * info.priceData.modelRatio ≠ 0 := by
    rw [mul_comm]
    exact hRatio
  rw [audioQuota_untiered usage ht hp]
  generalize audioDecimal ratios info usage = decimal
  by_cases hto : usage.totalTokens = 0
  · simp [hto]
  rw [if_neg hto]
  by_cases hpo : 0 < decimal
  · -- below 1/2 the amount rounds to nothing
    have hh : 1 / 2 ≤ decimal ↔ 1 ≤ ⌊decimal + 1 / 2⌋ := by
      rw [Int.le_floor]
      push_cast
      constructor <;> intro h <;> linarith
    have hn : 0 ≤ ⌊decimal + 1 / 2⌋ := Int.floor_nonneg.mpr (by linarith)
    rw [if_neg fun h => absurd h.2 (not_le.mpr hpo), intPart_roundHalfUp hpo, Int.bmod_def, hh]
    simp only [ne_eq, hto, not_false_eq_true, hpo, true_imp_iff, true_and]
    omega
  · rw [if_pos ⟨hRatio', not_lt.mp hpo⟩, roundHalfUp_one, intPart_of_lt (by omega) (by omega)]
    simp [hto, hpo]

/-- Used tokens are charged when the total counts them and the rounded amount is positive as an
`int`, which the audio path, unlike the text path, does not raise to one. -/
theorem used_tokens_charged_iff (calls : ToolCalls) (usage : Usage)
    (hTier : info.tieredSnapshot = none) (hPrice : info.priceData.usePrice = false)
    (hRatio : 0 < info.priceData.ratio) :
    let text := decimalCharge cfg calls info (some usage)
      (weighedTokens cfg info (some usage))
    let audio := audioDecimal ratios info usage
    (usage.NeverFree (calculateTextQuotaSummary cfg calls info (some usage)).quota ↔
      (usage.Used → usage.promptTokens + usage.completionTokens ≠ 0 ∧
        (0 < text → ⌊text + 1 / 2⌋ % 2 ^ 64 < 2 ^ 63))) ∧
    (usage.NeverFree (audioQuota cfg ratios info usage) ↔
      (usage.Used → usage.totalTokens ≠ 0 ∧ (0 < audio →
        1 / 2 ≤ audio ∧ 0 < ⌊audio + 1 / 2⌋ % 2 ^ 64 ∧ ⌊audio + 1 / 2⌋ % 2 ^ 64 < 2 ^ 63))) := by
  intro text audio
  constructor
  · have hq := calculateTextQuotaSummary_quota cfg calls info (some usage) hPrice
    have hf : usage.Unused → (calculateTextQuotaSummary cfg calls info (some usage)).quota = 0 := by
      rintro ⟨hp, hc, -⟩
      rw [hq, quotaOfDecimal, if_pos]
      simp [chargedUsage, hp, hc]
    rw [Usage.NeverFree, and_iff_left hf, hq, one_le_quotaOfDecimal _ _ hRatio.ne']
    rfl
  · have hf : usage.Unused → audioQuota cfg ratios info usage = 0 := by
      rintro ⟨-, -, ht, -⟩
      rw [audioQuota, if_pos ht]
    rw [Usage.NeverFree, and_iff_left hf, one_le_audioQuota usage hTier hPrice hRatio.ne']

end

def smallRatioInfo : TextRelayInfo :=
  { sampleInfo with priceData := { modelRatio := 1 / 10, completionRatio := 4 } }

def unitRatios : RatioSettings :=
  { quotaPerUnit := 500000, completionRatio := fun _ => 1, audioRatio := fun _ => 1
    audioCompletionRatio := fun _ => 1, modelRatio := fun _ => 1, groupRatio := fun _ => 1
    groupGroupRatio := fun _ _ => none }

theorem used_tokens_charged_text_and_audio :
    let usage : Usage :=
      { promptTokens := 3, completionTokens := 4, totalTokens := 7
        promptTokensDetails := { textTokens := 3 }, completionTokenDetails := { audioTokens := 4 } }
    usage.NeverFree
        (calculateTextQuotaSummary sampleTextSettings {} smallRatioInfo (some usage)).quota ∧
      usage.NeverFree (audioQuota sampleTextSettings unitRatios smallRatioInfo usage) := by
  intro usage
  have hc := @used_tokens_charged_iff sampleTextSettings unitRatios smallRatioInfo {} usage rfl rfl
    (by decide +kernel)
  exact ⟨hc.1.mpr (by decide +kernel), hc.2.mpr (by decide +kernel)⟩

theorem used_tokens_free :
    let cached : Usage :=
      { usageSemantic := "anthropic", promptTokensDetails := { cachedTokens := 100 } }
    let spoken : Usage :=
      { promptTokens := 1, totalTokens := 1, promptTokensDetails := { textTokens := 1 } }
    (cached.Used ∧ (calculateTextQuotaSummary sampleTextSettings {} sampleInfo (some cached)).quota
      = 0 ∧ ¬ cached.NeverFree (calculateTextQuotaSummary sampleTextSettings {} sampleInfo (some
      cached)).quota) ∧
    spoken.Used ∧ audioQuota sampleTextSettings unitRatios smallRatioInfo spoken = 0 ∧
      ¬ spoken.NeverFree (audioQuota sampleTextSettings unitRatios smallRatioInfo spoken) := by
  decide +kernel

section

def TextRelayInfo.estimatedUsage (info : TextRelayInfo) (totalTokens : Int) : Usage :=
  { promptTokens := info.estimatePromptTokens, totalTokens }

def NoToolCalls (info : TextRelayInfo) (calls : ToolCalls) : Prop :=
  calls.claudeWebSearchRequests ≤ 0 ∧ calls.imageGenerationCall = none ∧
    info.builtInCalls "file_search" = none ∧ info.builtInCalls "web_search_preview" = none ∧
    (info.responsesUsageInfo = none → hasSuffix info.originModelName "search-preview" = false)
deriving Decidable

/-- The expression rounds the estimate to no quota, and where it fails there is nothing to fall back
to. -/
def EstimateFree (engine : ExprEngine) (info : TextRelayInfo) (snap : BillingSnapshot) : Prop :=
  match engine.run snap.exprString
      { p := max 0 info.estimatePromptTokens, len := info.estimatePromptTokens }
      (info.billingRequestInput.getD {}) with
  | .ok cost => quotaRound (cost / 1000000 * snap.quotaPerUnit * snap.groupRatio) = 0
  | .error _ =>
    (if info.billing.relayInfo.finalPreConsumedQuota ≤ 0 then snap.estimatedQuotaAfterGroup
      else info.billing.relayInfo.finalPreConsumedQuota) = 0

instance (engine : ExprEngine) (info : TextRelayInfo) (snap : BillingSnapshot) :
    Decidable (EstimateFree engine info snap) := by
  unfold EstimateFree
  split <;> infer_instance

variable {cfg : TextSettings} {info : TextRelayInfo} {calls : ToolCalls}

theorem calculateTextToolCallSurcharge_of_noToolCalls (ratio : Rat) (h : NoToolCalls info calls) :
    calculateTextToolCallSurcharge cfg info ratio calls = 0 := by
  obtain ⟨hc, hi, hf, hw, hm⟩ := h
  have hp : webSearchSurcharge cfg info ratio = 0 := by
    cases hu : info.responsesUsageInfo with
    | none => simp [webSearchSurcharge, hu, hm hu]
    | some tools => simp [webSearchSurcharge, hu, hw]
  simp [calculateTextToolCallSurcharge, hp, claudeWebSearchSurcharge, not_lt.mpr hc,
    fileSearchSurcharge, hf, imageGenerationSurcharge, hi]

theorem calculateTextQuotaSummary_estimate (totalTokens : Int) :
    calculateTextQuotaSummary cfg calls info none =
      calculateTextQuotaSummary cfg calls info (some (info.estimatedUsage totalTokens)) := by
  have hs : usageSemanticFromUsage info none =
      usageSemanticFromUsage info (some (info.estimatedUsage totalTokens)) := rfl
  simp only [calculateTextQuotaSummary, hs]
  rfl

theorem buildTieredTokenParams_estimate (totalTokens : Int) (claude : Bool) (usedVars : String → Bool) :
    buildTieredTokenParams (info.estimatedUsage totalTokens) claude usedVars =
      { p := max 0 info.estimatePromptTokens, len := info.estimatePromptTokens } := by
  simp [buildTieredTokenParams, TextRelayInfo.estimatedUsage]

theorem quota_of_no_ratio (usage : Option Usage) (hp : info.priceData.usePrice = false)
    (hra : info.priceData.modelRatio = 0) (ht : NoToolCalls info calls)
    (ha : (chargedUsage info usage).promptTokensDetails.audioTokens = 0)
    (ho : info.priceData.otherRatios = []) :
    (calculateTextQuotaSummary cfg calls info usage).quota = 0 := by
  have hz : info.priceData.ratio = 0 := by rw [PriceData.ratio, hra, zero_mul]
  rw [calculateTextQuotaSummary_quota cfg calls info usage hp,
    decimalCharge_eq cfg calls info ho ha, hz,
    calculateTextToolCallSurcharge_of_noToolCalls _ ht, quotaOfDecimal, hz]
  have hr : intPart (roundHalfUp (0 : Rat)) = 0 := by decide +kernel
  simp [hr]

theorem modelPriceHelper_tiered_priceData {price : PriceSettings} {req : PriceRequest}
    {modelName : String} {groupRatioInfo : GroupRatioInfo} {priced : Priced}
    (h : modelPriceHelper price req modelName groupRatioInfo = .ok priced) (hs : priced.snapshot ≠ none) :
    priced.priceData.modelRatio = 0 ∧ priced.priceData.usePrice = false ∧
      priced.priceData.otherRatios = [] := by
  cases hm : price.billingMode modelName with
  | ratio =>
    obtain ⟨priceData, -, rfl⟩ := (modelPriceHelper_ratio_eq_ok hm).mp h
    exact absurd rfl hs
  | tieredExpr =>
    simp only [modelPriceHelper, hm, modelPriceHelperTiered] at h
    split at h
    · cases h
    · cases h
    split at h
    · cases h
    · cases h
      exact ⟨rfl, rfl, rfl⟩

theorem textQuotaSummary_estimate {snap : BillingSnapshot} (totalTokens : Int)
    (ht : NoToolCalls info calls) (hsn : info.tieredSnapshot = some snap) :
    (textQuotaSummary cfg calls info (some (info.estimatedUsage totalTokens))).quota = 0 ↔
      EstimateFree cfg.engine info snap := by
  have hs : (calculateTextQuotaSummary cfg calls info
      (some (info.estimatedUsage totalTokens))).toolCallSurchargeQuota = 0 :=
    calculateTextToolCallSurcharge_of_noToolCalls _ ht
  simp only [textQuotaSummary, buildTieredTokenParams_estimate, tryTieredSettle, hsn,
    computeTieredQuotaWithRequest, EstimateFree]
  cases cfg.engine.run snap.exprString _ (info.billingRequestInput.getD {}) with
  | error e => simp only [composeTieredTextQuota, hs, if_true]
  | ok cost => simp only [composeTieredTextQuota, hs, if_true]

/-- With an expression the estimate has a price of its own, and a missing usage none. -/
theorem missing_usage_as_estimate_iff {price : PriceSettings} {request : PriceRequest}
    {modelName : String} {groupRatioInfo : GroupRatioInfo} {priced : Priced} (totalTokens : Int)
    (hPriced : modelPriceHelper price request modelName groupRatioInfo = .ok priced)
    (hData : info.priceData =
      { priced.priceData with groupRatioInfo := info.priceData.groupRatioInfo })
    (hSnap : info.tieredBillingSnapshot = priced.snapshot) (hTools : NoToolCalls info calls) :
    (textQuotaSummary cfg calls info none).quota =
        (textQuotaSummary cfg calls info (some (info.estimatedUsage totalTokens))).quota ↔
      ∀ snap, info.tieredSnapshot = some snap → EstimateFree cfg.engine info snap := by
  cases hti : info.tieredSnapshot with
  | none =>
    rw [textQuotaSummary_untiered hti, textQuotaSummary_untiered hti,
      calculateTextQuotaSummary_estimate totalTokens]
    simp
  | some snap =>
    have ht : priced.snapshot ≠ none := by
      intro hn
      rw [TextRelayInfo.tieredSnapshot, hSnap, hn] at hti
      cases hti
    obtain ⟨hr, hp, ho⟩ := modelPriceHelper_tiered_priceData hPriced ht
    have hf : (textQuotaSummary cfg calls info none).quota = 0 :=
      quota_of_no_ratio none (by rw [hData, hp]) (by rw [hData, hr]) hTools rfl
        (by rw [hData, ho])
    rw [hf, eq_comm, textQuotaSummary_estimate totalTokens hTools hti]
    simp

end

def perTokenPrices : PriceSettings where
  quotaPerUnit := 1000000
  preConsumedQuota := 0
  enableFreeModelPreConsume := true
  modelPrice _ := none
  modelRatio model := (0, false, model)
  completionRatio _ := 1
  cacheRatio _ := 1
  createCacheRatio _ := 1
  imageRatio _ := 1
  billingMode _ := .tieredExpr
  billingExpr _ := some "p"
  groupRatio _ := none
  groupGroupRatio _ _ := none
  engine := ⟨fun _ _ => true, fun _ params _ => .ok params.p⟩

def perTokenPriced (tokens : Int) : Priced where
  priceData := { quotaToPreConsume := tokens }
  snapshot := some ⟨.tieredExpr, "p", 1, tokens, 1000000⟩
  requestInput := some {}

def perTokenInfo (tokens : Int) : TextRelayInfo :=
  { sampleInfo with
    estimatePromptTokens := tokens
    priceData := (perTokenPriced tokens).priceData
    tieredBillingSnapshot := (perTokenPriced tokens).snapshot
    billingRequestInput := some {} }

def perTokenSettings : TextSettings := { sampleTextSettings with engine := perTokenPrices.engine }

theorem modelPriceHelper_perToken (tokens : Int) :
    modelPriceHelper perTokenPrices { promptTokens := tokens } "small" {} =
      .ok (perTokenPriced tokens) := by
  have hr : quotaRound tokens = tokens := roundHalfUp_intCast tokens
  simp [modelPriceHelper, modelPriceHelperTiered, perTokenPrices, perTokenPriced, hr]

theorem missing_usage_as_estimate_of_none :
    (textQuotaSummary perTokenSettings {} (perTokenInfo 0) none).quota =
      (textQuotaSummary perTokenSettings {} (perTokenInfo 0)
        (some ((perTokenInfo 0).estimatedUsage 0))).quota :=
  (missing_usage_as_estimate_iff 0 (modelPriceHelper_perToken 0) rfl rfl
    (by decide +kernel)).mpr fun snap hs => by
      cases hs
      decide +kernel

theorem missing_usage_free :
    modelPriceHelper perTokenPrices { promptTokens := 100 } "small" {} = .ok (perTokenPriced 100) ∧
    (textQuotaSummary perTokenSettings {} (perTokenInfo 100) none).quota = 0 ∧
    (textQuotaSummary perTokenSettings {} (perTokenInfo 100)
      (some ((perTokenInfo 100).estimatedUsage 100))).quota = 100 := by
  refine ⟨modelPriceHelper_perToken 100, ?_, ?_⟩ <;> decide +kernel

end DeepRouter.Relay

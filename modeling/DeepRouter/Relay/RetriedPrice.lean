import DeepRouter.Relay.AttemptResidue

/-! # The price of a request that was retried -/

namespace DeepRouter.Relay

open Store Runs RelayState

section

variable (cfg : TextSettings) (calls : ToolCalls) (info : TextRelayInfo)
  (chain : List RelayFormat) (final : Option RelayFormat)

def TextRelayInfo.withFormats : TextRelayInfo :=
  { info with requestConversionChain := chain, finalRequestRelayFormat := final }

variable {cfg calls info chain final} {usage : Option Usage}

variable (cfg) in
theorem countedSummary_withFormats
    (hs : usageSemanticFromUsage (info.withFormats chain final) usage =
      usageSemanticFromUsage info usage) :
    countedSummary cfg (info.withFormats chain final) usage = countedSummary cfg info usage := by
  rw [countedSummary, hs]
  rfl

theorem calculateTextQuotaSummary_withFormats
    (hse : usageSemanticFromUsage (info.withFormats chain final) usage =
      usageSemanticFromUsage info usage)
    (hl : isLegacyClaudeDerivedOpenAIUsage (info.withFormats chain final) (chargedUsage info
        usage) = isLegacyClaudeDerivedOpenAIUsage info (chargedUsage info usage)) :
    calculateTextQuotaSummary cfg calls (info.withFormats chain final) usage =
      calculateTextQuotaSummary cfg calls info usage := by
  have hc := countedSummary_withFormats cfg hse
  have hs : surchargedSummary cfg calls (info.withFormats chain final) usage =
      surchargedSummary cfg calls info usage := by
    rw [surchargedSummary, hc]
    rfl
  have hco : computedQuota cfg calls (info.withFormats chain final) usage =
      computedQuota cfg calls info usage := by
    have hch : chargedUsage (info.withFormats chain final) usage = chargedUsage info usage := rfl
    rw [computedQuota, hs, hch, hl]
    rfl
  rw [calculateTextQuotaSummary_eq, hs, hc, hco]
  rfl

theorem readings_of_final
    (hf : (info.withFormats chain final).getFinalRequestRelayFormat = .claude ↔
      info.getFinalRequestRelayFormat = .claude) :
    usageSemanticFromUsage (info.withFormats chain final) usage = usageSemanticFromUsage info usage ∧
      isLegacyClaudeDerivedOpenAIUsage (info.withFormats chain final) (chargedUsage info usage) =
        isLegacyClaudeDerivedOpenAIUsage info (chargedUsage info usage) := by
  cases usage with
  | none => simp only [usageSemanticFromUsage, isLegacyClaudeDerivedOpenAIUsage, hf, and_self]
  | some usage => simp only [usageSemanticFromUsage, isLegacyClaudeDerivedOpenAIUsage, hf, and_self]

theorem readings_of_named {usage : Usage} (hn : usage.usageSemantic ≠ "") :
    usageSemanticFromUsage info (some usage) = usage.usageSemantic ∧
      isLegacyClaudeDerivedOpenAIUsage info usage = false := by
  refine ⟨if_pos hn, ?_⟩
  rw [isLegacyClaudeDerivedOpenAIUsage]
  split
  · rfl
  · exact if_pos (.inr hn)

def CountsAlike (usage : Usage) : Prop :=
  usage.promptTokensDetails.cachedTokens = 0 ∧ usage.promptTokensDetails.cachedCreationTokens = 0 ∧
      usage.claudeCacheCreation5mTokens ≤ 0 ∧ usage.claudeCacheCreation1hTokens ≤ 0 ∨
    usage.usageSource = "" ∧
      (0 < usage.claudeCacheCreation5mTokens ∨ 0 < usage.claudeCacheCreation1hTokens)

theorem weighedTokens_of_countsAlike (hu : (chargedUsage info usage).usageSemantic = "")
    (hCh : ∀ ch, info.channelMeta = some ch → ch.channelType ≠ channelTypeOpenRouter)
    (ha : CountsAlike (chargedUsage info usage)) :
    weighedTokens cfg info usage =
      tokenQuota info.priceData (summaryOfUsage info true (chargedUsage info usage)) false
        (audioPriced info usage) := by
  have hse : usageSemanticFromUsage info usage =
      if info.getFinalRequestRelayFormat = .claude then "anthropic" else "openai" := by
    cases usage with
    | none => rfl
    | some usage => exact if_neg (not_not.mpr hu)
  have hc : countedSummary cfg info usage =
      summaryOfUsage info (decide (usageSemanticFromUsage info usage = "anthropic"))
        (chargedUsage info usage) := by
    refine if_neg ?_
    rw [isOpenRouterClaudeBilling_eq_true]
    rintro ⟨ch, hso, ht, -⟩
    exact hCh ch hso ht
  rw [weighedTokens, hc, hse, isLegacyClaudeDerivedOpenAIUsage]
  generalize chargedUsage info usage = charged at hu ha
  generalize audioPriced info usage = priced
  by_cases hf : info.getFinalRequestRelayFormat = .claude
  · rw [if_pos hf, if_pos hf]
    rfl
  rw [if_neg hf, if_neg hf]
  obtain ⟨hr, hcr, h5m, h1h⟩ | ⟨hsr, hs⟩ := ha
  · simp [tokenQuota, summaryOfUsage, hr, hcr, Int.not_lt.mpr h5m, Int.not_lt.mpr h1h]
  · simp [tokenQuota, summaryOfUsage, hsr, hu, hs]

inductive ReadingIrrelevant (info : TextRelayInfo) (usage : Option Usage) : Prop where
  | named (h : (chargedUsage info usage).usageSemantic ≠ "")
  | priced (h : info.priceData.usePrice = true)
  | free (h : info.priceData.ratio = 0)
  | alike (channel : ∀ channel, info.channelMeta = some channel →
      channel.channelType ≠ channelTypeOpenRouter) (counts : CountsAlike (chargedUsage info usage))

theorem quota_of_usePrice (h : info.priceData.usePrice = true) :
    (calculateTextQuotaSummary cfg calls (info.withFormats chain final) usage).quota =
      (calculateTextQuotaSummary cfg calls info usage).quota := by
  obtain ⟨-, -, hGroup, hTotal⟩ := countedSummary_kept cfg info usage
  obtain ⟨-, -, hGroup', hTotal'⟩ := countedSummary_kept cfg (info.withFormats chain final) usage
  have hc : computedQuota cfg calls (info.withFormats chain final) usage =
      computedQuota cfg calls info usage := by
    rw [computedQuota, computedQuota, h, show (info.withFormats chain final).priceData.usePrice = true
      from h, if_pos rfl, if_pos rfl]
    simp only [priceQuota, surchargedSummary, hGroup, hGroup']
    rfl
  rw [calculateTextQuotaSummary_eq, calculateTextQuotaSummary_eq, hc, hGroup, hGroup', hTotal,
    hTotal']
  rfl

theorem quota_of_weighedTokens (hr : info.priceData.usePrice = false)
    (h : info.priceData.ratio = 0 ∨
      weighedTokens cfg (info.withFormats chain final) usage = weighedTokens cfg info usage) :
    (calculateTextQuotaSummary cfg calls (info.withFormats chain final) usage).quota =
      (calculateTextQuotaSummary cfg calls info usage).quota := by
  rw [calculateTextQuotaSummary_quota cfg calls info usage hr,
    calculateTextQuotaSummary_quota cfg calls (info.withFormats chain final) usage hr]
  have hd : decimalCharge cfg calls (info.withFormats chain final) usage
      (weighedTokens cfg (info.withFormats chain final) usage) =
        decimalCharge cfg calls info usage (weighedTokens cfg info usage) := by
    obtain hFree | hs := h
    · have hFree' : (info.withFormats chain final).priceData.ratio = 0 := hFree
      rw [decimalCharge, decimalCharge, hFree, hFree', mul_zero, mul_zero]
      rfl
    · rw [hs]
      rfl
  rw [hd]
  rfl

theorem quota_of_readingIrrelevant (h : ReadingIrrelevant info usage) :
    (calculateTextQuotaSummary cfg calls (info.withFormats chain final) usage).quota =
      (calculateTextQuotaSummary cfg calls info usage).quota := by
  by_cases hp : info.priceData.usePrice = true
  · exact quota_of_usePrice hp
  have hr : info.priceData.usePrice = false := Bool.eq_false_iff.mpr hp
  have hn (hs : (chargedUsage info usage).usageSemantic ≠ "") :
      calculateTextQuotaSummary cfg calls (info.withFormats chain final) usage =
        calculateTextQuotaSummary cfg calls info usage := by
    cases usage with
    | none => exact absurd rfl hs
    | some usage =>
      obtain ⟨hRead, hLegacy⟩ := @readings_of_named info usage hs
      obtain ⟨hRead', hLegacy'⟩ := @readings_of_named (info.withFormats chain final) usage hs
      exact calculateTextQuotaSummary_withFormats (hRead'.trans hRead.symm)
        (hLegacy'.trans hLegacy.symm)
  cases h with
  | named hs => rw [hn hs]
  | priced hu => exact quota_of_usePrice hu
  | free hf => exact quota_of_weighedTokens hr (.inl hf)
  | alike channel counts =>
    by_cases hs : (chargedUsage info usage).usageSemantic = ""
    · refine quota_of_weighedTokens hr (.inr ?_)
      rw [weighedTokens_of_countsAlike hs channel counts]
      exact @weighedTokens_of_countsAlike cfg (info.withFormats chain final) usage hs channel counts
    · rw [hn hs]

theorem quota_of_same_reading
    (h : ((info.withFormats chain final).getFinalRequestRelayFormat = .claude ↔
        info.getFinalRequestRelayFormat = .claude) ∨ ReadingIrrelevant info usage) :
    (calculateTextQuotaSummary cfg calls (info.withFormats chain final) usage).quota =
      (calculateTextQuotaSummary cfg calls info usage).quota := by
  obtain hf | hi := h
  · have hr := @readings_of_final info chain final usage hf
    rw [calculateTextQuotaSummary_withFormats hr.1 hr.2]
  · exact quota_of_readingIrrelevant hi

end

section

variable {cfg : RetrySettings} {request : RelayRequest} {billing : RequestBilling}
  {start : RelayState}

theorem run_chat_deal (hs : startRelay cfg request billing = .ok start) (turns : List ChatTurn) :
    Deal cfg request start
        (run (ChatState.step cfg request) { relay := start } turns).relay ∧
      Entered cfg (run (ChatState.step cfg request) { relay := start } turns).relay :=
  run_preserves
    (I := fun state : ChatState => Deal cfg request start state.relay ∧
      Entered cfg state.relay)
    (fun _ turn h => ⟨h.1.step (turn.attempt _), h.2.step (turn.attempt _)⟩)
    ⟨deal_of_startRelay hs, run_entered hs []⟩ turns

theorem enterLoop_channel (usingGroup : String) (priced : Priced) (channel : ChannelMeta) :
    enterLoop cfg { request with channel } billing usingGroup priced =
      { enterLoop cfg request billing usingGroup priced with channel } := by
  simp only [enterLoop, RelayState.turn]
  split <;> rfl

theorem startRelay_channel (hs : startRelay cfg request billing = .ok start)
    (channel : ChannelMeta) :
    startRelay cfg { request with channel } billing = .ok { start with channel } := by
  obtain ⟨priced, hPriced, rfl⟩ := startRelay_eq_ok hs
  rw [← enterLoop_channel]
  simp only [startRelay]
  split
  · rename_i e he
    cases hPriced.symm.trans he
  · rename_i priced' hPriced'
    cases hPriced.symm.trans hPriced'
    rfl

theorem Deal.groupRatio {state : RelayState} (h : Deal cfg request start state) :
    state.info.priceData.groupRatioInfo =
      cfg.price.groupRatioInfo request.userGroup state.usingGroup := by
  obtain ⟨hi, hu⟩ := Prod.mk.inj h.refreshed
  rw [hi, ← hu]

theorem serves_alone {direct : RelayRequest} {first : RelayState} {state : ChatState}
    {served : ChatTurn} (hr : state.relay.phase = .running)
    (hs : (state.step cfg request served).relay.phase = .served)
    (hru : first.phase = .running) (hm : first.info.channelMeta = none) :
    let alone := ChatState.step cfg direct { relay := first, calls := state.calls } served
    alone.relay.phase = .served ∧ (state.step cfg request served).calls = alone.calls ∧
      alone.relay.info = { first.info with
        channelMeta := some first.channel
        requestConversionChain := (served.left first.info).requestConversionChain
        finalRequestRelayFormat := (served.left first.info).finalRequestRelayFormat
        responsesUsageInfo := none } := by
  have hp : (state.relay.step cfg request (served.attempt state.relay.info)).phase = .served := hs
  obtain ⟨hb, hre⟩ := reply_of_served (step_turned cfg request _ hr) hp
  have ha : first.step cfg direct (served.attempt first.info) =
      { first.handled (served.attempt first.info) with phase := .served, newAPIError := none } := by
    have hb' : (served.attempt first.info).bodyError = none := hb
    have hre' : (served.attempt first.info).reply = none := hre
    simp only [RelayState.step, hru, getChannel, hm, relay, hb', hre']
    rfl
  simp only [ChatState.step, hr, hp, hru, ha, true_and]
  rfl

theorem startRelay_info (hs : startRelay cfg request billing = .ok start)
    (hm : cfg.price.billingMode request.modelName = .ratio) :
    start.info.requestConversionChain = [] ∧ start.info.finalRequestRelayFormat = none ∧
      start.info.channelMeta = none ∧ start.info.relayFormat = request.relayFormat ∧
      start.info.tieredSnapshot = none ∧ start.smartRouterFallback = request.smartRouterFallback := by
  obtain ⟨priced, hp, rfl⟩ := startRelay_eq_ok hs
  obtain ⟨priceData, -, rfl⟩ := (modelPriceHelper_ratio_eq_ok hm).mp hp
  rw [enterLoop, turn_info, RelayState.turn]
  refine ⟨rfl, rfl, rfl, rfl, rfl, ?_⟩
  split <;> rfl

theorem Deal.served_info {state : RelayState} (hs : startRelay cfg request billing = .ok start)
    (hd : Deal cfg request start state) (he : Entered cfg state) (hsr : state.phase = .served)
    (hg : state.usingGroup = start.usingGroup)
    (hn : state.info.originModelName = start.info.originModelName)
    (hre : state.info.responsesUsageInfo = none) :
    state.info = { start.info with
      channelMeta := some state.channel
      requestConversionChain := state.info.requestConversionChain
      finalRequestRelayFormat := state.info.finalRequestRelayFormat
      responsesUsageInfo := none } := by
  have hr : state.info.priceData.groupRatioInfo = start.info.priceData.groupRatioInfo := by
    rw [hd.groupRatio, (deal_of_startRelay hs).groupRatio, hg]
  have hk := hd.kept
  rw [hn, he.channelMeta hsr, hre, hr] at hk
  exact hk

/-- A request costs what the serving attempt costs alone, unless the failed attempts decide how the
usage is read and the reading matters. -/
theorem failed_attempts_keep_price (cfg : RetrySettings) (request : RelayRequest)
    (billing : RequestBilling) {start : RelayState}
    (hStart : startRelay cfg request billing = .ok start)
    (hMode : cfg.price.billingMode request.modelName = .ratio)
    (failed : List ChatTurn) (served : ChatTurn)
    (hFailed : (run (ChatState.step cfg request) { relay := start } failed).relay.phase = .running)
    (hServed : (run (ChatState.step cfg request) { relay := start }
      (failed ++ [served])).relay.phase = .served)
    (hModel : (run (ChatState.step cfg request) { relay := start }
      failed).relay.smartRouterFallback = request.smartRouterFallback)
    (hGroup : (run (ChatState.step cfg request) { relay := start }
      (failed ++ [served])).relay.usingGroup = start.usingGroup) :
    let after := run (ChatState.step cfg request) { relay := start } (failed ++ [served])
    let direct := { request with channel := after.relay.channel }
    ∃ first, startRelay cfg direct billing = .ok first ∧
      let alone := run (ChatState.step cfg direct) { relay := first } [served]
      alone.relay.phase = .served ∧ ∀ text usage,
        (ReadsClaude request.relayFormat (failed ++ [served]) ↔
            ReadsClaude request.relayFormat [served]) ∨
          ReadingIrrelevant alone.relay.info usage →
        (textQuotaSummary text after.calls after.relay.info usage).quota =
          (textQuotaSummary text alone.calls alone.relay.info usage).quota := by
  intro after direct
  obtain ⟨hc, hfi, hm, hfm, ht, hf⟩ := startRelay_info hStart hMode
  refine ⟨_, startRelay_channel hStart after.relay.channel, ?_⟩
  intro alone
  -- the attempts that failed, and then the one that succeeded
  have hk : start.smartRouterFallback.length ≤ (run (ChatState.step cfg request)
      { relay := start } failed).relay.smartRouterFallback.length := by
    rw [hModel, hf]
  obtain ⟨hl, hName⟩ := run_residue hFailed hk
  have hAft : after = (run (ChatState.step cfg request) { relay := start } failed).step cfg
      request served := run_append _ _ failed [served]
  have haft := congrArg (fun state : ChatState => state.relay.info) hAft
  have hst := congrArg (fun state : ChatState => state.relay.phase) hAft.symm |>.trans hServed
  obtain ⟨htu, hName', hres⟩ := step_residue served (step_turned _ _ _ hFailed) (.inl hst)
  have hru : start.phase = .running := run_phase failed hFailed
  -- the same turn with the channel as the first one
  obtain ⟨hAlone, hsa, halo⟩ := @serves_alone cfg request direct
    { start with channel := after.relay.channel } _ served hFailed hst hru hm
  rw [run_calls hFailed] at hAlone hsa halo
  obtain ⟨hAloneTurn, -, -⟩ := @step_residue cfg direct
    { start with channel := after.relay.channel } _ served (step_turned _ _ _ hru) (.inl hAlone)
  refine ⟨hAlone, fun text usage hrea => ?_⟩
  have hi : after.relay.info = alone.relay.info.withFormats
      after.relay.info.requestConversionChain after.relay.info.finalRequestRelayFormat := by
    obtain ⟨hd, he⟩ := run_chat_deal hStart (failed ++ [served])
    have hs := hd.served_info hStart he hServed hGroup
      ((congrArg TextRelayInfo.originModelName haft).trans (hName'.trans hName))
      ((congrArg TextRelayInfo.responsesUsageInfo haft).trans hres)
    refine hs.trans ?_
    exact (congrArg (fun info : TextRelayInfo => info.withFormats _ _) halo).symm
  have ha : alone.relay.info.tieredSnapshot = none :=
    (congrArg TextRelayInfo.tieredSnapshot halo).trans ht
  have haf : after.relay.info.tieredSnapshot = none := by
    rw [hi]
    exact ha
  rw [textQuotaSummary_untiered haf, textQuotaSummary_untiered ha, hAft, hsa, ← hAft, hi]
  refine quota_of_same_reading (hrea.imp_left fun hsam => ?_)
  have hAftReads : after.relay.info.getFinalRequestRelayFormat = .claude ↔
      ReadsClaude request.relayFormat (failed ++ [served]) := by
    rw [haft, ← hfm]
    exact (hl.append htu).readsClaude_iff hc hfi
  have hal : alone.relay.info.getFinalRequestRelayFormat = .claude ↔
      ReadsClaude request.relayFormat [served] := by
    rw [← hfm]
    exact hAloneTurn.readsClaude_iff hc hfi
  rw [hi] at hAftReads
  exact hAftReads.trans (hsam.trans hal.symm)

def brokenTurn (route : ChatRoute) (claudeAdaptor : Bool) : ChatTurn :=
  { outside := { source := fun _ _ _ => .ok none, reply := refused }
    route, stage := .answered, claudeAdaptor }

def openAITurn : ChatTurn :=
  { outside := { source := fun _ _ _ => .ok (some ⟨2, 1⟩) }
    route := .converted .generalOpenAIRequest, stage := .answered, claudeAdaptor := false }

theorem failed_attempts_keep_price_refused :
    ∃ start, startRelay sampleSettings (sampleRequest "small") sampleBilling = .ok start ∧
      let after := run (ChatState.step sampleSettings (sampleRequest "small")) { relay := start }
        [brokenTurn (.converted .generalOpenAIRequest) false, openAITurn]
      let direct := { sampleRequest "small" with channel := after.relay.channel }
      ∃ first, startRelay sampleSettings direct sampleBilling = .ok first ∧ ∀ text usage,
        let alone := run (ChatState.step sampleSettings direct) { relay := first } [openAITurn]
        (textQuotaSummary text after.calls after.relay.info usage).quota =
          (textQuotaSummary text alone.calls alone.relay.info usage).quota := by
  refine ⟨_, rfl, ?_⟩
  obtain ⟨first, hf, -, hs⟩ := failed_attempts_keep_price sampleSettings (sampleRequest "small")
    sampleBilling rfl rfl [brokenTurn (.converted .generalOpenAIRequest) false] openAITurn
    rfl rfl rfl rfl
  refine ⟨first, hf, fun text usage => hs text usage (.inl ?_)⟩
  unfold ReadsClaude
  decide

theorem failed_claude_attempt_raises_price :
    let request := { sampleRequest "small" with channel := ⟨1, 14⟩ }
    let usage : Usage :=
      { promptTokens := 100, completionTokens := 10, promptTokensDetails := { cachedTokens := 80 } }
    ∃ start, startRelay sampleSettings request sampleBilling = .ok start ∧
      let after := run (ChatState.step sampleSettings request) { relay := start }
        [brokenTurn (.converted .claudeRequest) true, openAITurn]
      let direct := { request with channel := after.relay.channel }
      ∃ first, startRelay sampleSettings direct sampleBilling = .ok first ∧
        let alone := run (ChatState.step sampleSettings direct) { relay := first } [openAITurn]
        after.relay.phase = .served ∧ alone.relay.phase = .served ∧
          after.relay.usingGroup = start.usingGroup ∧ after.relay.channel = ⟨2, 1⟩ ∧
          after.relay.info.originModelName = "small" ∧
          (textQuotaSummary (flatSettings 0) after.calls after.relay.info (some usage)).quota = 190 ∧
          (textQuotaSummary (flatSettings 0) alone.calls alone.relay.info (some usage)).quota = 110 :=
  ⟨_, rfl, _, rfl, by decide +kernel⟩

/-- A request served after a fallback is settled like one for the serving model where the two models
have the same rates and the failed attempts do not decide how the usage is read. -/
theorem served_as_requested_directly (cfg : RetrySettings) (request : RelayRequest)
    (billing : RequestBilling) {start : RelayState}
    (hStart : startRelay cfg request billing = .ok start)
    (failed : List ChatTurn) (served : ChatTurn) {after : ChatState}
    (hFailed : (run (ChatState.step cfg request) { relay := start } failed).relay.phase = .running)
    (hRun : run (ChatState.step cfg request) { relay := start } (failed ++ [served]) = after)
    (hServed : after.relay.phase = .served)
    (hFirst : cfg.price.billingMode request.modelName = .ratio)
    (hServing : cfg.price.billingMode after.relay.info.originModelName = .ratio)
    (hRates : modelRates cfg.price request.price request.modelName =
      modelRates cfg.price request.price after.relay.info.originModelName)
    (directBilling : RequestBilling) :
    let direct := request.direct after.relay
    ∃ first, startRelay cfg direct directBilling = .ok first ∧
      let alone := run (ChatState.step cfg direct) { relay := first } [served]
      alone.relay.phase = .served ∧ ∀ text usage,
        (after.relay.info.getFinalRequestRelayFormat = .claude ↔
            alone.relay.info.getFinalRequestRelayFormat = .claude) ∨
          ReadingIrrelevant alone.relay.info usage →
        (textQuotaSummary text after.calls after.relay.info usage).quota =
          (textQuotaSummary text alone.calls alone.relay.info usage).quota := by
  intro direct
  obtain ⟨hde, he⟩ := hRun ▸ run_chat_deal hStart (failed ++ [served])
  rw [run_append, run_cons, run_nil] at hRun
  have hst : ((run (ChatState.step cfg request) { relay := start } failed).step cfg request
      served).relay.phase = .served := hRun ▸ hServed
  have hres : after.relay.info.responsesUsageInfo = none :=
    hRun ▸ (step_residue served (step_turned _ _ _ hFailed) (.inl hst)).2.2
  obtain ⟨priced, hp, hen⟩ := startRelay_eq_ok hStart
  obtain ⟨firstData, hf, rfl⟩ := (modelPriceHelper_ratio_eq_ok hFirst).mp hp
  have hs : start.info = enteredInfo request billing
      { priceData := firstData.withFreeModel cfg.price.enableFreeModelPreConsume } := by
    rw [hen, enterLoop, turn_info]
  rw [← untieredPriceData_rates, hf] at hRates
  obtain ⟨priceData, hsa, hg, hd⟩ := startRelay_direct hde hServing hRates.symm directBilling
  obtain ⟨hru, hch, hin⟩ :
      let entered := enterLoop cfg (request.direct after.relay) directBilling
        after.relay.usingGroup { priceData }
      entered.phase = .running ∧ entered.channel = after.relay.channel ∧
        entered.info = enteredInfo (request.direct after.relay) directBilling { priceData } := by
    rw [enterLoop, turn, if_pos (he.retryTimes (by simp [hServed]))]
    exact ⟨rfl, rfl, rfl⟩
  generalize enterLoop cfg (request.direct after.relay) directBilling after.relay.usingGroup
    { priceData } = first at hd hru hch hin
  refine ⟨first, hd, ?_⟩
  intro alone
  obtain ⟨hAlone, hc, halo⟩ := @serves_alone cfg request direct first _ served hFailed hst hru
    (congrArg TextRelayInfo.channelMeta hin)
  rw [run_calls hFailed] at hAlone hc halo
  rw [hRun] at hc
  refine ⟨hAlone, fun text usage hrea => ?_⟩
  have hw : alone.relay.info.withFormats after.relay.info.requestConversionChain
      after.relay.info.finalRequestRelayFormat = after.relay.info.rebilled directBilling none none
        priceData.freeModel priceData.quotaToPreConsume := by
    rw [← hde.rebilled hs (he.channelMeta hServed) hres (by rw [hsa, withFreeModel_rates]) hg]
    refine (congrArg (fun info : TextRelayInfo => info.withFormats _ _) halo).trans ?_
    dsimp only
    rw [hch, hin]
    rfl
  have ht : after.relay.info.tieredSnapshot = none :=
    (congrArg TextRelayInfo.tieredSnapshot hde.kept).trans
      (congrArg TextRelayInfo.tieredSnapshot hs)
  have hta : alone.relay.info.tieredSnapshot = none :=
    (congrArg TextRelayInfo.tieredSnapshot halo).trans (congrArg TextRelayInfo.tieredSnapshot hin)
  rw [textQuotaSummary_untiered ht, textQuotaSummary_untiered hta, hc,
    ← calculateTextQuotaSummary_rebilled text after.relay.info directBilling none none
      priceData.freeModel priceData.quotaToPreConsume, ← hw]
  refine quota_of_same_reading (hrea.imp_left fun hsame => ?_)
  rw [hw]
  exact hsame

def chainedTurns : List ChatTurn :=
  [brokenTurn (.converted .generalOpenAIRequest) false,
    { openAITurn with outside := { source := fun _ _ _ => .ok none } }]

theorem served_as_requested_directly_mini :
    ∃ start, startRelay sampleSettings (chainedRequest "mini") sampleBilling = .ok start ∧
      let after := run (ChatState.step sampleSettings (chainedRequest "mini")) { relay := start }
        (chainedTurns ++ [openAITurn])
      let direct := (chainedRequest "mini").direct after.relay
      after.relay.info.originModelName = "mini" ∧
      ∃ first, startRelay sampleSettings direct sampleBilling = .ok first ∧ ∀ text usage,
        let alone := run (ChatState.step sampleSettings direct) { relay := first } [openAITurn]
        (textQuotaSummary text after.calls after.relay.info usage).quota =
          (textQuotaSummary text alone.calls alone.relay.info usage).quota := by
  refine ⟨_, rfl, rfl, ?_⟩
  obtain ⟨first, hf, -, hs⟩ := served_as_requested_directly sampleSettings (chainedRequest "mini")
    sampleBilling rfl chainedTurns openAITurn rfl rfl rfl rfl rfl rfl sampleBilling
  refine ⟨first, hf, fun text usage => hs text usage (.inl ?_)⟩
  cases hf
  decide +kernel

theorem fallback_charged_at_first_model :
    ∃ start, startRelay sampleSettings (chainedRequest "big") sampleBilling = .ok start ∧
      let after := run (ChatState.step sampleSettings (chainedRequest "big")) { relay := start }
        (chainedTurns ++ [openAITurn])
      let direct := (chainedRequest "big").direct after.relay
      after.relay.phase = .served ∧ after.relay.info.originModelName = "big" ∧
      ∃ first, startRelay sampleSettings direct sampleBilling = .ok first ∧
        let alone := run (ChatState.step sampleSettings direct) { relay := first } [openAITurn]
        alone.relay.phase = .served ∧
        (textQuotaSummary (flatSettings 0) after.calls after.relay.info
          (some { promptTokens := 100 })).quota = 100 ∧
        (textQuotaSummary (flatSettings 0) alone.calls alone.relay.info
          (some { promptTokens := 100 })).quota = 1000 :=
  ⟨_, rfl, by decide +kernel, by decide +kernel, _, rfl, by decide +kernel⟩

end

end DeepRouter.Relay

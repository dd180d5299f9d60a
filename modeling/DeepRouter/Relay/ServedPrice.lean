import DeepRouter.Relay.Retry
import DeepRouter.Relay.TextCharge

/-! # The price at which a request is served -/

namespace DeepRouter.Relay

open Store Runs RelayState TextRelayInfo

variable {billing : RequestBilling}

namespace RelayState

/-- What a turn of the loop makes of the channel that was got and the state with it. -/
inductive Turned (cfg : RetrySettings) (attempt : Attempt)
    (got : Except ApiError ChannelMeta × RelayState) : RelayState → Prop where
  | unfound {err : ApiError} (failed : got.1 = .error err) : Turned cfg attempt got (got.2.fail err)
  | fellBack {err : ApiError} {nextModel : String} {chain : List String} (failed : got.1 = .error err)
      (exhausted : isChannelExhaustionError err = true)
      (fallback : got.2.smartRouterFallback = nextModel :: chain) :
      Turned cfg attempt got (next cfg { got.2 with
        smartRouterFallback := chain
        info := { got.2.info with originModelName := nextModel }
        selection := { got.2.selection with
          param := { got.2.selection.param with modelName := nextModel, retry := -1 } } })
  | unread (err : BodyError) :
      Turned cfg attempt got (fail (bodyFailure err)
        { got.2 with usedChannels := got.2.usedChannels ++ [got.2.channel.channelId] })
  | served (body : attempt.bodyError = none) (reply : attempt.reply = none) :
      Turned cfg attempt got { got.2.handled attempt with phase := .served, newAPIError := none }
  | retried (err : ApiError) :
      Turned cfg attempt got (next cfg { got.2.handled attempt with newAPIError := some err })
  | refused (err : ApiError) : Turned cfg attempt got (fail err (got.2.handled attempt))

section

variable {cfg : RetrySettings} {request : RelayRequest} {state : RelayState}

variable (cfg request) in
theorem step_turned (att : Attempt) (hr : state.phase = .running) :
    Turned cfg att (getChannel cfg request att state) (state.step cfg request att) := by
  rw [step, if_neg (not_not_intro hr)]
  generalize getChannel cfg request att state = got
  obtain ⟨found, got⟩ := got
  cases found with
  | error err =>
    dsimp only
    split
    · rename_i he
      rw [tryCrossModelFallback]
      cases hn : got.smartRouterFallback with
      | nil => exact .unfound rfl
      | cons nextModel chain => exact .fellBack rfl he hn
    · exact .unfound rfl
  | ok channel =>
    simp only [relay]
    cases hb : att.bodyError with
    | some err => exact .unread err
    | none =>
      cases hs : att.reply with
      | none => exact .served hb hs
      | some err =>
        dsimp only
        split
        · exact .retried err
        · exact .refused err

theorem step_of_not_running (att : Attempt) (h : state.phase ≠ .running) :
    state.step cfg request att = state := by
  rw [step, if_pos h]

theorem step_cases {att : Attempt} {P : RelayState → Prop} (h : P state)
    (ht : ∀ after, state.phase = .running →
      Turned cfg att (getChannel cfg request att state) after → P after) :
    P (state.step cfg request att) := by
  by_cases hr : state.phase = .running
  · exact ht _ hr (step_turned cfg request att hr)
  · rw [step_of_not_running att hr]
    exact h

end

end RelayState

section

variable {cfg : RetrySettings} {request : RelayRequest} {start state : RelayState}

structure Deal (cfg : RetrySettings) (request : RelayRequest) (start state : RelayState) :
    Prop where
  tokenGroup : state.selection.param.tokenGroup = request.tokenGroup
  refreshed : (state.info.priceData.groupRatioInfo, state.usingGroup) =
    handleGroupRatio cfg.price state.selection.autoGroup request.userGroup state.usingGroup
  channelGroup : request.tokenGroup = "auto" → ∀ group, state.channelGroup = some group →
    state.selection.autoGroup = some group
  kept : state.info = { start.info with
    originModelName := state.info.originModelName
    channelMeta := state.info.channelMeta
    requestConversionChain := state.info.requestConversionChain
    finalRequestRelayFormat := state.info.finalRequestRelayFormat
    responsesUsageInfo := state.info.responsesUsageInfo
    priceData := { start.info.priceData with
      groupRatioInfo := state.info.priceData.groupRatioInfo } }

theorem handleGroupRatio_idem (prices : PriceSettings) (autoGroup : Option String)
    (ug usingGroup : String) :
    handleGroupRatio prices autoGroup ug
        (handleGroupRatio prices autoGroup ug usingGroup).2 =
      handleGroupRatio prices autoGroup ug usingGroup := by
  cases autoGroup <;> rfl

theorem selectAutoGroup_spec (cfg : RetrySettings) (crossGroupRetry : Bool)
    (src : ChannelSource) (groups : List String) (i : Nat) (pr : Int) (sel : Selection) :
    let (found, after) := selectAutoGroup cfg crossGroupRetry src groups i pr
      sel
    after.param.tokenGroup = sel.param.tokenGroup ∧
      after.autoGroup = (found.map Prod.snd).or sel.autoGroup := by
  induction groups generalizing i pr sel with
  | nil => simp [selectAutoGroup]
  | cons group groups ih =>
    simp only [selectAutoGroup]
    split
    · split <;> simp
    · exact ih _ _ _

theorem cacheGetRandomSatisfiedChannel_spec (cfg : RetrySettings) (crossGroupRetry : Bool)
    (src : ChannelSource) (ug : String) (sel : Selection) :
    let (found, selectGroup, after) := cacheGetRandomSatisfiedChannel cfg crossGroupRetry src
      ug sel
    after.param.tokenGroup = sel.param.tokenGroup ∧
      (sel.param.tokenGroup = "auto" →
        ((∃ ch, found = .ok (some ch)) → after.autoGroup = some selectGroup) ∧
        ((∀ ch, found ≠ .ok (some ch)) → after.autoGroup = sel.autoGroup)) := by
  simp only [cacheGetRandomSatisfiedChannel]
  by_cases ha : sel.param.tokenGroup = "auto"
  · by_cases hn : cfg.autoGroups = []
    · simp [ha, hn]
    simp only [if_pos ha, if_neg hn]
    have hs := selectAutoGroup_spec cfg crossGroupRetry src
      ((cfg.getUserAutoGroup ug).drop (sel.autoGroupIndex.getD 0))
      (sel.autoGroupIndex.getD 0) sel.param.retry sel
    split
    · rename_i ch group after hse
      simp [hse] at hs
      simp [hs]
    · rename_i after hse
      simp [hse] at hs
      simp [hs]
  · simp [ha]

section

variable (h : Deal cfg request start state)

include h

theorem Deal.turn : Deal cfg request start (state.turn cfg) := by
  rw [RelayState.turn]
  split <;> exact ⟨h.tokenGroup, h.refreshed, h.channelGroup, h.kept⟩

theorem Deal.next : Deal cfg request start (state.next cfg) := by
  apply Deal.turn
  refine ⟨?_, h.refreshed, h.channelGroup, h.kept⟩
  simp only [RetryParam.increaseRetry]
  split <;> exact h.tokenGroup

theorem Deal.fail (err : ApiError) : Deal cfg request start (state.fail err) :=
  ⟨h.tokenGroup, h.refreshed, h.channelGroup, h.kept⟩

theorem Deal.handled (att : Attempt) : Deal cfg request start (state.handled att) := by
  refine ⟨h.tokenGroup, h.refreshed, h.channelGroup, ?_⟩
  exact congrArg (fun info : TextRelayInfo => { info with
    channelMeta := some state.channel
    requestConversionChain := att.requestConversionChain
    finalRequestRelayFormat := att.finalRequestRelayFormat
    responsesUsageInfo := att.responsesUsageInfo }) h.kept

theorem Deal.reselected {sel : Selection} (ht : sel.param.tokenGroup = request.tokenGroup)
    (group : Option String)
    (hg : request.tokenGroup = "auto" → ∀ g, group = some g → sel.autoGroup = some g)
    (ch : ChannelMeta) :
    Deal cfg request start
      { state.reselected cfg request sel with channel := ch, channelGroup := group } := by
  refine ⟨ht, ?_, hg, ?_⟩
  · exact (handleGroupRatio_idem cfg.price sel.autoGroup request.userGroup state.usingGroup).symm
  exact congrArg (fun info : TextRelayInfo => { info with
    priceData := { info.priceData with
      groupRatioInfo := (handleGroupRatio cfg.price sel.autoGroup request.userGroup
        state.usingGroup).1 } }) h.kept

theorem Deal.getChannel (att : Attempt) :
    Deal cfg request start (state.getChannel cfg request att).2 := by
  simp only [RelayState.getChannel]
  split
  · exact h
  have hs := cacheGetRandomSatisfiedChannel_spec cfg request.crossGroupRetry att.source
    request.userGroup state.selection
  generalize cacheGetRandomSatisfiedChannel cfg request.crossGroupRetry att.source
    request.userGroup state.selection = selected at hs
  obtain ⟨found, selectGroup, selection⟩ := selected
  obtain ⟨ht, ha⟩ := hs
  rw [h.tokenGroup] at ht ha
  have hm (hf : ∀ ch, found ≠ .ok (some ch)) :
      Deal cfg request start (state.reselected cfg request selection) := by
    refine h.reselected ht state.channelGroup (fun hgr g hg => ?_) state.channel
    rw [(ha hgr).2 hf]
    exact h.channelGroup hgr g hg
  cases found with
  | error e => exact hm (by simp)
  | ok found =>
    cases found with
    | none => exact hm (by simp)
    | some ch =>
      have hf := h.reselected ht (some selectGroup) (fun hgr g hg => by
        rw [(ha hgr).1 ⟨ch, rfl⟩, hg]) ch
      cases hse : att.setupError with
      | none => exact hf
      | some err => exact hf

theorem Deal.step (att : Attempt) : Deal cfg request start (state.step cfg request att) := by
  refine step_cases h fun after _ ht => ?_
  have hg := h.getChannel att
  generalize state.getChannel cfg request att = got at hg ht
  have hh := hg.handled att
  cases ht with
  | @fellBack err nextModel chain failed exhausted fallback =>
    refine Deal.next ⟨hg.tokenGroup, hg.refreshed, hg.channelGroup, ?_⟩
    exact congrArg (fun info : TextRelayInfo => { info with originModelName := nextModel }) hg.kept
  | unfound failed => exact hg.fail _
  | unread err => exact ⟨hg.tokenGroup, hg.refreshed, hg.channelGroup, hg.kept⟩
  | served body reply => exact ⟨hh.tokenGroup, hh.refreshed, hh.channelGroup, hh.kept⟩
  | retried err => exact Deal.next ⟨hh.tokenGroup, hh.refreshed, hh.channelGroup, hh.kept⟩
  | refused err => exact hh.fail err

end

theorem startRelay_eq_ok (hs : startRelay cfg request billing = .ok start) :
    let (groupRatioInfo, usingGroup) :=
      handleGroupRatio cfg.price request.autoGroup request.userGroup request.usingGroup
    ∃ priced, modelPriceHelper cfg.price request.price request.modelName groupRatioInfo =
        .ok priced ∧ start = enterLoop cfg request billing usingGroup priced := by
  simp only [startRelay] at hs
  split at hs
  · cases hs
  · rename_i priced hp
    cases hs
    exact ⟨priced, hp, rfl⟩

theorem turn_info (state : RelayState) : (state.turn cfg).info = state.info := by
  rw [turn]
  split <;> rfl

theorem deal_of_startRelay (hs : startRelay cfg request billing = .ok start) :
    Deal cfg request start start := by
  obtain ⟨priced, hp, rfl⟩ := startRelay_eq_ok hs
  apply Deal.turn
  refine ⟨rfl, ?_, fun _ _ h => h, ?_⟩
  · simp only [enteredInfo, modelPriceHelper_groupRatioInfo hp]
    exact (handleGroupRatio_idem cfg.price request.autoGroup request.userGroup
      request.usingGroup).symm
  · rw [enterLoop, turn_info]

theorem run_deal (hs : startRelay cfg request billing = .ok start) (atts : List Attempt) :
    Deal cfg request start (run (step cfg request) start atts) :=
  run_preserves (fun _ attempt h => h.step attempt) (deal_of_startRelay hs) atts

end

def TextRelayInfo.atGroupRatio (ratio : Rat) (info : TextRelayInfo) : TextRelayInfo :=
  { info with
    priceData := { info.priceData with
      groupRatioInfo := { info.priceData.groupRatioInfo with groupRatio := ratio } }
    tieredBillingSnapshot :=
      info.tieredBillingSnapshot.map fun snap => { snap with groupRatio := ratio } }

theorem atGroupRatio_eq_self {info : TextRelayInfo} {ratio : Rat}
    (hp : info.priceData.groupRatioInfo.groupRatio = ratio)
    (hs : ∀ snap, info.tieredBillingSnapshot = some snap → snap.groupRatio = ratio) :
    info.atGroupRatio ratio = info := by
  subst hp
  have hm : (info.tieredBillingSnapshot.map fun snap =>
      { snap with groupRatio := info.priceData.groupRatioInfo.groupRatio }) =
      info.tieredBillingSnapshot := by
    cases hi : info.tieredBillingSnapshot with
    | none => rfl
    | some snap =>
      rw [Option.map_some, ← hs snap hi]
  exact congrArg (fun snapshot => { info with tieredBillingSnapshot := snapshot }) hm

section

variable {info : TextRelayInfo} {snap : BillingSnapshot}

theorem atGroupRatio_snapshot (hs : info.tieredBillingSnapshot = some snap) (ratio : Rat) :
    (info.atGroupRatio ratio).tieredBillingSnapshot = some { snap with groupRatio := ratio } := by
  rw [atGroupRatio, hs]
  rfl

theorem computeTieredQuotaWithRequest_worthless (hu : snap.quotaPerUnit = 0) (ratio : Rat)
    (engine : ExprEngine) (params : TokenParams) (input : RequestInput) :
    computeTieredQuotaWithRequest engine { snap with groupRatio := ratio } params input =
      (engine.run snap.exprString params input).map fun _ => ⟨0, quotaRound 0⟩ := by
  simp only [computeTieredQuotaWithRequest, hu, mul_zero, zero_mul]
  cases engine.run snap.exprString params input <;> rfl

theorem tryTieredSettle_worthless (hs : info.tieredBillingSnapshot = some snap)
    (hm : snap.billingMode = .tieredExpr) (hu : snap.quotaPerUnit = 0) (ratio : Rat)
    (engine : ExprEngine) (params : TokenParams) :
    tryTieredSettle engine (info.atGroupRatio ratio) params = tryTieredSettle engine info params ∧
      ∀ quota result, tryTieredSettle engine info params = some (quota, some result) →
        result = ⟨0, quotaRound 0⟩ := by
  have hti : info.tieredSnapshot = some { snap with groupRatio := snap.groupRatio } := by
    simp [tieredSnapshot, hs, hm]
  have ht : (info.atGroupRatio ratio).tieredSnapshot = some { snap with groupRatio := ratio } := by
    simp [tieredSnapshot, atGroupRatio_snapshot hs, hm]
  have hi : (info.atGroupRatio ratio).billingRequestInput = info.billingRequestInput := rfl
  simp only [tryTieredSettle, hti, ht, hi, computeTieredQuotaWithRequest_worthless hu]
  cases engine.run snap.exprString params (info.billingRequestInput.getD {}) with
  | error e => exact ⟨rfl, fun quota result h => by cases h⟩
  | ok cost =>
    refine ⟨rfl, fun quota result h => ?_⟩
    cases h
    rfl

theorem composeTieredTextQuota_worthless (hs : info.tieredBillingSnapshot = some snap)
    (ratio : Rat) (summary : TextQuotaSummary) (quota : Int) {result : Option TieredResult}
    (hr : ∀ tiered, result = some tiered → tiered = ⟨0, quotaRound 0⟩) :
    composeTieredTextQuota (info.atGroupRatio ratio) summary quota result =
      composeTieredTextQuota info summary quota result := by
  cases result with
  | none => simp only [composeTieredTextQuota]
  | some tiered =>
    obtain rfl := hr tiered rfl
    simp only [composeTieredTextQuota, hs, atGroupRatio_snapshot hs, zero_mul]

theorem textQuotaSummary_worthless {ratio : Rat}
    (hp : info.priceData.groupRatioInfo.groupRatio = ratio)
    (hsn : info.tieredBillingSnapshot = some snap) (hm : snap.billingMode = .tieredExpr)
    (hu : snap.quotaPerUnit = 0) (cfg : TextSettings) (calls : ToolCalls) (usage : Option Usage) :
    textQuotaSummary cfg calls (info.atGroupRatio ratio) usage =
      textQuotaSummary cfg calls info usage := by
  have hsu : calculateTextQuotaSummary cfg calls (info.atGroupRatio ratio) usage =
      calculateTextQuotaSummary cfg calls info usage := by
    subst hp
    exact calculateTextQuotaSummary_rebilled cfg info info.billing _ info.billingRequestInput
      info.priceData.freeModel info.priceData.quotaToPreConsume calls usage
  cases usage with
  | none => exact hsu
  | some usage =>
    have hv : (info.atGroupRatio ratio).usedVars cfg.engine = info.usedVars cfg.engine := by
      funext name
      simp only [usedVars, hsn, atGroupRatio_snapshot hsn]
    have hs := tryTieredSettle_worthless hsn hm hu ratio cfg.engine
    simp only [textQuotaSummary, hsu, hv, (hs _).1]
    split
    · rfl
    rename_i quota result hr
    rw [composeTieredTextQuota_worthless hsn ratio _ quota fun tiered h => ?_]
    subst h
    exact (hs _).2 quota tiered hr

end

def flatSettings (cost : Rat) : TextSettings :=
  { quotaPerUnit := 1
    toolPrices := ⟨fun _ => [], fun _ => none⟩
    defaultModelRatio := fun _ => none
    engine := ⟨fun _ _ => false, fun _ _ _ => .ok cost⟩ }

theorem flatSettings_surcharge (cost ratio : Rat) (info : TextRelayInfo) :
    calculateTextToolCallSurcharge (flatSettings cost) info ratio {} = 0 := by
  have hp (tool model : String) :
      (flatSettings cost).toolPrices.getToolPriceForModel tool model = 0 := by
    simp [flatSettings, ToolPriceIndex.getToolPriceForModel]
  have hw : webSearchSurcharge (flatSettings cost) info ratio = 0 := by
    simp only [webSearchSurcharge, hp]
    split <;> split <;> simp
  have hf : fileSearchSurcharge (flatSettings cost) info ratio = 0 := by
    simp only [fileSearchSurcharge, ToolPriceIndex.getToolPrice, hp]
    split <;> simp
  simp [calculateTextToolCallSurcharge, hw, hf, claudeWebSearchSurcharge, imageGenerationSurcharge]

theorem flatSettings_quota (cost : Rat) {info : TextRelayInfo} {snap : BillingSnapshot}
    (hs : info.tieredBillingSnapshot = some snap) (hm : snap.billingMode = .tieredExpr) :
    (textQuotaSummary (flatSettings cost) {} info (some {})).quota =
      quotaRound (cost / 1000000 * snap.quotaPerUnit * snap.groupRatio) := by
  have ht : info.tieredSnapshot = some snap := by
    simp [tieredSnapshot, hs, hm]
  have hf : (calculateTextQuotaSummary (flatSettings cost) {} info (some {})).toolCallSurchargeQuota
      = 0 := flatSettings_surcharge cost _ info
  simp only [textQuotaSummary, tryTieredSettle, ht, computeTieredQuotaWithRequest,
    composeTieredTextQuota, hf]
  rfl

theorem quotaRound_separates {r s : Rat} (h : ∀ x : Rat, quotaRound (x * r) = quotaRound (x * s)) :
    r = s := by
  have hl : (r.den * s.den : Rat) * r = ((s.den * r.num : Int) : Rat) := by
    push_cast
    rw [mul_comm (r.den : Rat), mul_assoc, Rat.den_mul_eq_num]
  have hr : (r.den * s.den : Rat) * s = ((r.den * s.num : Int) : Rat) := by
    push_cast
    rw [mul_assoc, Rat.den_mul_eq_num]
  have hro := h (r.den * s.den)
  rw [hl, hr, quotaRound, quotaRound, roundHalfUp_intCast, roundHalfUp_intCast] at hro
  have hd : (r.den * s.den : Rat) ≠ 0 := by
    simp
  exact mul_left_cancel₀ hd (by rw [hl, hr, hro])

/-- The request is charged at the ratio of the group of its channel just when no expression has
frozen another one. -/
theorem charged_at_serving_group_iff (cfg : RetrySettings) (request : RelayRequest)
    (billing : RequestBilling) {start : RelayState}
    (hStart : startRelay cfg request billing = .ok start)
    (hAuto : request.tokenGroup = "auto") (attempts : List Attempt) (group : String)
    (hGroup : (run (RelayState.step cfg request) start attempts).channelGroup = some group) :
    let info := (run (step cfg request) start attempts).info
    let ratio := (cfg.price.groupRatioInfo request.userGroup group).groupRatio
    (∀ text calls usage, textQuotaSummary text calls info usage =
        textQuotaSummary text calls (info.atGroupRatio ratio) usage) ↔
      (cfg.price.billingMode request.modelName = .tieredExpr →
        cfg.price.quotaPerUnit ≠ 0 →
        (handleGroupRatio cfg.price request.autoGroup request.userGroup
          request.usingGroup).1.groupRatio = ratio) := by
  intro info ratio
  have hd := run_deal hStart attempts
  have hp : info.priceData.groupRatioInfo.groupRatio = ratio := by
    have hr := hd.refreshed
    rw [hd.channelGroup hAuto group hGroup] at hr
    exact congrArg (fun pair => pair.1.groupRatio) hr
  obtain ⟨priced, hpr, he⟩ := startRelay_eq_ok hStart
  have hsn : info.tieredBillingSnapshot = priced.snapshot := by
    have hs : start.info.tieredBillingSnapshot = priced.snapshot := by
      rw [he, enterLoop, turn_info]
      rfl
    exact (congrArg tieredBillingSnapshot hd.kept).trans hs
  cases hb : cfg.price.billingMode request.modelName with
  | ratio =>
    obtain ⟨_, _, rfl⟩ := (modelPriceHelper_ratio_eq_ok hb).mp hpr
    have ha : info.atGroupRatio ratio = info := atGroupRatio_eq_self hp fun snap hSnap => by
      rw [hsn] at hSnap
      cases hSnap
    simp [ha]
  | tieredExpr =>
    obtain ⟨_, snap, hSnap, hm, hf, hu⟩ := modelPriceHelper_tiered hb hpr
    rw [hSnap] at hsn
    simp only [handleGroupRatio, ← hf, ← hu, true_implies]
    constructor
    · intro hsa hw
      refine quotaRound_separates fun x => ?_
      have hq := congrArg TextQuotaSummary.quota
        (hsa (flatSettings (x * 1000000 / snap.quotaPerUnit)) {} (some {}))
      rw [flatSettings_quota _ hsn hm,
        flatSettings_quota _ (atGroupRatio_snapshot hsn ratio) hm] at hq
      have hc : x * 1000000 / snap.quotaPerUnit / 1000000 * snap.quotaPerUnit = x := by
        field_simp
      simp only [hc] at hq
      exact hq
    · intro hra text calls usage
      by_cases hw : snap.quotaPerUnit = 0
      · exact (textQuotaSummary_worthless hp hsn hm hw text calls usage).symm
      rw [atGroupRatio_eq_self hp]
      intro snap' hSnap'
      rw [hsn] at hSnap'
      cases hSnap'
      exact hra hw

def sampleSettings : RetrySettings :=
  { price :=
      { quotaPerUnit := 1000000
        preConsumedQuota := 0
        enableFreeModelPreConsume := true
        modelPrice := fun _ => none
        modelRatio := fun model => (if model = "big" then 10 else 1, true, model)
        completionRatio := fun _ => 1
        cacheRatio := fun _ => 1
        createCacheRatio := fun _ => 1
        imageRatio := fun _ => 1
        billingMode := fun model => if model = "tiered" then .tieredExpr else .ratio
        billingExpr := fun _ => some "tier(40)"
        groupRatio := fun group => some (if group = "b" then 2 else 1)
        groupGroupRatio := fun _ _ => none
        engine := (flatSettings 40).engine }
    retryTimes := 1
    autoGroups := ["a", "b"]
    getUserAutoGroup := fun _ => ["a", "b"]
    automaticRetryStatusCodeRanges := [⟨500, 503⟩] }

def sampleRequest (modelName : String) : RelayRequest :=
  { price := { promptTokens := 10 }
    modelName
    tokenGroup := "auto"
    userGroup := "default"
    usingGroup := "auto"
    channel := ⟨1, 1⟩
    autoGroup := some "a"
    autoGroupIndex := some 0 }

def sampleBilling : RequestBilling :=
  .unbilled ⟨7, 5, false, false, false, "r", "", 0, 0, .wallet, 0, 0, 0, 0, 0, 0, ""⟩

def refused : Option ApiError :=
  some { errorCode := "bad_response_status_code", message := "overloaded", statusCode := 500 }

def movedAttempts : List Attempt :=
  [{ source := fun _ _ _ => .ok none, reply := refused },
    { source := fun group _ _ => .ok (if group = "b" then some ⟨2, 1⟩ else none) }]

theorem charged_at_serving_group_moved :
    ∃ start, startRelay sampleSettings (sampleRequest "small") sampleBilling = .ok start ∧
      ∀ text calls usage,
        let info := (run (step sampleSettings (sampleRequest "small")) start
          movedAttempts).info
        textQuotaSummary text calls info usage =
          textQuotaSummary text calls (info.atGroupRatio 2) usage := by
  refine ⟨_, rfl, ?_⟩
  exact (charged_at_serving_group_iff sampleSettings (sampleRequest "small") sampleBilling rfl rfl
    movedAttempts "b" rfl).mpr fun h => by cases h

theorem tiered_charged_at_first_group :
    ∃ start, startRelay sampleSettings (sampleRequest "tiered") sampleBilling = .ok start ∧
      let served := run (step sampleSettings (sampleRequest "tiered")) start movedAttempts
      served.phase = .served ∧ served.channelGroup = some "b" ∧
        (textQuotaSummary (flatSettings 40) {} served.info (some {})).quota = 40 ∧
        (textQuotaSummary (flatSettings 40) {} (served.info.atGroupRatio 2) (some {})).quota = 80 :=
  ⟨_, rfl, by decide +kernel⟩

section

def PriceData.rates (priceData : PriceData) : PriceData :=
  { priceData with freeModel := false, quotaToPreConsume := 0, groupRatioInfo := {} }

def modelRates (cfg : PriceSettings) (request : PriceRequest) (modelName : String) :
    Except Err PriceData :=
  (untieredPriceData cfg request modelName {}).map PriceData.rates

theorem untieredPriceData_rates (cfg : PriceSettings) (request : PriceRequest)
    (modelName : String) (groupRatioInfo : GroupRatioInfo) :
    (untieredPriceData cfg request modelName groupRatioInfo).map PriceData.rates =
      modelRates cfg request modelName := by
  simp only [modelRates, untieredPriceData]
  cases cfg.modelPrice modelName with
  | some price => simp only [Except.map, PriceData.rates]
  | none =>
    simp only
    split <;> simp only [Except.map, PriceData.rates]

theorem withFreeModel_rates (enabled : Bool) (priceData : PriceData) :
    (priceData.withFreeModel enabled).rates = priceData.rates := by
  simp only [PriceData.withFreeModel]
  split_ifs <;> rfl

theorem priceData_of_rates {first second : PriceData} (hr : first.rates = second.rates)
    (hg : first.groupRatioInfo = second.groupRatioInfo) :
    second = { first with
      freeModel := second.freeModel, quotaToPreConsume := second.quotaToPreConsume } := by
  have h := congrArg (fun rates : PriceData => { rates with
    freeModel := second.freeModel, quotaToPreConsume := second.quotaToPreConsume
    groupRatioInfo := second.groupRatioInfo }) hr.symm
  rw [← hg] at h
  refine Eq.trans ?_ h
  rw [hg]
  rfl

def RelayRequest.direct (request : RelayRequest) (state : RelayState) : RelayRequest :=
  { request with
    modelName := state.info.originModelName
    usingGroup := state.usingGroup
    autoGroup := state.selection.autoGroup
    channel := state.channel
    smartRouterFallback := [] }

structure Entered (cfg : RetrySettings) (state : RelayState) : Prop where
  retryTimes : state.phase ≠ .ended → 0 ≤ cfg.retryTimes
  channelMeta : state.phase = .served → state.info.channelMeta = some state.channel

theorem turn_phase (cfg : RetrySettings) (state : RelayState) :
    (state.turn cfg).phase ≠ .served := by
  rw [turn]
  split <;> simp

variable {cfg : RetrySettings} {request : RelayRequest}

theorem Entered.step {state : RelayState} (h : Entered cfg state) (att : Attempt) :
    Entered cfg (state.step cfg request att) := by
  refine step_cases h fun after hr ht => ?_
  have hu (hp : after.phase = .served → after.info.channelMeta = some after.channel) :
      Entered cfg after := ⟨fun _ => h.retryTimes (by simp [hr]), hp⟩
  cases ht with
  | served body reply => exact hu fun _ => rfl
  | fellBack failed exhausted fallback => exact hu fun hs => absurd hs (turn_phase cfg _)
  | retried err => exact hu fun hs => absurd hs (turn_phase cfg _)
  | _ => exact hu nofun

theorem run_entered
    {start : RelayState} (hs : startRelay cfg request billing = .ok start) (atts : List Attempt) :
    Entered cfg (run (step cfg request) start atts) := by
  refine run_preserves (fun _ attempt h => h.step attempt) ?_ atts
  obtain ⟨priced, _, rfl⟩ := startRelay_eq_ok hs
  refine ⟨fun hp => ?_, fun hsr => absurd hsr (turn_phase cfg _)⟩
  by_contra ht
  rw [enterLoop, turn, if_neg ht] at hp
  exact hp rfl

theorem startRelay_direct {start state : RelayState} (hde : Deal cfg request start state)
    (hm : cfg.price.billingMode state.info.originModelName = .ratio) {rates : PriceData}
    (hra : modelRates cfg.price request.price state.info.originModelName = .ok rates)
    (billing : RequestBilling) :
    ∃ priceData : PriceData, priceData.rates = rates ∧
      priceData.groupRatioInfo = state.info.priceData.groupRatioInfo ∧
      startRelay cfg (request.direct state) billing =
        .ok (enterLoop cfg (request.direct state) billing state.usingGroup { priceData }) := by
  rw [← untieredPriceData_rates _ _ _ state.info.priceData.groupRatioInfo] at hra
  cases hd : untieredPriceData cfg.price request.price state.info.originModelName
      state.info.priceData.groupRatioInfo with
  | error e =>
    rw [hd] at hra
    cases hra
  | ok priceData =>
    rw [hd] at hra
    cases hra
    refine ⟨priceData.withFreeModel cfg.price.enableFreeModelPreConsume,
      withFreeModel_rates _ _, ?_, ?_⟩
    · rw [withFreeModel_groupRatioInfo, untieredPriceData_groupRatioInfo hd]
    · have hp := (modelPriceHelper_ratio_eq_ok hm).mpr ⟨priceData, hd, rfl⟩
      have hr := hde.refreshed
      simp only [startRelay, RelayRequest.direct, ← hr, hp]

theorem Deal.rebilled {start state : RelayState}
    {billing directBilling : RequestBilling} {firstData priceData : PriceData}
    (hd : Deal cfg request start state)
    (hs : start.info = enteredInfo request billing { priceData := firstData })
    (hm : state.info.channelMeta = some state.channel) (hre : state.info.responsesUsageInfo = none)
    (hr : priceData.rates = firstData.rates)
    (hg : priceData.groupRatioInfo = state.info.priceData.groupRatioInfo) :
    { enteredInfo (request.direct state) directBilling { priceData } with
      channelMeta := some state.channel
      requestConversionChain := state.info.requestConversionChain
      finalRequestRelayFormat := state.info.finalRequestRelayFormat
      responsesUsageInfo := none } =
    state.info.rebilled directBilling none none priceData.freeModel priceData.quotaToPreConsume := by
  have hk := hd.kept
  rw [hs] at hk
  have hf : state.info.relayFormat = request.relayFormat := congrArg relayFormat hk
  have ht : state.info.estimatePromptTokens = request.price.promptTokens :=
    congrArg estimatePromptTokens hk
  have hp : priceData = { state.info.priceData with
      freeModel := priceData.freeModel, quotaToPreConsume := priceData.quotaToPreConsume } := by
    refine priceData_of_rates ?_ hg.symm
    rw [hr]
    exact congrArg (fun info => info.priceData.rates) hk
  rw [TextRelayInfo.rebilled, ← hp, hf, ht, hm, hre]
  rfl

def chainedRequest (fallback : String) : RelayRequest :=
  { sampleRequest "small" with
    tokenGroup := "a", usingGroup := "a", autoGroup := none, smartRouterFallback := [fallback] }

end

end DeepRouter.Relay

import DeepRouter.Relay.TextQuota

/-! # The price data of a request -/

namespace DeepRouter.Relay

open Store Billing TopUps

structure PriceSettings where
  quotaPerUnit : Rat
  preConsumedQuota : Int
  enableFreeModelPreConsume : Bool
  modelPrice : String → Option Rat
  modelRatio : String → Rat × Bool × String
  (completionRatio cacheRatio createCacheRatio imageRatio : String → Rat)
  billingMode : String → BillingMode
  billingExpr : String → Option String
  groupRatio : String → Option Rat
  groupGroupRatio : String → String → Option Rat
  engine : ExprEngine

def PriceSettings.getGroupRatio (cfg : PriceSettings) (name : String) : Rat :=
  (cfg.groupRatio name).getD 1

def PriceSettings.groupRatioInfo (cfg : PriceSettings) (userGroup usingGroup : String) :
    GroupRatioInfo :=
  match cfg.groupGroupRatio userGroup usingGroup with
  | some userGroupRatio =>
    { groupRatio := userGroupRatio, groupSpecialRatio := userGroupRatio, hasSpecialRatio := true }
  | none => { groupRatio := cfg.getGroupRatio usingGroup }

def handleGroupRatio (cfg : PriceSettings) (autoGroup : Option String)
    (userGroup usingGroup : String) : GroupRatioInfo × String :=
  let usingGroup := autoGroup.getD usingGroup
  (cfg.groupRatioInfo userGroup usingGroup, usingGroup)

structure PriceRequest where
  promptTokens : Int
  maxTokens : Int := 0
  imagePriceRatio : Rat := 0
  (acceptUnsetRatioModel isAdmin : Bool := false)
  requestInput : Except Err RequestInput := .ok {}

structure Priced where
  priceData : PriceData
  snapshot : Option BillingSnapshot := none
  requestInput : Option RequestInput := none

def modelPriceNotConfiguredError (modelName : String) (isAdmin : Bool) : Err :=
  if isAdmin then
    "模型 " ++ modelName ++ " 的价格未配置。请前往「系统设置 → 运营设置」开启自用模式，或在「系统设置 → 分组与模型定价设置」中为该模型配置价格；Model " ++
      modelName ++ " price not configured. Go to System Settings → Operation Settings to enable self-use mode, or configure the model price in System Settings → Group & Model Pricing."
  else
    "模型 " ++ modelName ++ " 的价格尚未由管理员配置，暂时无法使用，请联系站点管理员开启该模型；Model " ++ modelName ++
      " has not been priced by the administrator yet. Please contact the site administrator to enable this model."

def claudeCacheCreation1hMultiplier : Rat := 8 / 5

def modelPriceHelperTiered (cfg : PriceSettings) (request : PriceRequest) (modelName : String)
    (groupRatioInfo : GroupRatioInfo) : Except Err Priced :=
  match cfg.billingExpr modelName, request.requestInput with
  | none, _ => .error ("model " ++ modelName ++
      " is configured as tiered_expr but has no billing expression")
  | some _, .error e => .error e
  | some exprString, .ok requestInput =>
    match cfg.engine.run exprString
        { p := request.promptTokens, c := request.maxTokens, len := request.promptTokens }
        requestInput with
    | .error e => .error ("model " ++ modelName ++ " tiered expr run failed: " ++ e)
    | .ok rawCost =>
      let quotaBeforeGroup := rawCost / 1000000 * cfg.quotaPerUnit
      let freeModel := !cfg.enableFreeModelPreConsume && groupRatioInfo.groupRatio == 0
      let preConsumedQuota := if freeModel then 0
        else quotaRound (quotaBeforeGroup * groupRatioInfo.groupRatio)
      .ok
        { priceData := { freeModel, groupRatioInfo, quotaToPreConsume := preConsumedQuota }
          snapshot := some
            { billingMode := .tieredExpr, exprString, groupRatio := groupRatioInfo.groupRatio
              estimatedQuotaAfterGroup := preConsumedQuota, quotaPerUnit := cfg.quotaPerUnit }
          requestInput := some requestInput }

def untieredPriceData (cfg : PriceSettings) (request : PriceRequest) (modelName : String)
    (groupRatioInfo : GroupRatioInfo) : Except Err PriceData :=
  match cfg.modelPrice modelName with
  | some price =>
    let modelPrice :=
      if request.imagePriceRatio ≠ 0 then price * request.imagePriceRatio else price
    .ok
      { modelPrice, usePrice := true, groupRatioInfo
        quotaToPreConsume := intPart (modelPrice * cfg.quotaPerUnit * groupRatioInfo.groupRatio) }
  | none =>
    let (modelRatio, success, matchName) := cfg.modelRatio modelName
    if !success && !request.acceptUnsetRatioModel then
      .error (modelPriceNotConfiguredError matchName request.isAdmin)
    else
      let preConsumedTokens := max request.promptTokens cfg.preConsumedQuota + request.maxTokens
      let cacheCreationRatio := cfg.createCacheRatio modelName
      .ok
        { modelPrice := -1, modelRatio, groupRatioInfo
          completionRatio := cfg.completionRatio modelName
          cacheRatio := cfg.cacheRatio modelName
          cacheCreationRatio
          cacheCreation5mRatio := cacheCreationRatio
          cacheCreation1hRatio := cacheCreationRatio * claudeCacheCreation1hMultiplier
          imageRatio := cfg.imageRatio modelName
          quotaToPreConsume :=
            intPart (preConsumedTokens * (modelRatio * groupRatioInfo.groupRatio)) }

def PriceData.withFreeModel (enableFreeModelPreConsume : Bool) (priceData : PriceData) : PriceData :=
  let base := if priceData.usePrice then priceData.modelPrice else priceData.modelRatio
  if !enableFreeModelPreConsume && (priceData.groupRatioInfo.groupRatio == 0 || base == 0) then
    { priceData with freeModel := true, quotaToPreConsume := 0 }
  else priceData

def modelPriceHelper (cfg : PriceSettings) (request : PriceRequest) (modelName : String)
    (groupRatioInfo : GroupRatioInfo) : Except Err Priced :=
  match cfg.billingMode modelName with
  | .tieredExpr => modelPriceHelperTiered cfg request modelName groupRatioInfo
  | .ratio =>
    match untieredPriceData cfg request modelName groupRatioInfo with
    | .error e => .error e
    | .ok priceData =>
      .ok { priceData := priceData.withFreeModel cfg.enableFreeModelPreConsume }

section

variable {cfg : PriceSettings} {request : PriceRequest} {modelName : String}
  {groupRatioInfo : GroupRatioInfo}

@[simp] theorem withFreeModel_groupRatioInfo (enabled : Bool) (priceData : PriceData) :
    (priceData.withFreeModel enabled).groupRatioInfo = priceData.groupRatioInfo := by
  simp only [PriceData.withFreeModel]
  split_ifs <;> rfl

theorem untieredPriceData_groupRatioInfo {priceData : PriceData}
    (h : untieredPriceData cfg request modelName groupRatioInfo = .ok priceData) :
    priceData.groupRatioInfo = groupRatioInfo := by
  simp only [untieredPriceData] at h
  split at h
  · cases h
    rfl
  split at h
  · cases h
  · cases h
    rfl

theorem modelPriceHelper_ratio_eq_ok {priced : Priced} (hm : cfg.billingMode modelName = .ratio) :
    modelPriceHelper cfg request modelName groupRatioInfo = .ok priced ↔
      ∃ priceData, untieredPriceData cfg request modelName groupRatioInfo = .ok priceData ∧
        priced = { priceData := priceData.withFreeModel cfg.enableFreeModelPreConsume } := by
  simp only [modelPriceHelper, hm]
  split <;> rename_i h <;> simp [h, eq_comm]

theorem modelPriceHelper_tiered {priced : Priced} (hm : cfg.billingMode modelName = .tieredExpr)
    (h : modelPriceHelper cfg request modelName groupRatioInfo = .ok priced) :
    priced.priceData.groupRatioInfo = groupRatioInfo ∧
      ∃ snap, priced.snapshot = some snap ∧ snap.billingMode = .tieredExpr ∧
        snap.groupRatio = groupRatioInfo.groupRatio ∧ snap.quotaPerUnit = cfg.quotaPerUnit := by
  simp only [modelPriceHelper, hm, modelPriceHelperTiered] at h
  split at h
  · cases h
  · cases h
  split at h
  · cases h
  · cases h
    exact ⟨rfl, _, rfl, rfl, rfl, rfl⟩

theorem modelPriceHelper_groupRatioInfo {priced : Priced}
    (h : modelPriceHelper cfg request modelName groupRatioInfo = .ok priced) :
    priced.priceData.groupRatioInfo = groupRatioInfo := by
  cases hm : cfg.billingMode modelName with
  | tieredExpr => exact (modelPriceHelper_tiered hm h).1
  | ratio =>
    obtain ⟨priceData, hp, rfl⟩ := (modelPriceHelper_ratio_eq_ok hm).mp h
    simp [untieredPriceData_groupRatioInfo hp]

end

end DeepRouter.Relay

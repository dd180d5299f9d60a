import DeepRouter.Library.Atomic
import DeepRouter.Relay.AirbotixPolicy
import DeepRouter.Relay.UpstreamChannel

/-! # The handler of Claude requests -/

namespace DeepRouter.Relay

open Atomic GoStrings Policy

structure ClaudeSettings where
  defaultMaxTokens : List (String × Int)
  thinkingAdapterEnabled : Bool := true
  thinkingBudget : Nat → Int

def ClaudeSettings.getDefaultMaxTokens (settings : ClaudeSettings) (model : String) : Int :=
  match settings.defaultMaxTokens.lookup model with
  | some maxTokens => maxTokens
  | none => (settings.defaultMaxTokens.lookup "default").getD 8192

def ClaudeSettings.defaultLimit (settings : ClaudeSettings) (model : String) : Nat :=
  (UInt64.ofInt (settings.getDefaultMaxTokens model)).toNat

structure ClaudeContext where
  decision : Option Decision := none
  originModelName : String
  channel : UpstreamChannel
  settings : ClaudeSettings
  thinkingModelBlacklist : List String := []
  passThroughRequestEnabled : Bool := false
  useResponses : Bool := false
  parseSystem : Json → List Json := fun _ => []

def effortSuffixes : List String := ["-max", "-xhigh", "-high", "-medium", "-low", "-minimal"]

def trimEffortSuffix (modelName : String) : Option (String × String) :=
  (effortSuffixes.find? fun ending => hasSuffix modelName ending).map fun ending =>
    (trimSuffix modelName ending, String.ofList (ending.toList.drop 1))

def rejectsSampling (model : String) : Bool :=
  hasPrefix model "claude-opus-4-7" || hasPrefix model "claude-opus-4-8"

def takesEffort (model : String) : Bool := hasPrefix model "claude-opus-4-6" || rejectsSampling model

def effortConfig (effort : String) : Json := .obj [("effort", .str effort)]

def shouldPreserveThinkingSuffix (blacklist : List String) (modelName : String) : Bool :=
  let target := trimSpace modelName
  decide (target ≠ "") && blacklist.any fun entry => trimSpace entry = target

namespace ClaudeRequest

def withEffort (baseModel effort : String) (request : ClaudeRequest) : ClaudeRequest :=
  let request := { request with model := baseModel, outputConfig := some (effortConfig effort) }
  if rejectsSampling baseModel then
    { request with
      thinking := some { type := "adaptive", display := "summarized" }
      temperature := none, topP := none, topK := none }
  else { request with thinking := some { type := "adaptive" }, temperature := some 1 }

def thinkingLimit (request : ClaudeRequest) : Nat :=
  match request.maxTokens with
  | none => 1280
  | some maxTokens => if maxTokens < 1280 then 1280 else maxTokens

def withThinkingBudget (settings : ClaudeSettings) (request : ClaudeRequest) : ClaudeRequest :=
  if rejectsSampling (trimSuffix request.model "-thinking") then
    { request with
      thinking := some { type := "adaptive", display := "summarized" }
      outputConfig := some (effortConfig "high")
      temperature := none, topP := none, topK := none }
  else
    { request with
      maxTokens := some request.thinkingLimit
      thinking := some { type := "enabled"
                         budgetTokens := some (settings.thinkingBudget request.thinkingLimit) }
      temperature := some 1 }

end ClaudeRequest

namespace ClaudeContext

variable (ctx : ClaudeContext)

def mapModel (request : ClaudeRequest) : Except ApiError ClaudeRequest :=
  match modelMappedHelper ctx.channel ctx.originModelName request.model with
  | .error err => .error (.final "channel:model_mapped_error" err 500)
  | .ok model => .ok { request with model }

def withDefaultMaxTokens (request : ClaudeRequest) : ClaudeRequest :=
  if request.maxTokens.getD 0 = 0 then
    { request with maxTokens := some (ctx.settings.defaultLimit request.model) }
  else request

def withThinkingAdapter (request : ClaudeRequest) : ClaudeRequest :=
  let request := if request.thinking.isNone then request.withThinkingBudget ctx.settings else request
  if !shouldPreserveThinkingSuffix ctx.thinkingModelBlacklist ctx.originModelName then
    { request with model := trimSuffix request.model "-thinking" }
  else request

def withThinking (request : ClaudeRequest) : ClaudeRequest :=
  match (trimEffortSuffix request.model).filter fun _ => takesEffort request.model with
  | some (baseModel, effort) => request.withEffort baseModel effort
  | none =>
    if ctx.settings.thinkingAdapterEnabled && hasSuffix request.model "-thinking" then
      ctx.withThinkingAdapter request
    else request

def systemTextPart : Json := .obj [("type", .str "text"), ("text", .str ctx.channel.systemPrompt)]

def promptedSystem (system : Json) : Json :=
  match system with
  | .null => .str ctx.channel.systemPrompt
  | system =>
    if !ctx.channel.systemPromptOverride then system
    else
      match system with
      | .str text =>
        if trimSpace text = "" then .str ctx.channel.systemPrompt
        else .str (ctx.channel.systemPrompt ++ "\n" ++ trimSpace text)
      | system => .arr (ctx.systemTextPart :: ctx.parseSystem system)

def withSystemPrompt (request : ClaudeRequest) : ClaudeRequest :=
  if ctx.channel.systemPrompt ≠ "" then { request with system := ctx.promptedSystem request.system }
  else request

def passesThrough : Bool := ctx.passThroughRequestEnabled || ctx.channel.passThroughBodyEnabled

def forward (body request : ClaudeRequest) : Forwarded ClaudeRequest :=
  if !ctx.passesThrough && ctx.useResponses then .viaResponses request
  else if ctx.passesThrough then .body body
  else .converted request

end ClaudeContext

def claudeHelper (lower : Char → Char) (ctx : ClaudeContext) (body : ClaudeRequest) :
    Except ApiError (Forwarded ClaudeRequest) := do
  let request ← applyAirbotixPolicyToClaude lower ctx.decision (body.setModelName ctx.originModelName)
  let request ← ctx.mapModel request
  if !ctx.channel.hasAdaptor then
    .error (.final "invalid_api_type" ("invalid api type: " ++ toString ctx.channel.apiType) 500)
  else
    .ok (ctx.forward body (ctx.withSystemPrompt (ctx.withThinking (ctx.withDefaultMaxTokens request))))

/-! ## The output limits -/

section

variable {lower : Char → Char} {ctx : ClaudeContext} {body request : ClaudeRequest}

theorem constrained_limits (decision : Decision) (request : ClaudeRequest) :
    (request.constrained decision).maxTokens = request.maxTokens ∧
      (request.constrained decision).maxTokensToSample = request.maxTokensToSample ∧
      (request.constrained decision).model = request.model := by
  simp only [ClaudeRequest.constrained]
  split_ifs
  · split <;> exact ⟨rfl, rfl, rfl⟩
  · exact ⟨rfl, rfl, rfl⟩
  · split <;> exact ⟨rfl, rfl, rfl⟩
  · exact ⟨rfl, rfl, rfl⟩

theorem applyAirbotixPolicyToClaude_limits {decision : Option Decision} {acc : ClaudeRequest}
    (h : applyAirbotixPolicyToClaude lower decision request = .ok acc) :
    acc.maxTokens = clampUint request.maxTokens maxTokensHardCap ∧
      acc.maxTokensToSample = clampUint request.maxTokensToSample maxTokensHardCap ∧
      acc.model = request.model := by
  cases decision with
  | none =>
    cases h
    exact ⟨rfl, rfl, rfl⟩
  | some decision =>
    simp only [applyAirbotixPolicyToClaude] at h
    split at h
    · cases h
    · cases h
      exact constrained_limits decision request.clamped

theorem claude_mapModel_ok {mapped : ClaudeRequest} (h : ctx.mapModel request = .ok mapped) :
    ∃ model, modelMappedHelper ctx.channel ctx.originModelName request.model = .ok model ∧
      mapped = { request with model } := by
  simp only [ClaudeContext.mapModel] at h
  split at h
  · cases h
  · rename_i model hm
    cases h
    exact ⟨model, hm, rfl⟩

theorem forward_request_eq (ht : ctx.passesThrough = false) :
    (ctx.forward body request).request = request := by
  simp only [ClaudeContext.forward, ht, Bool.not_false, Bool.true_and, Bool.false_eq_true, if_false]
  split <;> rfl

theorem withSystemPrompt_eq (ctx : ClaudeContext) (request : ClaudeRequest) :
    ∃ system, ctx.withSystemPrompt request = { request with system } := by
  simp only [ClaudeContext.withSystemPrompt]
  split
  · exact ⟨_, rfl⟩
  · exact ⟨request.system, rfl⟩

theorem withDefaultMaxTokens_limits (ctx : ClaudeContext) (request : ClaudeRequest) :
    (ctx.withDefaultMaxTokens request).maxTokens = some (if request.maxTokens.getD 0 = 0 then
        ctx.settings.defaultLimit request.model else request.maxTokens.getD 0) ∧
      (ctx.withDefaultMaxTokens request).maxTokensToSample = request.maxTokensToSample := by
  simp only [ClaudeContext.withDefaultMaxTokens]
  split
  · exact ⟨rfl, rfl⟩
  rename_i hg
  cases ht : request.maxTokens with
  | none => exact absurd (by rw [ht]; rfl) hg
  | some maxTokens => exact ⟨rfl, rfl⟩

theorem withThinking_limits (ctx : ClaudeContext) {maxTokens : Nat}
    (ht : request.maxTokens = some maxTokens) :
    ((ctx.withThinking request).maxTokens = some maxTokens ∨
        (maxTokens < 1280 ∧ (ctx.withThinking request).maxTokens = some 1280)) ∧
      (ctx.withThinking request).maxTokensToSample = request.maxTokensToSample := by
  simp only [ClaudeContext.withThinking]
  split
  · simp only [ClaudeRequest.withEffort]
    split_ifs <;> exact ⟨.inl ht, rfl⟩
  split
  · simp only [ClaudeContext.withThinkingAdapter, ClaudeRequest.withThinkingBudget,
      ClaudeRequest.thinkingLimit, ht]
    split_ifs with _ _ hs <;> simp [*]
  · exact ⟨.inl ht, rfl⟩

theorem claudeHelper_request {forwarded : Forwarded ClaudeRequest}
    (ht : ctx.passesThrough = false) (h : claudeHelper lower ctx body = .ok forwarded) :
    ∃ accepted model system,
      applyAirbotixPolicyToClaude lower ctx.decision (body.setModelName ctx.originModelName) =
        .ok accepted ∧
      modelMappedHelper ctx.channel ctx.originModelName accepted.model = .ok model ∧
      forwarded.request = { ctx.withThinking (ctx.withDefaultMaxTokens { accepted with model }) with
        system } := by
  simp only [claudeHelper, bind_eq_ok] at h
  obtain ⟨accepted, ha, mapped, hm, h⟩ := h
  obtain ⟨model, hmo, rfl⟩ := claude_mapModel_ok hm
  split at h
  · cases h
  cases h
  rw [forward_request_eq ht]
  obtain ⟨system, hs⟩ := withSystemPrompt_eq ctx
    (ctx.withThinking (ctx.withDefaultMaxTokens { accepted with model }))
  exact ⟨accepted, model, system, ha, hmo, hs⟩

end

end DeepRouter.Relay

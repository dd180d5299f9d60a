import DeepRouter.Relay.ClaudeHelper
import DeepRouter.Relay.TextHelper

/-! # The ceiling of output tokens -/

namespace DeepRouter.Relay

open Policy

inductive HandlerCall where
  | text (ctx : TextContext) (body : GeneralOpenAIRequest)
  | claude (ctx : ClaudeContext) (body : ClaudeRequest)

def UnderCap (limits : List (Option Nat)) : Prop :=
  ∀ limit, some limit ∈ limits → limit ≤ maxTokensHardCap

def GeneralOpenAIRequest.outputLimits (request : GeneralOpenAIRequest) : List (Option Nat) :=
  [request.maxTokens, request.maxCompletionTokens]

def ClaudeRequest.outputLimits (request : ClaudeRequest) : List (Option Nat) :=
  [request.maxTokens, request.maxTokensToSample]

namespace HandlerCall

def passesThrough : HandlerCall → Bool
  | .text ctx _ => ctx.passesThrough
  | .claude ctx _ => ctx.passesThrough

def outputLimits (lower : Char → Char) : HandlerCall → Except ApiError (List (Option Nat))
  | .text ctx body =>
    (textHelper lower ctx body).map fun forwarded => forwarded.request.outputLimits
  | .claude ctx body =>
    (claudeHelper lower ctx body).map fun forwarded => forwarded.request.outputLimits

def Limited : HandlerCall → Prop
  | .text ctx body =>
    ctx.decision.isSome ∨ (ctx.boundVersion body.deeprouter).isSome ∨ UnderCap body.outputLimits
  | .claude ctx body =>
    body.maxTokens.getD 0 ≠ 0 ∨
      ∀ model, modelMappedHelper ctx.channel ctx.originModelName
          (body.setModelName ctx.originModelName).model = .ok model →
        ctx.settings.defaultLimit model ≤ maxTokensHardCap

end HandlerCall

theorem underCap_pair (first second : Option Nat) :
    UnderCap [first, second] ↔ UnderCap [first] ∧ UnderCap [second] := by
  simp [UnderCap, or_imp, forall_and]

theorem underCap_clampUint (limit : Option Nat) : UnderCap [clampUint limit maxTokensHardCap] := by
  cases limit with
  | none => simp [UnderCap, clampUint]
  | some limit =>
    simp only [UnderCap, clampUint]
    split
    · simp
    · simp
      omega

theorem getD_le_of_underCap {limit : Option Nat} (h : UnderCap [limit]) :
    limit.getD 0 ≤ maxTokensHardCap := by
  cases limit with
  | none => exact Nat.zero_le _
  | some limit => exact h limit List.mem_cons_self

section

variable {lower : Char → Char} {ctx : TextContext} {body accepted : GeneralOpenAIRequest}

theorem chat_constrained_outputLimits (decision : Decision) (channelType : Int)
    (req : GeneralOpenAIRequest) :
    (req.constrained decision channelType).outputLimits = req.outputLimits := by
  simp only [GeneralOpenAIRequest.constrained, prependProfileSystemPrompt]
  cases systemPromptFor decision <;> simp only <;> split_ifs <;> rfl

theorem setModelName_outputLimits (modelName : String) (req : GeneralOpenAIRequest) :
    (req.setModelName modelName).outputLimits = req.outputLimits := by
  simp only [GeneralOpenAIRequest.setModelName]
  split <;> rfl

theorem applyPolicy_outputLimits (h : ctx.applyPolicy lower (ctx.entered body) = .ok accepted) :
    UnderCap accepted.outputLimits ↔ ctx.decision.isSome ∨ UnderCap body.outputLimits := by
  simp only [TextContext.applyPolicy] at h
  cases hd : ctx.decision with
  | none =>
    simp only [hd] at h
    cases h
    have hs : (ctx.entered body).outputLimits = body.outputLimits :=
      setModelName_outputLimits ctx.originModelName body
    simp [hs]
  | some decision =>
    simp only [hd, applyAirbotixPolicy] at h
    split at h
    · cases h
    rename_i ha
    cases h
    split at ha
    · cases ha
    cases ha
    rw [chat_constrained_outputLimits]
    simp only [Option.isSome_some, true_or, iff_true]
    exact (underCap_pair _ _).mpr ⟨underCap_clampUint _, underCap_clampUint _⟩

theorem textHelper_outputLimits {forwarded : Forwarded GeneralOpenAIRequest}
    (ht : ctx.passesThrough = false) (h : textHelper lower ctx body = .ok forwarded) :
    UnderCap forwarded.request.outputLimits ↔ (HandlerCall.text ctx body).Limited := by
  obtain ⟨accepted, model, stream, streamOptions, messages, text, ha, hf, -⟩ :=
    textHelper_request ht h
  rw [hf, HandlerCall.Limited]
  cases hb : ctx.boundVersion body.deeprouter with
  | none =>
    simp only [Option.isSome_none, Bool.false_eq_true, false_or]
    have hl := applyPolicy_outputLimits ha
    exact hl
  | some version => simp [UnderCap, GeneralOpenAIRequest.outputLimits]

end

section

variable {lower : Char → Char} {ctx : ClaudeContext} {body : ClaudeRequest}

theorem claude_setModelName_maxTokens (modelName : String) (req : ClaudeRequest) :
    (req.setModelName modelName).maxTokens = req.maxTokens := by
  simp only [ClaudeRequest.setModelName]
  split <;> rfl

theorem clampUint_getD_eq_zero (limit : Option Nat) :
    (clampUint limit maxTokensHardCap).getD 0 = 0 ↔ limit.getD 0 = 0 := by
  cases limit with
  | none => rfl
  | some limit =>
    by_cases ha : 2048 < limit
    · simp only [clampUint, maxTokensHardCap, ha, if_true, Option.getD_some]
      omega
    · simp only [clampUint, maxTokensHardCap, ha, if_false]

theorem withThinking_underCap {req : ClaudeRequest} {maxTokens : Nat}
    (hTokens : req.maxTokens = some maxTokens) (hSample : UnderCap [req.maxTokensToSample]) :
    UnderCap (ctx.withThinking req).outputLimits ↔ maxTokens ≤ maxTokensHardCap := by
  obtain ⟨hTokens', hSample'⟩ := withThinking_limits ctx hTokens
  rw [ClaudeRequest.outputLimits, underCap_pair, hSample']
  simp only [hSample, and_true]
  obtain hk | ⟨hs, hr⟩ := hTokens'
  · simp [hk, UnderCap]
  · simp only [hr, UnderCap, maxTokensHardCap]
    simp
    omega

theorem claudeHelper_outputLimits {forwarded : Forwarded ClaudeRequest}
    (ht : ctx.passesThrough = false) (h : claudeHelper lower ctx body = .ok forwarded) :
    UnderCap forwarded.request.outputLimits ↔ (HandlerCall.claude ctx body).Limited := by
  obtain ⟨accepted, model, system, ha, hmo, hf⟩ := claudeHelper_request ht h
  obtain ⟨hto, hs, hn⟩ := applyAirbotixPolicyToClaude_limits ha
  obtain ⟨hfi, hk⟩ := withDefaultMaxTokens_limits ctx { accepted with model }
  have hsa : UnderCap [(ctx.withDefaultMaxTokens { accepted with model }).maxTokensToSample] := by
    rw [hk, hs]
    exact underCap_clampUint _
  rw [hf, HandlerCall.Limited, ← hn, hmo]
  refine (withThinking_underCap hfi hsa).trans ?_
  rw [claude_setModelName_maxTokens] at hto
  have hz := clampUint_getD_eq_zero body.maxTokens
  rw [← hto] at hz
  split
  · -- the default of the mapped model is filled in
    rename_i hm
    simp [hz.mp hm]
  rename_i hg
  have hc : accepted.maxTokens.getD 0 ≤ maxTokensHardCap := by
    rw [hto]
    exact getD_le_of_underCap (underCap_clampUint body.maxTokens)
  exact ⟨fun _ => .inl (mt hz.mpr hg), fun _ => hc⟩

end

/-- Without pass-through no limit above the ceiling is sent just when the call is limited. -/
theorem output_limits_under_cap_iff (lower : Char → Char) (call : HandlerCall)
    (limits : List (Option Nat)) (hThrough : call.passesThrough = false)
    (h : call.outputLimits lower = .ok limits) : UnderCap limits ↔ call.Limited := by
  cases call with
  | text ctx body =>
    cases hs : textHelper lower ctx body with
    | error err => simp [HandlerCall.outputLimits, hs, Except.map] at h
    | ok forwarded =>
      simp only [HandlerCall.outputLimits, hs, Except.map, Except.ok.injEq] at h
      subst h
      exact textHelper_outputLimits hThrough hs
  | claude ctx body =>
    cases hs : claudeHelper lower ctx body with
    | error err => simp [HandlerCall.outputLimits, hs, Except.map] at h
    | ok forwarded =>
      simp only [HandlerCall.outputLimits, hs, Except.map, Except.ok.injEq] at h
      subst h
      exact claudeHelper_outputLimits hThrough hs

def openChannel (model : String) : UpstreamChannel where
  channelType := 1
  apiType := 0
  upstreamModelName := model

def askedCall (decision : Option Decision) (maxTokens : Nat) : HandlerCall :=
  .text { decision, originModelName := "gpt-4o", channel := openChannel "gpt-4o" }
    { model := "gpt-4o", messages := [{ role := "user", content := .str "Hi!" }]
      maxTokens := some maxTokens }

def unlimitedCall : HandlerCall :=
  .claude { originModelName := "claude-3-5-haiku", channel := openChannel "claude-3-5-haiku"
            settings := { defaultMaxTokens := [("default", 8192)], thinkingBudget := fun _ => 0 } }
    { model := "claude-3-5-haiku", messages := [{ role := "user", content := .str "Hi!" }] }

theorem output_limits_under_cap_iff_adult :
    (askedCall (some (decisionFor false "adult")) 100000).outputLimits Char.toLower =
        .ok [some 2048, none] ∧
      UnderCap [some 2048, none] := by
  have hl : (askedCall (some (decisionFor false "adult")) 100000).outputLimits Char.toLower =
      .ok [some 2048, none] := by decide +kernel
  exact ⟨hl, (output_limits_under_cap_iff Char.toLower _ _ rfl hl).mpr (.inl rfl)⟩

theorem output_limits_above_cap :
    (askedCall none 100000).outputLimits Char.toLower = .ok [some 100000, none] ∧
      unlimitedCall.outputLimits Char.toLower = .ok [some 8192, none] ∧
      ¬UnderCap [some 100000, none] ∧ ¬UnderCap [some 8192, none] :=
  ⟨by decide +kernel, by decide +kernel, fun h => absurd (h 100000 List.mem_cons_self) (by decide),
    fun h => absurd (h 8192 List.mem_cons_self) (by decide)⟩

end DeepRouter.Relay

import DeepRouter.Policy.Profile
import DeepRouter.Relay.ApiError
import DeepRouter.Relay.Requests

/-! # The policy hooks of the relay handlers -/

namespace DeepRouter.Relay

open Policy

def maxTokensHardCap : Nat := 2048

def clampUint (value : Option Nat) (ceiling : Nat) : Option Nat :=
  match value with
  | some v => if ceiling < v then some ceiling else some v
  | none => none

def rejectAirbotixModel (model : String) : ApiError :=
  .final "channel:model_mapped_error" ("model_not_eligible_for_kids_mode: " ++ model) 400

def rejectAirbotixInput (deny : InputDeny) : ApiError :=
  .final "invalid_request" deny.reason 422

def isOpenAIFamilyChannel (channelType : Int) : Bool :=
  decide (channelType = 1 ∨ channelType = 3 ∨ channelType = 6)

def isSystemRole (role : String) : Bool := decide (role = "system" ∨ role = "developer")

mutual

def collectAnyText : Json → List String
  | .str text => [text]
  | .arr items => collectItems items
  | .obj fields => ((Json.obj fields).stringField "text").toList ++ collectContent fields
  | _ => []

def collectItems : List Json → List String
  | [] => []
  | item :: items => collectAnyText item ++ collectItems items

def collectContent : List (String × Json) → List String
  | [] => []
  | (name, value) :: fields => if name = "content" then collectAnyText value else collectContent fields

end

def isUserRole (role : String) : Bool := decide (role = "user" ∨ role = "")

def collectGeneralOpenAIInputTexts (request : GeneralOpenAIRequest) : List String :=
  (request.messages.filter fun message => isUserRole message.role).map Message.stringContent ++
    collectAnyText request.prompt ++ collectAnyText request.input ++
    (if request.instruction ≠ "" then [request.instruction] else [])

def collectClaudeInputTexts (request : ClaudeRequest) : List String :=
  (if request.prompt ≠ "" then [request.prompt] else []) ++
    (request.messages.filter fun message => isUserRole message.role).map
      ClaudeMessage.getStringContent

def collectResponsesInputTexts (request : OpenAIResponsesRequest) : List String :=
  (request.parseInput.map MediaInput.text).filter (· ≠ "")

def collectGeminiInputTexts (request : GeminiChatRequest) : List String :=
  (request.contents.filter fun content => isUserRole content.role).flatMap fun content =>
    (content.parts.map GeminiPart.text).filter (· ≠ "")

def replaceSystemMessage (kidsMode : Bool) (role prompt : String) : List Message → Option (List Message)
  | [] => none
  | message :: messages =>
    if message.role = role ∨ isSystemRole message.role then
      some ((if kidsMode then { message with role }.setStringContent prompt else message) :: messages)
    else (replaceSystemMessage kidsMode role prompt messages).map (message :: ·)

def prependProfileSystemPrompt (request : GeneralOpenAIRequest) (decision : Decision) :
    GeneralOpenAIRequest :=
  match systemPromptFor decision with
  | none => request
  | some prompt =>
    let role := request.getSystemRoleName
    let messages := (replaceSystemMessage decision.kidsMode role prompt request.messages).getD
      ({ role, content := .str prompt } :: request.messages)
    { request with messages }

def GeneralOpenAIRequest.clamped (request : GeneralOpenAIRequest) : GeneralOpenAIRequest :=
  { request with
    maxTokens := clampUint request.maxTokens maxTokensHardCap
    maxCompletionTokens := clampUint request.maxCompletionTokens maxTokensHardCap }

def ClaudeRequest.clamped (request : ClaudeRequest) : ClaudeRequest :=
  { request with
    maxTokens := clampUint request.maxTokens maxTokensHardCap
    maxTokensToSample := clampUint request.maxTokensToSample maxTokensHardCap }

def OpenAIResponsesRequest.clamped (request : OpenAIResponsesRequest) : OpenAIResponsesRequest :=
  { request with maxOutputTokens := clampUint request.maxOutputTokens maxTokensHardCap }

def GeminiChatRequest.clamped (request : GeminiChatRequest) : GeminiChatRequest :=
  { request with maxOutputTokens := clampUint request.maxOutputTokens maxTokensHardCap }

def GeneralOpenAIRequest.constrained (decision : Decision) (channelType : Int)
    (request : GeneralOpenAIRequest) : GeneralOpenAIRequest :=
  let request := if decision.injectSystemPrompt then prependProfileSystemPrompt request decision
    else request
  let request := if decision.stripIdentifying then
      { request with user := none, safetyIdentifier := none }
    else request
  if decision.enforceZDR && isOpenAIFamilyChannel channelType then
    { request with store := some (.bool false) }
  else request

def ClaudeRequest.constrained (decision : Decision) (request : ClaudeRequest) : ClaudeRequest :=
  let prompt := (systemPromptFor decision).getD ""
  let request := if decision.injectSystemPrompt then
      match decision.kidsMode, request.system with
      | true, _ => { request with system := .str prompt }
      | false, .null => { request with system := .str prompt }
      | false, .str "" => { request with system := .str prompt }
      | false, _ => request
    else request
  if decision.stripIdentifying then { request with metadata := none } else request

def OpenAIResponsesRequest.constrained (decision : Decision) (channelType : Int)
    (request : OpenAIResponsesRequest) : OpenAIResponsesRequest :=
  let prompt := (systemPromptFor decision).getD ""
  let request := if decision.injectSystemPrompt then
      match decision.kidsMode, request.instructions with
      | true, _ => { request with instructions := some (.str prompt) }
      | false, none => { request with instructions := some (.str prompt) }
      | false, some .null => { request with instructions := some (.str prompt) }
      | false, some _ => request
    else request
  let request := if decision.stripIdentifying then
      { request with user := none, safetyIdentifier := none }
    else request
  if decision.enforceZDR && isOpenAIFamilyChannel channelType then
    { request with store := some (.bool false) }
  else request

def GeminiChatRequest.constrained (decision : Decision) (request : GeminiChatRequest) :
    GeminiChatRequest :=
  let prompt := (systemPromptFor decision).getD ""
  let content : GeminiChatContent := { role := "system", parts := [{ text := prompt }] }
  if decision.injectSystemPrompt && (decision.kidsMode || request.systemInstructions.isNone) then
    { request with systemInstructions := some content }
  else request

variable (lower : Char → Char)

def rejectReason (decision : Decision) (request : GeneralOpenAIRequest) : Option String :=
  if decision.enforceModelWhitelist && !isModelEligible request.model then
    some ("model_not_eligible_for_kids_mode: " ++ request.model)
  else
    (checkInput lower decision (collectGeneralOpenAIInputTexts request)).map InputDeny.reason

def applyAirbotixPolicy (decision : Decision) (channelType : Int) (request : GeneralOpenAIRequest) :
    Except String GeneralOpenAIRequest :=
  let request := request.clamped
  match rejectReason lower decision request with
  | some reason => .error reason
  | none => .ok (request.constrained decision channelType)

def policyRejection (decision : Decision) (model : String) (texts : List String) : Option ApiError :=
  if decision.enforceModelWhitelist && !isModelEligible model then some (rejectAirbotixModel model)
  else (checkInput lower decision texts).map rejectAirbotixInput

def applyAirbotixPolicyToClaude (decision : Option Decision) (request : ClaudeRequest) :
    Except ApiError ClaudeRequest :=
  let request := request.clamped
  match decision with
  | none => .ok request
  | some decision =>
    match policyRejection lower decision request.model (collectClaudeInputTexts request) with
    | some err => .error err
    | none => .ok (request.constrained decision)

def applyAirbotixPolicyToResponses (decision : Option Decision) (channelType : Int)
    (request : OpenAIResponsesRequest) : Except ApiError OpenAIResponsesRequest :=
  let request := request.clamped
  match decision with
  | none => .ok request
  | some decision =>
    match policyRejection lower decision request.model (collectResponsesInputTexts request) with
    | some err => .error err
    | none => .ok (request.constrained decision channelType)

def applyAirbotixPolicyToGemini (decision : Option Decision) (model : String)
    (request : GeminiChatRequest) : Except ApiError GeminiChatRequest :=
  let request := request.clamped
  match decision with
  | none => .ok request
  | some decision =>
    match policyRejection lower decision model (collectGeminiInputTexts request) with
    | some err => .error err
    | none => .ok (request.constrained decision)

theorem applyAirbotixPolicy_kids {lower : Char → Char} {profile : String} {channelType : Int}
    {req acc : GeneralOpenAIRequest}
    (h : applyAirbotixPolicy lower (decisionFor true profile) channelType req = .ok acc) :
    isModelEligible req.model ∧
      acc = { prependProfileSystemPrompt req.clamped (decisionFor true profile) with
        user := none
        safetyIdentifier := none
        store := if isOpenAIFamilyChannel channelType then some (.bool false) else req.store } := by
  simp only [applyAirbotixPolicy] at h
  split at h
  · cases h
  rename_i hr
  cases h
  constructor
  · by_contra hm
    have hl : ((decisionFor true profile).enforceModelWhitelist &&
        !isModelEligible req.clamped.model) = true := by
      change (true && !isModelEligible req.model) = true
      rw [eq_false_of_ne_true hm]
      rfl
    rw [rejectReason, if_pos hl] at hr
    cases hr
  · cases hf : isOpenAIFamilyChannel channelType <;>
      simp [GeneralOpenAIRequest.constrained, decisionFor, prependProfileSystemPrompt,
        systemPromptFor, GeneralOpenAIRequest.clamped, hf]

inductive ClientRequest where
  | chat (request : GeneralOpenAIRequest)
  | claude (request : ClaudeRequest)
  | responses (request : OpenAIResponsesRequest)
  | gemini (model : String) (request : GeminiChatRequest)

def ClientRequest.applyPolicy (decision : Decision) (channelType : Int) :
    ClientRequest → Except ApiError ClientRequest
  | .chat request =>
    match applyAirbotixPolicy lower decision channelType request with
    | .error reason => .error (.final "channel:model_mapped_error" reason 400)
    | .ok request => .ok (.chat request)
  | .claude request => (applyAirbotixPolicyToClaude lower (some decision) request).map .claude
  | .responses request =>
    (applyAirbotixPolicyToResponses lower (some decision) channelType request).map .responses
  | .gemini model request =>
    (applyAirbotixPolicyToGemini lower (some decision) model request).map (.gemini model)

end DeepRouter.Relay

import DeepRouter.Relay.AirbotixPolicy

/-! # What an upstream can learn about the end user -/

namespace DeepRouter.Relay

open Policy ClientRequest

def identityEntries : List String := ["user_id", "kid_profile_id", "family_id", "kid_id"]

namespace ClientRequest

def anonymous : ClientRequest → ClientRequest
  | .chat request => .chat { request with
      user := none, safetyIdentifier := none
      metadata := request.metadata.map (Json.erase identityEntries) }
  | .claude request => .claude { request with
      metadata := request.metadata.map (Json.erase identityEntries) }
  | .responses request => .responses { request with
      user := none, safetyIdentifier := none
      metadata := request.metadata.map (Json.erase identityEntries) }
  | .gemini model request => .gemini model request

def forwardedMetadata : ClientRequest → Option Json
  | .chat request => request.metadata
  | .responses request => request.metadata
  | .claude _ => none
  | .gemini _ _ => none

def withMetadata (metadata : Option Json) : ClientRequest → ClientRequest
  | .chat request => .chat { request with metadata }
  | .responses request => .responses { request with metadata }
  | request => request

end ClientRequest

section

variable {lower : Char → Char} {decision : Decision} {channelType : Int}

section

variable (hs : decision.stripIdentifying)

include hs

theorem chat_constrained_anonymous (req : GeneralOpenAIRequest) (metadata : Option Json) :
    { GeneralOpenAIRequest.constrained decision channelType
        { req with user := none, safetyIdentifier := none, metadata } with
      metadata := req.metadata } = req.constrained decision channelType := by
  simp only [GeneralOpenAIRequest.constrained, hs, if_true, prependProfileSystemPrompt]
  cases systemPromptFor decision <;> simp only <;> split_ifs <;> rfl

theorem responses_constrained_anonymous (req : OpenAIResponsesRequest) (metadata : Option Json) :
    { OpenAIResponsesRequest.constrained decision channelType
        { req with user := none, safetyIdentifier := none, metadata } with
      metadata := req.metadata } = req.constrained decision channelType := by
  simp only [OpenAIResponsesRequest.constrained, hs, if_true]
  split_ifs
  · split <;> rfl
  · rfl
  · split <;> rfl
  · rfl

theorem claude_constrained_anonymous (request : ClaudeRequest) (metadata : Option Json) :
    ClaudeRequest.constrained decision { request with metadata } = request.constrained decision := by
  simp only [ClaudeRequest.constrained, hs, if_true]
  split_ifs
  · split <;> rfl
  · rfl

theorem applyAirbotixPolicy_anonymous (request : GeneralOpenAIRequest) (metadata : Option Json) :
    (applyAirbotixPolicy lower decision channelType
        { request with user := none, safetyIdentifier := none, metadata }).map
          (fun changed => { changed with metadata := request.metadata }) =
      applyAirbotixPolicy lower decision channelType request := by
  have hr : rejectReason lower decision (GeneralOpenAIRequest.clamped
      { request with user := none, safetyIdentifier := none, metadata }) =
        rejectReason lower decision request.clamped := rfl
  simp only [applyAirbotixPolicy, hr]
  cases rejectReason lower decision request.clamped with
  | some reason => rfl
  | none => exact congrArg Except.ok (chat_constrained_anonymous hs request.clamped metadata)

theorem applyAirbotixPolicyToClaude_anonymous (request : ClaudeRequest) (metadata : Option Json) :
    applyAirbotixPolicyToClaude lower (some decision) { request with metadata } =
      applyAirbotixPolicyToClaude lower (some decision) request := by
  have ht : collectClaudeInputTexts (ClaudeRequest.clamped { request with metadata }) =
      collectClaudeInputTexts request.clamped := rfl
  have hm : (ClaudeRequest.clamped { request with metadata }).model = request.clamped.model := rfl
  simp only [applyAirbotixPolicyToClaude, ht, hm]
  cases policyRejection lower decision request.clamped.model (collectClaudeInputTexts request.clamped)
    with
  | some err => rfl
  | none => exact congrArg Except.ok (claude_constrained_anonymous hs request.clamped metadata)

theorem applyAirbotixPolicyToResponses_anonymous (request : OpenAIResponsesRequest)
    (metadata : Option Json) :
    (applyAirbotixPolicyToResponses lower (some decision) channelType
        { request with user := none, safetyIdentifier := none, metadata }).map
          (fun changed => { changed with metadata := request.metadata }) =
      applyAirbotixPolicyToResponses lower (some decision) channelType request := by
  have ht : collectResponsesInputTexts (OpenAIResponsesRequest.clamped
      { request with user := none, safetyIdentifier := none, metadata }) =
        collectResponsesInputTexts request.clamped := rfl
  have hm : (OpenAIResponsesRequest.clamped
      { request with user := none, safetyIdentifier := none, metadata }).model =
        request.clamped.model := rfl
  simp only [applyAirbotixPolicyToResponses, ht, hm]
  cases policyRejection lower decision request.clamped.model
      (collectResponsesInputTexts request.clamped) with
  | some err => rfl
  | none => exact congrArg Except.ok (responses_constrained_anonymous hs request.clamped metadata)

theorem applyPolicy_eq_anonymous (req : ClientRequest) :
    req.applyPolicy lower decision channelType =
      (req.anonymous.applyPolicy lower decision channelType).map
        (withMetadata req.forwardedMetadata) := by
  cases req with
  | chat req =>
    simp only [applyPolicy, anonymous]
    rw [← applyAirbotixPolicy_anonymous hs req (req.metadata.map (Json.erase identityEntries))]
    cases applyAirbotixPolicy lower decision channelType _ <;> rfl
  | claude req =>
    simp only [applyPolicy, anonymous, applyAirbotixPolicyToClaude_anonymous hs]
    cases applyAirbotixPolicyToClaude lower (some decision) req <;> rfl
  | responses req =>
    simp only [applyPolicy, anonymous]
    rw [← applyAirbotixPolicyToResponses_anonymous hs req
      (req.metadata.map (Json.erase identityEntries))]
    cases applyAirbotixPolicyToResponses lower (some decision) channelType _ <;> rfl
  | gemini model req =>
    simp only [applyPolicy, anonymous]
    cases applyAirbotixPolicyToGemini lower (some decision) model req <;> rfl

end

theorem withMetadata_inj {first second acc : ClientRequest} (hs : first.anonymous = second.anonymous)
    (h : first.anonymous.applyPolicy lower decision channelType = .ok acc) :
    acc.withMetadata first.forwardedMetadata = acc.withMetadata second.forwardedMetadata ↔
      first.forwardedMetadata = second.forwardedMetadata := by
  refine ⟨fun hm => ?_, fun hm => by rw [hm]⟩
  cases first with
  | chat request =>
    cases second with
    | chat other =>
      simp only [anonymous, applyPolicy] at h
      split at h
      · cases h
      · cases h
        simpa [withMetadata] using hm
    | _ => cases hs
  | responses request =>
    cases second with
    | responses other =>
      simp only [anonymous, applyPolicy] at h
      cases ha : applyAirbotixPolicyToResponses lower (some decision) channelType
          { request with user := none, safetyIdentifier := none,
                         metadata := request.metadata.map (Json.erase identityEntries) } with
      | error err =>
        rw [ha] at h
        cases h
      | ok changed =>
        rw [ha] at h
        cases h
        simpa [withMetadata] using hm
    | _ => cases hs
  | claude request => cases second <;> first | rfl | cases hs
  | gemini model request => cases second <;> first | rfl | cases hs

end

namespace ClientRequest

/-- The model is not eligible or the input is blocked. -/
def rejected (lower : Char → Char) (decision : Decision) : ClientRequest → Bool
  | .chat request => (rejectReason lower decision request.clamped).isSome
  | .claude request => (policyRejection lower decision request.model
      (collectClaudeInputTexts request.clamped)).isSome
  | .responses request => (policyRejection lower decision request.model
      (collectResponsesInputTexts request.clamped)).isSome
  | .gemini model request => (policyRejection lower decision model
      (collectGeminiInputTexts request.clamped)).isSome

theorem rejected_iff {lower : Char → Char} {decision : Decision} {channelType : Int}
    {request : ClientRequest} :
    request.rejected lower decision = true ↔
      ∃ err, request.applyPolicy lower decision channelType = .error err := by
  cases request with
  | chat request =>
    simp only [rejected, applyPolicy, applyAirbotixPolicy]
    cases rejectReason lower decision request.clamped <;> simp
  | claude request =>
    have hm : request.clamped.model = request.model := rfl
    simp only [rejected, applyPolicy, applyAirbotixPolicyToClaude, hm]
    cases policyRejection lower decision request.model _ <;> simp [Except.map]
  | responses request =>
    have hm : request.clamped.model = request.model := rfl
    simp only [rejected, applyPolicy, applyAirbotixPolicyToResponses, hm]
    cases policyRejection lower decision request.model _ <;> simp [Except.map]
  | gemini model request =>
    simp only [rejected, applyPolicy, applyAirbotixPolicyToGemini]
    cases policyRejection lower decision model _ <;> simp [Except.map]

end ClientRequest

/-- Requests that differ in the identity of the end user are treated alike just when they are
rejected or the metadata left in them is the same. -/
theorem identity_indistinguishable_iff (lower : Char → Char) (kidsMode : Bool) (profile : String)
    (channelType : Int) (first second : ClientRequest)
    (hStrip : (decisionFor kidsMode profile).stripIdentifying)
    (hSame : first.anonymous = second.anonymous) :
    first.applyPolicy lower (decisionFor kidsMode profile) channelType =
        second.applyPolicy lower (decisionFor kidsMode profile) channelType ↔
      first.rejected lower (decisionFor kidsMode profile) = true ∨
        first.forwardedMetadata = second.forwardedMetadata := by
  rw [rejected_iff, applyPolicy_eq_anonymous hStrip first, applyPolicy_eq_anonymous hStrip second,
    ← hSame]
  cases ha : first.anonymous.applyPolicy lower (decisionFor kidsMode profile) channelType with
  | error err => exact ⟨fun _ => .inl ⟨err, rfl⟩, fun _ => rfl⟩
  | ok accepted =>
    rw [← withMetadata_inj hSame ha]
    simp [Except.map]

def namedChat (user kid : String) : ClientRequest :=
  .chat { model := "gpt-4o"
          messages := [{ role := "user", content := .str "Hi!" }]
          user := some (.str user)
          metadata := some (.obj [("kid_id", .str kid), ("lesson", .str "7")]) }

theorem identity_indistinguishable_iff_user :
    (namedChat "ann" "k1").applyPolicy Char.toLower (decisionFor false "kid-safe") 1 =
      (namedChat "bob" "k1").applyPolicy Char.toLower (decisionFor false "kid-safe") 1 :=
  (identity_indistinguishable_iff Char.toLower false "kid-safe" 1 (namedChat "ann" "k1")
    (namedChat "bob" "k1") (by decide) rfl).mpr (.inr rfl)

def ClientRequest.forwardedKid (request : ClientRequest) : Option String :=
  request.forwardedMetadata.bind (Json.stringField "kid_id")

theorem kid_id_forwarded :
    (namedChat "ann" "k1").anonymous = (namedChat "ann" "k2").anonymous ∧
      ((namedChat "ann" "k1").applyPolicy Char.toLower (decisionFor true "") 1).map
        ClientRequest.forwardedKid = .ok (some "k1") ∧
      ((namedChat "ann" "k2").applyPolicy Char.toLower (decisionFor true "") 1).map
        ClientRequest.forwardedKid = .ok (some "k2") :=
  ⟨rfl, by decide +kernel, by decide +kernel⟩

end DeepRouter.Relay

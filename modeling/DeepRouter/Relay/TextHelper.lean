import DeepRouter.Relay.AirbotixPolicy
import DeepRouter.Relay.UpstreamChannel
import DeepRouter.Skills.Execution

/-! # The handler of chat requests -/

namespace DeepRouter.Relay

open Atomic Policy Skills

structure TextContext where
  decision : Option Decision := none
  publicRoutingAPI : Bool := false
  skillRelayEntryPoint : String := ""
  skillRelayCtx : Option SkillRelayContext := none
  database : Option SkillStore := none
  userID : Int := 0
  airbotixUser : Option User := none
  originModelName : String
  channel : UpstreamChannel
  relayModeChatCompletions : Bool := true
  (passThroughRequestEnabled forceStreamOption : Bool := false)
  useResponses : Bool := false
  parseContent : Json → List Json := fun _ => []

/-! ## Binding a skill -/

def resolveEffectiveEntryPoint (forced requested defaultEntryPoint : String) :
    Except SkillError String :=
  if forced ∈ validEntryPoints then .ok forced
  else if requested ≠ "" then
    if requested ∈ validEntryPoints then .ok requested else .error .invalidRequest
  else if defaultEntryPoint ∈ validEntryPoints then .ok defaultEntryPoint
  else .ok ""

def skillRelayErrType (code : SkillError) : String :=
  if code.httpStatusFor = 401 ∨ code.httpStatusFor = 403 then "access_denied"
  else if code.httpStatusFor = 404 ∨ code.httpStatusFor = 400 then "invalid_request"
  else "do_request_failed"

def skillRelayError (code : SkillError) : ApiError :=
  .final (skillRelayErrType code) code.code code.httpStatusFor

namespace TextContext

variable (ctx : TextContext)

def resolveDirectSkillEntryPoint (extension : DeepRouterExtension) : Except ApiError String :=
  match resolveEffectiveEntryPoint ctx.skillRelayEntryPoint extension.entryPoint
      "playground_picker" with
  | .ok entryPoint => .ok entryPoint
  | .error _ =>
    .error (.final "invalid_request" ("invalid entry_point: \"" ++ extension.entryPoint ++ "\"") 400)

def pinned : Option SkillRelayContext :=
  ctx.skillRelayCtx.filter fun skill => skill.skillVersionID ≠ ""

def resolveSkill (extension : DeepRouterExtension) : Except ApiError SkillRelayContext :=
  match ctx.pinned with
  | some skill => .ok skill
  | none =>
    match resolveVersion ctx.database ctx.userID ctx.airbotixUser extension.skillID
        extension.skillVersionID with
    | .ok skill => .ok skill
    | .error code => .error (skillRelayError code)

def bindSkill (extension : Option DeepRouterExtension) :
    Except ApiError (Option SkillRelayContext) :=
  match extension with
  | none => .ok ctx.skillRelayCtx
  | some extension =>
    if extension.skillID = "" then .ok ctx.skillRelayCtx
    else do
      let entryPoint ← ctx.resolveDirectSkillEntryPoint extension
      let skill ← ctx.resolveSkill extension
      .ok (some { skill with entryPoint })

def namesSkill (extension : Option DeepRouterExtension) : Except ApiError Unit :=
  if ctx.publicRoutingAPI && (extension.map DeepRouterExtension.skillID).getD "" = "" then
    .error (.final "invalid_request" "deeprouter.skill_id is required" 400)
  else .ok ()

/-! ## Changing the request -/

def applyPolicy (lower : Char → Char) (request : GeneralOpenAIRequest) :
    Except ApiError GeneralOpenAIRequest :=
  match ctx.decision with
  | none => .ok request
  | some decision =>
    match applyAirbotixPolicy lower decision ctx.channel.channelType request with
    | .error reason => .error (.final "channel:model_mapped_error" reason 400)
    | .ok request => .ok request

def applySkill (skill : Option SkillRelayContext) (request : GeneralOpenAIRequest) :
    Except ApiError GeneralOpenAIRequest :=
  match skill with
  | none => .ok request
  | some skill =>
    if skill.skillVersion.isSome ∨ skill.skillVersionID = "" then
      match loadAndApply ctx.database skill request with
      | .error code => .error (skillRelayError code)
      | .ok (_, rewritten) => .ok rewritten
    else .ok request

def mapModel (request : GeneralOpenAIRequest) : Except ApiError GeneralOpenAIRequest :=
  match modelMappedHelper ctx.channel ctx.originModelName request.model with
  | .error err => .error (.final "channel:model_mapped_error" err 500)
  | .ok model => .ok { request with model }

def withStreamOptions (request : GeneralOpenAIRequest) : GeneralOpenAIRequest :=
  if !ctx.channel.supportStreamOptions || !request.stream.getD false then
    { request with streamOptions := none }
  else if ctx.forceStreamOption then { request with streamOptions := some { includeUsage := true } }
  else request

def systemTextPart (text : String) : Json := .obj [("type", .str "text"), ("text", .str text)]

def prefixedMessage (message : Message) : Message :=
  match message.content with
  | .str text => message.setStringContent (ctx.channel.systemPrompt ++ "\n" ++ text)
  | content =>
    let parts := systemTextPart ctx.channel.systemPrompt :: ctx.parseContent content
    { message with content := .arr parts }

def overrideSystemPrompt (role : String) : List Message → List Message
  | [] => []
  | message :: messages =>
    if message.role = role then ctx.prefixedMessage message :: messages
    else message :: overrideSystemPrompt role messages

def applySystemPromptIfNeeded (skill : Option SkillRelayContext) (request : GeneralOpenAIRequest) :
    GeneralOpenAIRequest :=
  if ctx.channel.systemPrompt = "" || skill.isSome then request
  else
    let role := request.getSystemRoleName
    if !request.messages.any fun message => message.role = role then
      { request with messages :=
          { role, content := .str ctx.channel.systemPrompt } :: request.messages }
    else if !ctx.channel.systemPromptOverride then request
    else { request with messages := ctx.overrideSystemPrompt role request.messages }

def passesThrough : Bool := ctx.passThroughRequestEnabled || ctx.channel.passThroughBodyEnabled

def forward (skill : Option SkillRelayContext) (body request : GeneralOpenAIRequest) :
    Except ApiError (Forwarded GeneralOpenAIRequest) :=
  if !ctx.channel.hasAdaptor then
    .error (.final "invalid_api_type" ("invalid api type: " ++ toString ctx.channel.apiType) 500)
  else if ctx.relayModeChatCompletions && !ctx.passesThrough && ctx.useResponses then
    .ok (.viaResponses (ctx.applySystemPromptIfNeeded skill request))
  else if ctx.passesThrough then
    -- the extension is still in the body
    if body.deeprouter.isSome then
      .error (.final "do_request_failed" SkillError.skillInternalError.code 500)
    else .ok (.body body)
  else .ok (.converted request)

end TextContext

def textHelper (lower : Char → Char) (ctx : TextContext) (body : GeneralOpenAIRequest) :
    Except ApiError (Forwarded GeneralOpenAIRequest) := do
  let request := body.setModelName ctx.originModelName
  ctx.namesSkill request.deeprouter
  let skill ← ctx.bindSkill request.deeprouter
  let request ← ctx.applyPolicy lower { request with deeprouter := none }
  let request ← ctx.applySkill skill request
  let request ← ctx.mapModel request
  ctx.forward skill body (ctx.withStreamOptions request)

/-! ## What the stages leave -/

section

variable {lower : Char → Char} {ctx : TextContext} {skill : Option SkillRelayContext}
  {body request : GeneralOpenAIRequest} {forwarded : Forwarded GeneralOpenAIRequest}

def TextContext.boundVersion (ctx : TextContext) (extension : Option DeepRouterExtension) :
    Option SkillVersion :=
  match ctx.bindSkill extension with
  | .ok skill => skill.bind SkillRelayContext.skillVersion
  | .error _ => none

open TextContext

theorem applySkill_ok {rewritten : GeneralOpenAIRequest}
    (h : ctx.applySkill skill request = .ok rewritten) :
    (skill.bind SkillRelayContext.skillVersion = none ∧ rewritten = request) ∨
      ∃ v model text, skill.bind SkillRelayContext.skillVersion = some v ∧
        rewritten = { model
                      stream := request.stream
                      streamOptions := request.streamOptions
                      messages := [{ role := "system", content := .str v.instructionTemplate },
                        { role := "user", content := .str text }] } := by
  cases skill with
  | none =>
    cases h
    exact .inl ⟨rfl, rfl⟩
  | some skill =>
    simp only [applySkill] at h
    split at h
    · split at h
      · cases h
      · rename_i ha
        cases h
        exact .inr (loadAndApply_ok ha)
    · rename_i hu
      cases h
      simp only [not_or, Option.isSome_iff_ne_none, not_not] at hu
      exact .inl ⟨hu.1, rfl⟩

theorem mapModel_ok {mapped : GeneralOpenAIRequest} (h : ctx.mapModel request = .ok mapped) :
    ∃ model, mapped = { request with model } := by
  simp only [mapModel] at h
  split at h
  · cases h
  · rename_i model _
    cases h
    exact ⟨model, rfl⟩

theorem withStreamOptions_eq (ctx : TextContext) (request : GeneralOpenAIRequest) :
    ∃ streamOptions, ctx.withStreamOptions request = { request with streamOptions } := by
  simp only [withStreamOptions]
  split
  · exact ⟨none, rfl⟩
  · split
    · exact ⟨some { includeUsage := true }, rfl⟩
    · exact ⟨request.streamOptions, rfl⟩

theorem applySystemPromptIfNeeded_eq : ∃ messages,
    ctx.applySystemPromptIfNeeded skill request = { request with messages } ∧
      (ctx.channel.systemPrompt = "" → messages = request.messages) := by
  by_cases hp : ctx.channel.systemPrompt = ""
  · exact ⟨request.messages, by simp [applySystemPromptIfNeeded, hp], fun _ => rfl⟩
  simp only [applySystemPromptIfNeeded, hp, false_imp_iff, and_true]
  split_ifs
  · exact ⟨request.messages, rfl⟩
  · exact ⟨_, rfl⟩
  · exact ⟨request.messages, rfl⟩
  · exact ⟨_, rfl⟩

theorem forward_passesThrough (ht : ctx.passesThrough = true)
    (h : ctx.forward skill body request = .ok forwarded) : forwarded = .body body := by
  simp only [forward, ht, Bool.not_true, Bool.and_false, Bool.false_and,
    Bool.false_eq_true, if_false, if_true] at h
  split at h
  · cases h
  split at h
  · cases h
  · cases h
    rfl

theorem forward_request (ht : ctx.passesThrough = false)
    (h : ctx.forward skill body request = .ok forwarded) :
    ∃ messages, forwarded.request = { request with messages } ∧
      (ctx.channel.systemPrompt = "" → messages = request.messages) := by
  simp only [forward, ht, Bool.false_eq_true, if_false] at h
  split at h
  · cases h
  split at h
  · cases h
    exact applySystemPromptIfNeeded_eq
  · cases h
    exact ⟨request.messages, rfl, fun _ => rfl⟩

def TextContext.entered (ctx : TextContext) (body : GeneralOpenAIRequest) : GeneralOpenAIRequest :=
  { body.setModelName ctx.originModelName with deeprouter := none }

theorem setModelName_deeprouter (modelName : String) (request : GeneralOpenAIRequest) :
    (request.setModelName modelName).deeprouter = request.deeprouter := by
  simp only [GeneralOpenAIRequest.setModelName]
  split <;> rfl

theorem textHelper_passesThrough (ht : ctx.passesThrough = true)
    (h : textHelper lower ctx body = .ok forwarded) : forwarded = .body body := by
  simp only [textHelper, bind_eq_ok] at h
  obtain ⟨-, -, skill, -, accepted, -, rewritten, -, mapped, -, h⟩ := h
  exact forward_passesThrough ht h

theorem textHelper_request (ht : ctx.passesThrough = false)
    (h : textHelper lower ctx body = .ok forwarded) :
    ∃ accepted model stream streamOptions messages text,
      ctx.applyPolicy lower (ctx.entered body) = .ok accepted ∧
      forwarded.request =
        (match ctx.boundVersion body.deeprouter with
        | none => { accepted with model, streamOptions, messages }
        | some _ => { model, stream, streamOptions, messages }) ∧
      (ctx.channel.systemPrompt = "" → messages =
        match ctx.boundVersion body.deeprouter with
        | none => accepted.messages
        | some version => [{ role := "system", content := .str version.instructionTemplate },
            { role := "user", content := .str text }]) := by
  simp only [textHelper, bind_eq_ok, setModelName_deeprouter] at h
  obtain ⟨-, -, skill, hsk, accepted, ha, rewritten, hr, mapped, hm, h⟩ := h
  obtain ⟨messages, hf, hms⟩ := forward_request ht h
  obtain ⟨streamOptions, hs⟩ := withStreamOptions_eq ctx mapped
  obtain ⟨model, rfl⟩ := mapModel_ok hm
  rw [hs] at hf hms
  have hb : ctx.boundVersion body.deeprouter = skill.bind SkillRelayContext.skillVersion := by
    simp only [boundVersion, hsk]
  rw [hb]
  obtain ⟨hv, rfl⟩ | ⟨version, selected, text, hv, rfl⟩ := applySkill_ok hr
  · rw [hv]
    exact ⟨rewritten, model, none, streamOptions, messages, "", ha, hf, hms⟩
  · rw [hv]
    exact ⟨accepted, model, accepted.stream, streamOptions, messages, text, ha, hf, hms⟩

end

end DeepRouter.Relay

import DeepRouter.Relay.TextHelper
import DeepRouter.Skills.DisplayedEntitlement

/-! # Kids constraints up to the provider -/

namespace DeepRouter.Relay

open Policy Skills List

def GeneralOpenAIRequest.ChildSafe (channelType : Int) (request : GeneralOpenAIRequest) : Prop :=
  (∃ message ∈ request.messages,
      message.role = "system" ∧ message.stringContent = childSafeSystemPrompt) ∧
    request.user = none ∧ request.safetyIdentifier = none ∧
    (isOpenAIFamilyChannel channelType → request.store = some (.bool false))

def TextContext.KeepsChildSafe (ctx : TextContext) (body : GeneralOpenAIRequest) : Prop :=
  if ctx.passesThrough then body.ChildSafe ctx.channel.channelType
  else ∀ version, ctx.boundVersion body.deeprouter = some version →
    version.instructionTemplate = childSafeSystemPrompt ∧
      isOpenAIFamilyChannel ctx.channel.channelType = false

theorem getSystemRoleName_of_eligible {req : GeneralOpenAIRequest}
    (h : isModelEligible req.model) : req.getSystemRoleName = "system" := by
  have hb : ∃ base ∈ eligibleModels, base.toList <+: req.model.toList := by
    simp only [isModelEligible] at h
    split at h
    · cases h
    split at h
    · rename_i hl
      exact ⟨_, hl, prefix_rfl⟩
    · simpa [GoStrings.hasPrefix] using h
  obtain ⟨base, hl, rest, hm⟩ := hb
  simp only [GeneralOpenAIRequest.getSystemRoleName, GoStrings.hasPrefix, ← hm]
  simp only [eligibleModels, mem_cons, not_mem_nil, or_false] at hl
  rcases hl with rfl | rfl | rfl | rfl | rfl | rfl | rfl | rfl <;> rfl

theorem mem_of_replaceSystemMessage {role prompt : String} {ms replaced : List Message}
    (h : replaceSystemMessage true role prompt ms = some replaced) :
    ∃ message ∈ replaced, message.role = role ∧ message.stringContent = prompt := by
  induction ms generalizing replaced with
  | nil => cases h
  | cons message ms ih =>
    simp only [replaceSystemMessage] at h
    split at h
    · cases h
      exact ⟨_, mem_cons_self, rfl, rfl⟩
    · obtain ⟨rest, hr, rfl⟩ := Option.map_eq_some_iff.mp h
      obtain ⟨found, hf, hm⟩ := ih hr
      exact ⟨found, mem_cons_of_mem _ hf, hm⟩

theorem mem_prependProfileSystemPrompt (profile : String) (req : GeneralOpenAIRequest) :
    ∃ message ∈ (prependProfileSystemPrompt req (decisionFor true profile)).messages,
      message.role = req.getSystemRoleName ∧ message.stringContent = childSafeSystemPrompt := by
  change ∃ message ∈ (replaceSystemMessage true req.getSystemRoleName childSafeSystemPrompt
    req.messages).getD _, _
  cases hr : replaceSystemMessage true req.getSystemRoleName childSafeSystemPrompt req.messages with
  | none => exact ⟨_, mem_cons_self, rfl, rfl⟩
  | some replaced => exact mem_of_replaceSystemMessage hr

theorem childSafe_of_accepted {lower : Char → Char} {profile : String} {channelType : Int}
    {req acc : GeneralOpenAIRequest}
    (h : applyAirbotixPolicy lower (decisionFor true profile) channelType req = .ok acc) :
    acc.ChildSafe channelType := by
  obtain ⟨he, rfl⟩ := applyAirbotixPolicy_kids h
  refine ⟨?_, rfl, rfl, fun hf => by simp [hf]⟩
  obtain ⟨message, hm, hr, ht⟩ := mem_prependProfileSystemPrompt profile req.clamped
  exact ⟨message, hm, hr.trans (getSystemRoleName_of_eligible he), ht⟩

/-- What is sent for a child is child-safe just when the passed-through body is, or a bound skill
brings the prompt itself. -/
theorem child_safe_forwarded_iff (lower : Char → Char) (profile : String) (ctx : TextContext)
    (body : GeneralOpenAIRequest) (forwarded : Forwarded GeneralOpenAIRequest)
    (hKids : ctx.decision = some (decisionFor true profile))
    (hPrompt : ctx.channel.systemPrompt = "") (h : textHelper lower ctx body = .ok forwarded) :
    forwarded.request.ChildSafe ctx.channel.channelType ↔ ctx.KeepsChildSafe body := by
  unfold TextContext.KeepsChildSafe
  split
  · rename_i ht
    rw [textHelper_passesThrough ht h]
    rfl
  rename_i ht
  obtain ⟨accepted, model, stream, streamOptions, messages, text, ha, hf, hm⟩ :=
    textHelper_request (eq_false_of_ne_true ht) h
  replace hm := hm hPrompt
  cases hb : ctx.boundVersion body.deeprouter with
  | none =>
    simp only [hb] at hf hm
    simp only [TextContext.applyPolicy, hKids] at ha
    split at ha
    · cases ha
    rename_i changed hc
    cases ha
    rw [hf, hm]
    constructor
    · rintro - version ⟨⟩
    · rintro -
      have hs := childSafe_of_accepted hc
      exact hs
  | some version =>
    simp only [hb] at hf hm
    rw [hf, hm]
    simp [GeneralOpenAIRequest.ChildSafe, Message.stringContent, stringContent]

def childContext (passThroughBodyEnabled : Bool) : TextContext where
  decision := some (decisionFor true "")
  database := some storyStore
  userID := 1
  airbotixUser := some (storyUser true)
  originModelName := "gpt-4o"
  channel := { channelType := 1, apiType := 0, upstreamModelName := "gpt-4o", passThroughBodyEnabled }

def childBody (deeprouter : Option DeepRouterExtension) : GeneralOpenAIRequest where
  model := "gpt-4o"
  messages := [{ role := "user", content := .str "Hi!" }]
  user := some (.str "ann")
  deeprouter := deeprouter

def Forwarded.overview (forwarded : Forwarded GeneralOpenAIRequest) : List (String × String) × Bool :=
  (forwarded.request.messages.map fun message => (message.role, message.stringContent),
    forwarded.request.user.isSome)

theorem exists_forwarded (lower : Char → Char) (ctx : TextContext) (body : GeneralOpenAIRequest)
    (overview : List (String × String) × Bool)
    (h : (textHelper lower ctx body).map Forwarded.overview = .ok overview) :
    ∃ forwarded, textHelper lower ctx body = .ok forwarded ∧ forwarded.overview = overview := by
  cases hs : textHelper lower ctx body with
  | error err =>
    rw [hs] at h
    cases h
  | ok forwarded =>
    rw [hs] at h
    exact ⟨forwarded, rfl, Except.ok.inj h⟩

theorem child_safe_forwarded_iff_unbound :
    ∃ forwarded, textHelper Char.toLower (childContext false) (childBody none) = .ok forwarded ∧
      forwarded.request.ChildSafe 1 := by
  obtain ⟨forwarded, h, -⟩ := exists_forwarded Char.toLower (childContext false) (childBody none)
    ([("system", childSafeSystemPrompt), ("user", "Hi!")], false) (by decide +kernel)
  refine ⟨forwarded, h, (child_safe_forwarded_iff Char.toLower "" (childContext false) _ forwarded
    rfl rfl h).mpr ?_⟩
  rintro version ⟨⟩

theorem child_safe_prompt_dropped :
    (∃ forwarded, textHelper Char.toLower (childContext false)
        (childBody (some { skillID := "story" })) = .ok forwarded ∧
      ¬forwarded.request.ChildSafe 1) ∧
      ∃ forwarded, textHelper Char.toLower (childContext true) (childBody none) = .ok forwarded ∧
        ¬forwarded.request.ChildSafe 1 := by
  constructor
  · obtain ⟨forwarded, h, ho⟩ := exists_forwarded Char.toLower (childContext false)
      (childBody (some { skillID := "story" }))
      ([("system", "Tell a story."), ("user", "Hi!")], false) (by decide +kernel)
    refine ⟨forwarded, h, ?_⟩
    rintro ⟨⟨message, hm, hr, ht⟩, -⟩
    have hs : (message.role, message.stringContent) ∈ forwarded.overview.1 := mem_map_of_mem hm
    rw [ho, hr, ht] at hs
    revert hs
    decide
  · obtain ⟨forwarded, h, ho⟩ := exists_forwarded Char.toLower (childContext true)
      (childBody none) ([("user", "Hi!")], true) (by decide +kernel)
    refine ⟨forwarded, h, ?_⟩
    rintro ⟨-, hu, -⟩
    have hn := congrArg Prod.snd ho
    simp [Forwarded.overview, hu] at hn

end DeepRouter.Relay

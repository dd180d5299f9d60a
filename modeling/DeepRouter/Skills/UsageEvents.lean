import DeepRouter.Library.Atomic
import DeepRouter.Skills.Resolver

/-! # Skill usage events -/

namespace DeepRouter.Skills

open GoStrings

def RequiredPlan.name : RequiredPlan → String
  | .free => "free"
  | .pro => "pro"
  | .enterprise => "enterprise"
  | .other name => name

def MonetizationType.name : MonetizationType → String
  | .unset => ""
  | .free => "free"
  | .planIncluded => "plan_included"
  | .tokenMarkup => "token_markup"
  | .oneTime => "one_time"
  | .plusExclusive => "plus_exclusive"
  | .other name => name

def validBlockReasons : List String :=
  ["auth_required", "skill_not_found", "skill_not_published", "skill_not_enabled", "plan_required",
    "subscription_inactive", "quota_exceeded", "kids_mode_blocked", "context_too_long",
    "rate_limited", "timeout", "safety_violation", "internal_error", "evaluation_not_passed"]

inductive UsageEventType where
  | enabled
  | used
  | blocked
  | firstUse
  | repeatUse
  | purchased
deriving DecidableEq

structure SkillUsageEvent where
  eventType : UsageEventType
  (userID tenantID : Option Int := none)
  (sessionID requestID skillID skillVersionID firstUseKey : Option String := none)
  entryPoint : String
  plan : Option RequiredPlan := none
  (subscriptionStatus model : Option String := none)
  isKidsSession : Bool := false
  (isKidsSafeSkill isKidsExclusiveSkill : Option Bool := none)
  (inputTokens outputTokens totalTokens latencyMS : Option Int := none)
  success : Option Bool := none
  (blockReason errorCode : Option String := none)
  /-- The empty text is `none`. -/
  metadata : Option Json := none

def skillEventSchemaVersion : String := "1.0"

def restrictedMetadataKeys : List String :=
  ["instruction_template", "prompt", "system_prompt", "raw_messages", "provider_payload",
    "kids_raw_input", "full_user_input", "raw_output", "model_output"]

def validateEventMetadata (metadata : Json) : Except String (List (String × Json)) :=
  match metadata with
  | .obj fields =>
    match metadata.findKey restrictedMetadataKeys with
    | some key => .error ("skill_usage_events: metadata must not contain " ++ key)
    | none => .ok fields
  | _ => .error "skill_usage_events: metadata must be a JSON object"

def ensureMetadataSchemaVersion (fields : List (String × Json)) : Except String Json :=
  match fields.lookup "schema_version" with
  | none => .ok (.obj (fields ++ [("schema_version", .str skillEventSchemaVersion)]))
  | some (.str version) =>
    if version = skillEventSchemaVersion then .ok (.obj fields)
    else .error ("skill_usage_events: metadata.schema_version must be \"1.0\" (V1), got " ++ version)
  | some _ => .error "skill_usage_events: metadata.schema_version must be \"1.0\" (V1)"

def validateKidsSessionPrivacy (event : SkillUsageEvent) : Except String Unit :=
  if !event.isKidsSession then .ok ()
  else if event.userID.isSome then
    .error "skill_usage_events: kids session analytics must not store user_id"
  else if event.tenantID.isSome then
    .error "skill_usage_events: kids session analytics must not store tenant_id"
  else if event.sessionID.getD "" = "" then
    .error "skill_usage_events: kids session analytics requires pseudonymous session_id"
  else .ok ()

def firstUseKeyOf (userID : Int) (skillID : String) : String := toString userID ++ ":" ++ skillID

def SkillUsageEvent.withFirstUseKey (event : SkillUsageEvent) : SkillUsageEvent :=
  match event.eventType, event.success, event.userID, event.skillID, event.firstUseKey with
  | .firstUse, some true, some userID, some skillID, none =>
    { event with firstUseKey := some (firstUseKeyOf userID skillID) }
  | _, _, _, _, _ => event

def beforeCreate (event : SkillUsageEvent) : Except String SkillUsageEvent := do
  let event := event.withFirstUseKey
  let fields ← validateEventMetadata (event.metadata.getD (.obj []))
  let stamped ← ensureMetadataSchemaVersion fields
  let event := { event with metadata := some stamped }
  validateKidsSessionPrivacy event
  pure event

def emitSkillUsageEvent (event : SkillUsageEvent) : Except String SkillUsageEvent :=
  if event.entryPoint ∉ validEntryPoints then
    .error ("skill_usage_events: invalid entry_point \"" ++ event.entryPoint ++ "\"")
  else
    match event.plan.filter (fun plan => !plan.valid) with
    | some plan => .error ("skill_usage_events: invalid plan \"" ++ plan.name ++ "\"")
    | none =>
      match event.blockReason.filter (fun reason => decide (reason ∉ validBlockReasons)) with
      | some reason => .error ("skill_usage_events: invalid block_reason \"" ++ reason ++ "\"")
      | none => beforeCreate event

structure KidsSalt where
  (version dailySalt : String)
  digest : Int → Int → String

def kidsSessionPseudoID (salt : KidsSalt) (userID tenantID : Int) : Except String String :=
  if salt.version = "" then .error "skill_usage_events: kids salt_version is required"
  else if salt.dailySalt = "" then .error "skill_usage_events: kids daily_salt is required"
  else .ok (salt.digest userID tenantID)

def SkillUsageEvent.applyKidsSessionAnalyticsIdentity (salt : KidsSalt) (userID tenantID : Int)
    (event : SkillUsageEvent) : Except String SkillUsageEvent := do
  let sessionID ← kidsSessionPseudoID salt userID tenantID
  pure { event with
    userID := none
    tenantID := none
    sessionID := some sessionID
    isKidsSession := true }

def skillTierEventMetadata (monetization : MonetizationType) (userPlan : RequiredPlan) : Json :=
  .obj [("schema_version", .str skillEventSchemaVersion), ("skill_tier", .str monetization.name),
    ("monetization_type", .str monetization.name), ("user_plan", .str userPlan.name)]

def emitSkillEnabled (userID : Int) (skill : Skill) (entryPoint : String) (plan : RequiredPlan) :
    Except String SkillUsageEvent :=
  emitSkillUsageEvent
    { eventType := .enabled
      userID := some userID
      tenantID := some userID
      skillID := some skill.id
      skillVersionID := skill.activeVersionID
      entryPoint
      plan := some plan
      success := some true
      metadata := some (skillTierEventMetadata skill.monetizationType plan) }

/-- Neither the producer nor its caller looks at the kids mode of the user. -/
def emitSkillPurchased (userID : Int) (skillID : String) (skillVersionID : Option String)
    (plan : RequiredPlan) (amountUSD plusMonthlyUSD : Rat) (entryPoint : String) :
    Except String SkillUsageEvent :=
  emitSkillUsageEvent
    { eventType := .purchased
      userID := some userID
      tenantID := some userID
      skillID := some skillID
      skillVersionID
      entryPoint := if entryPoint ∈ validEntryPoints then entryPoint else "skill_detail"
      plan := some plan
      success := some true
      metadata := some (.obj [("amount", .num amountUSD), ("currency", .str "USD"),
        ("monetization_type", .str MonetizationType.oneTime.name),
        ("skill_tier", .str MonetizationType.oneTime.name), ("user_plan", .str plan.name),
        ("plus_monthly_usd", .num plusMonthlyUSD)]) }

theorem findKey_append {names : List String} {fields : List (String × Json)} {key : String}
    {child : Json} (h : Json.findKey names (.obj fields) = none) (hk : key ∉ names)
    (hc : child.findKey names = none) :
    Json.findKey names (.obj (fields ++ [(key, child)])) = none := by
  rw [Json.findKey, Json.findKeyFields_eq_none] at h ⊢
  intro entry he
  obtain ho | hn := List.mem_append.mp he
  · exact h entry ho
  · rw [List.mem_singleton.mp hn]
    exact ⟨hk, hc⟩

theorem validateEventMetadata_ok {metadata : Json} {fields : List (String × Json)}
    (h : validateEventMetadata metadata = .ok fields) :
    metadata = .obj fields ∧ metadata.findKey restrictedMetadataKeys = none := by
  unfold validateEventMetadata at h
  split at h
  · split at h
    · cases h
    · rename_i hn
      cases h
      exact ⟨rfl, hn⟩
  · cases h

theorem ensureMetadataSchemaVersion_ok {fields : List (String × Json)} {stamped : Json}
    (h : ensureMetadataSchemaVersion fields = .ok stamped)
    (hf : Json.findKey restrictedMetadataKeys (.obj fields) = none) :
    stamped.findKey restrictedMetadataKeys = none := by
  rw [ensureMetadataSchemaVersion] at h
  split at h
  · cases h
    exact findKey_append hf (by decide) rfl
  · split at h
    · cases h
      exact hf
    · cases h
  · cases h

structure Written (event row : SkillUsageEvent) : Prop where
  userID : row.userID = event.userID
  tenantID : row.tenantID = event.tenantID
  metadata : ∃ metadata, row.metadata = some metadata ∧
    ∀ key ∈ restrictedMetadataKeys, ¬metadata.HasKey key

theorem withFirstUseKey_identity (event : SkillUsageEvent) :
    event.withFirstUseKey.userID = event.userID ∧
      event.withFirstUseKey.tenantID = event.tenantID := by
  rw [SkillUsageEvent.withFirstUseKey]
  split <;> exact ⟨rfl, rfl⟩

theorem beforeCreate_written {event row : SkillUsageEvent} (h : beforeCreate event = .ok row) :
    Written event row := by
  simp only [beforeCreate, Atomic.bind_eq_ok] at h
  obtain ⟨fields, hf, stamped, hst, _, _, hr⟩ := h
  cases hr
  obtain ⟨ho, hc⟩ := validateEventMetadata_ok hf
  rw [ho] at hc
  obtain ⟨hu, ht⟩ := withFirstUseKey_identity event
  have hs := ensureMetadataSchemaVersion_ok hst hc
  exact ⟨hu, ht, stamped, rfl, fun key hk => Json.not_hasKey_of_findKey hs hk⟩

theorem emitSkillUsageEvent_ok {event row : SkillUsageEvent}
    (h : emitSkillUsageEvent event = .ok row) : beforeCreate event = .ok row := by
  rw [emitSkillUsageEvent] at h
  split at h
  · cases h
  split at h
  · cases h
  split at h
  · cases h
  · exact h

theorem emitSkillUsageEvent_written {event row : SkillUsageEvent}
    (h : emitSkillUsageEvent event = .ok row) : Written event row :=
  beforeCreate_written (emitSkillUsageEvent_ok h)

end DeepRouter.Skills

import DeepRouter.Skills.Purchase

/-! # The producers of skill usage events -/

namespace DeepRouter.Skills

open GoStrings Atomic KeyedTable

def telemetryAllowedKeys : List String :=
  ["skill_id", "version", "occurred_at", "success", "model", "input_tokens", "output_tokens",
    "total_tokens", "latency_ms"]

def telemetryRestrictedKeys : List String :=
  ["instruction_template", "prompt", "system_prompt", "messages", "raw", "raw_input",
    "raw_user_input", "raw_messages", "input", "output", "provider_payload", "kids_raw_input",
    "full_user_input", "raw_output", "model_output"]

structure RunnerTelemetry where
  (skillID version occurredAt : String)
  success : Option Bool
  model : String
  (inputTokens outputTokens totalTokens latencyMS : Option Int)

def decodeString : Option Json → Option String
  | none => some ""
  | some .null => some ""
  | some (.str text) => some text
  | some _ => none

def decodeInt : Option Json → Option (Option Int)
  | none => some none
  | some .null => some none
  | some (.num value) => if value.den = 1 then some (some value.num) else none
  | some _ => none

def decodeBool : Option Json → Option (Option Bool)
  | none => some none
  | some .null => some none
  | some (.bool value) => some (some value)
  | some _ => none

def decodeTelemetry (raw : Json) : Option RunnerTelemetry := do
  let skillID ← decodeString (raw.field "skill_id")
  let version ← decodeString (raw.field "version")
  let occurredAt ← decodeString (raw.field "occurred_at")
  let success ← decodeBool (raw.field "success")
  let model ← decodeString (raw.field "model")
  let inputTokens ← decodeInt (raw.field "input_tokens")
  let outputTokens ← decodeInt (raw.field "output_tokens")
  let totalTokens ← decodeInt (raw.field "total_tokens")
  let latencyMS ← decodeInt (raw.field "latency_ms")
  pure { skillID, version, occurredAt, success, model, inputTokens, outputTokens, totalTokens
         latencyMS }

structure TelemetryFormats where
  (isTime isUUID : String → Bool)

def validateRunnerTelemetry (formats : TelemetryFormats) (request : RunnerTelemetry) :
    Option String :=
  let occurredAt := trimSpace request.occurredAt
  if trimSpace request.skillID = "" then some "missing_skill_id"
  else if request.success = none then some "missing_success"
  else if occurredAt ≠ "" ∧ formats.isTime occurredAt = false then some "invalid_occurred_at"
  else
    let counts := [("input_tokens", request.inputTokens), ("output_tokens", request.outputTokens),
      ("total_tokens", request.totalTokens), ("latency_ms", request.latencyMS)]
    (counts.find? fun item => item.2.any fun count => decide (count < 0)).map fun item =>
      "invalid_" ++ item.1

def nonempty? (text : String) : Option String := if text = "" then none else some text

def telemetryEvent (formats : TelemetryFormats) (userID : Int) (request : RunnerTelemetry) :
    SkillUsageEvent :=
  let version := trimSpace request.version
  let occurredAt := trimSpace request.occurredAt
  let skillVersionID := if formats.isUUID version then some version else none
  { eventType := .used
    userID := some userID
    tenantID := some userID
    skillID := some (trimSpace request.skillID)
    skillVersionID
    entryPoint := "downloaded_runner"
    model := nonempty? (trimSpace request.model)
    inputTokens := request.inputTokens
    outputTokens := request.outputTokens
    totalTokens := request.totalTokens
    latencyMS := request.latencyMS
    success := request.success
    metadata := some (.obj ([("producer", .str "downloaded_runner")] ++
      (if version ≠ "" ∧ skillVersionID = none then [("version", .str version)] else []) ++
      if occurredAt ≠ "" then [("client_occurred_at", .str occurredAt)] else [])) }

structure TelemetryCall where
  consent : Except String Bool
  body : Option Json

inductive TelemetryOutcome where
  | recorded (row : SkillUsageEvent)
  | quarantined (reason : String) (fields : List String)

def sortedKeys (keys : List String) : List String :=
  keys.mergeSort fun first second => decide (first ≤ second)

def recordRunnerSkillUsage (formats : TelemetryFormats) (userID : Int) (call : TelemetryCall) :
    Except (String × String) TelemetryOutcome := do
  refuseIf (userID ≤ 0) ("AUTH_REQUIRED", "DeepRouter API token is required.")
  let consented ← call.consent.mapError fun _ => ("SKILL_INTERNAL_ERROR", "Internal Server Error")
  refuseIf (consented = false) ("FORBIDDEN", "Tier 2 telemetry consent is not enabled.")
  match call.body with
  | some (.obj raw) =>
    match Json.findKey telemetryRestrictedKeys (.obj raw) with
    | some key =>
      .error ("INVALID_REQUEST", "Telemetry payload must not contain " ++ key ++ ".")
    | none =>
      let keys := raw.map Prod.fst
      let unknown := keys.filter fun key => decide (key ∉ telemetryAllowedKeys)
      if unknown ≠ [] then .ok (.quarantined "unknown_fields" (sortedKeys unknown))
      else
        match decodeTelemetry (.obj raw) with
        | none => .ok (.quarantined "invalid_schema" (sortedKeys keys))
        | some request =>
          match validateRunnerTelemetry formats request with
          | some reason => .ok (.quarantined reason (sortedKeys keys))
          | none =>
            let row ← (emitSkillUsageEvent (telemetryEvent formats userID request)).mapError
              fun _ => ("SKILL_INTERNAL_ERROR", "Internal Server Error")
            .ok (.recorded row)
  | _ => .ok (.quarantined "invalid_json" [])

def downloadEntryPoint (apiToken : Bool) (query : String) : String :=
  if apiToken then "api_token"
  else if trimSpace query ∈ ["new", "new_week", "trending", "recommended", "reco_personal",
      "reco_codownload", "leaderboard_weekly", "leaderboard_monthly", "user_home"] then
    trimSpace query
  else "skill_package"

structure DownloadCall where
  skill : Skill
  group : String
  apiToken : Bool
  entryPoint : String
  (enableFails lookupFails : Bool := false)

def serverResolvedKidsSession (user : User) (fails : Bool) : Except String Bool :=
  if fails then .error "database error" else .ok user.kidsMode

def emitSkillEnabledForDownload (salt : KidsSalt) (user : User) (call : DownloadCall)
    (userPlan : RequiredPlan) (entryPoint : String) : Except String SkillUsageEvent := do
  let isKidsSession ← serverResolvedKidsSession user call.lookupFails
  if isKidsSession then
    let event : SkillUsageEvent :=
      { eventType := .enabled
        skillID := some call.skill.id
        skillVersionID := call.skill.activeVersionID
        entryPoint
        plan := some userPlan
        isKidsSafeSkill := some call.skill.isKidsSafe
        isKidsExclusiveSkill := some call.skill.isKidsExclusive
        success := some true
        metadata := some (skillTierEventMetadata call.skill.monetizationType userPlan) }
    let event ← event.applyKidsSessionAnalyticsIdentity salt user.id user.id
    emitSkillUsageEvent event
  else emitSkillEnabled user.id call.skill entryPoint userPlan

def sendSkillPackageDownload (salt : KidsSalt) (user : User) (call : DownloadCall)
    (store : PurchaseStore) : PurchaseStore :=
  if call.enableFails then store
  else
    let store := store.enableSkillForUser call.skill.id "skill_package"
    let entryPoint := downloadEntryPoint call.apiToken call.entryPoint
    match emitSkillEnabledForDownload salt user call (groupToPlan call.group) entryPoint with
    | .ok row => { store with events := store.events ++ [row] }
    | .error _ => store

def skillBlockedReasonFor (code : String) : Option String :=
  [("AUTH_REQUIRED", "auth_required"), ("SKILL_NOT_FOUND", "skill_not_found"),
    ("SKILL_NOT_PUBLISHED", "skill_not_published"), ("SKILL_NOT_ENABLED", "skill_not_enabled"),
    ("SKILL_PLAN_REQUIRED", "plan_required"),
    ("SKILL_SUBSCRIPTION_INACTIVE", "subscription_inactive"),
    ("SKILL_QUOTA_EXCEEDED", "quota_exceeded"), ("SKILL_KIDS_MODE_BLOCKED", "kids_mode_blocked"),
    ("SKILL_CONTEXT_TOO_LONG", "context_too_long"), ("SKILL_RATE_LIMITED", "rate_limited"),
    ("SKILL_TIMEOUT", "timeout")].lookup code

structure BlockedCall where
  (errorCode entryPoint skillID requestID : String)
  handled : Bool := false
  context : Option SkillRelayContext
  airbotixUser : Option User
  database : Bool := true

def buildBlockedEvent (salt : KidsSalt) (userID : Int) (call : BlockedCall) (reason : String) :
    Except String SkillUsageEvent :=
  let event : SkillUsageEvent :=
    { eventType := .blocked
      requestID := some call.requestID
      entryPoint := call.entryPoint
      blockReason := some reason
      errorCode := some call.errorCode
      success := some false }
  match call.context with
  | some context =>
    let identity := if 0 < context.userID then some context.userID else none
    let event := { event with
      skillID := nonempty? context.skillID
      skillVersionID := nonempty? context.skillVersionID
      userID := identity
      tenantID := identity
      plan := if context.plan.valid then some context.plan else none
      metadata := some (skillTierEventMetadata context.skill.monetizationType context.plan)
      isKidsSession := context.isKidsSession }
    if context.isKidsSession ∧ 0 < context.userID then
      event.applyKidsSessionAnalyticsIdentity salt context.userID context.userID
    else .ok event
  | none =>
    let event := { event with skillID := nonempty? call.skillID }
    if 0 < userID then
      let event := { event with userID := some userID, tenantID := some userID }
      if call.airbotixUser.any User.kidsMode then
        event.applyKidsSessionAnalyticsIdentity salt userID userID
      else .ok event
    else .ok event

inductive BlockedResult where
  | duplicate
  | unmapped
  | omitted
  | writeFailed (e : String)
  | emitted (row : SkillUsageEvent)

def abortSkillRelayBlocked (salt : KidsSalt) (userID : Int) (call : BlockedCall) : BlockedResult :=
  if call.handled then .duplicate
  else
    match skillBlockedReasonFor call.errorCode with
    | none => .unmapped
    | some reason =>
      if call.entryPoint ∉ validEntryPoints then .omitted
      else
        match buildBlockedEvent salt userID call reason with
        | .error e => .writeFailed e
        | .ok event =>
          if call.database then
            match emitSkillUsageEvent event with
            | .error e => .writeFailed e
            | .ok row => .emitted row
          else .writeFailed "skill_blocked writer: relay db is nil"

structure ExecutionUsage where
  (promptTokens inputTokens completionTokens outputTokens totalTokens : Int)

structure ExecutionCall where
  context : Option SkillRelayContext
  requestID : String
  usage : Option ExecutionUsage
  model : String
  latencyMS : Int
  database : Bool := true

def tokenCounts (usage : Option ExecutionUsage) : Option Int × Option Int × Option Int :=
  match usage with
  | none => (none, none, none)
  | some usage =>
    let input := if usage.promptTokens = 0 then usage.inputTokens else usage.promptTokens
    let output := if usage.completionTokens = 0 then usage.outputTokens else usage.completionTokens
    let total := if usage.totalTokens = 0 ∧ (input ≠ 0 ∨ output ≠ 0) then input + output
      else usage.totalTokens
    (some input, some output, some total)

def successMetadata (context : SkillRelayContext) (repeatIndex : Option Nat) : Json :=
  .obj ([("schema_version", .str "1.0"), ("producer", .str "relay"),
    ("skill_tier", .str context.skill.monetizationType.name),
    ("monetization_type", .str context.skill.monetizationType.name),
    ("user_plan", .str context.plan.name)] ++
    repeatIndex.toList.map fun index => ("repeat_index", .num index))

def buildSuccessfulExecutionEvent (call : ExecutionCall) (context : SkillRelayContext)
    (eventType : UsageEventType) (repeatIndex : Option Nat) : SkillUsageEvent :=
  let (inputTokens, outputTokens, totalTokens) := tokenCounts call.usage
  { eventType
    userID := some context.userID
    tenantID := some context.userID
    requestID := nonempty? call.requestID
    skillID := some context.skillID
    skillVersionID := some context.skillVersionID
    entryPoint := if context.entryPoint = "api_token" then "api_token" else "skill_package"
    plan := some context.plan
    subscriptionStatus := some (if context.subActive then "active" else "inactive")
    model := nonempty? call.model
    isKidsSafeSkill := some context.skill.isKidsSafe
    isKidsExclusiveSkill := some context.skill.isKidsExclusive
    inputTokens
    outputTokens
    totalTokens
    latencyMS := some (max 0 call.latencyMS)
    success := some true
    metadata := some (successMetadata context repeatIndex) }

def tryInsertFirstUse (call : ExecutionCall) (context : SkillRelayContext)
    (events : List SkillUsageEvent) : Except String (Option SkillUsageEvent) := do
  let key := firstUseKeyOf context.userID context.skillID
  let row ← beforeCreate
    { buildSuccessfulExecutionEvent call context .firstUse none with firstUseKey := some key }
  if events.any fun event => event.firstUseKey = some key then pure none else pure (some row)

def successfulUseCount (context : SkillRelayContext) (events : List SkillUsageEvent) : Nat :=
  events.countP fun event => event.eventType = .used ∧ event.userID = some context.userID ∧
    event.skillID = some context.skillID ∧ event.success = some true

def emitSuccessfulExecution (call : ExecutionCall) (events : List SkillUsageEvent) :
    Except String (List SkillUsageEvent) := do
  refuseIf (call.database = false) "skill_usage_events: database is not configured"
  let context ← require call.context "skill_usage_events: skill relay context is required"
  refuseIf (context.skillID = "") "skill_usage_events: skill_id is required"
  refuseIf (context.skillVersionID = "") "skill_usage_events: skill_version_id is required"
  refuseIf (context.isKidsSession = true)
    "skill_usage_events: kids pseudonymous analytics salt is not configured"
  let used ← emitSkillUsageEvent (buildSuccessfulExecutionEvent call context .used none)
  let firstUse ← tryInsertFirstUse call context (events ++ [used])
  match firstUse with
  | some row => pure [used, row]
  | none =>
    let repeatIndex := successfulUseCount context (events ++ [used])
    let row ← emitSkillUsageEvent
      (buildSuccessfulExecutionEvent call context .repeatUse (some repeatIndex))
    pure [used, row]

end DeepRouter.Skills

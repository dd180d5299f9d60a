import DeepRouter.Library.Json
import DeepRouter.Library.Runs
import DeepRouter.Relay.ApiError

/-! # The header override of an attempt -/

namespace DeepRouter.Relay

open GoStrings Runs

abbrev HeaderMap := List (String × Json)

def setField (fields : HeaderMap) (name : String) (value : Json) : HeaderMap :=
  (name, value) :: fields.filter fun field => field.1 ≠ name

def deleteField (fields : HeaderMap) (name : String) : HeaderMap :=
  fields.filter fun field => field.1 ≠ name

structure ConditionOperation where
  (path mode : String)
  value : Json := .null
  (invert passMissingKey : Bool := false)

inductive OperationMode where
  | body (mode : String)
  | returnError
  | setHeader
  | deleteHeader
  | copyHeader
  | moveHeader
  | passHeaders
  | syncFields
  | unknown (mode : String)

structure ParamOperation where
  mode : OperationMode
  path : String := ""
  value : Json := .null
  keepOrigin : Bool := false
  (fromPath toPath : String := "")
  conditions : List ConditionOperation := []
  logic : String := "OR"

structure ParamOverride where
  fields : HeaderMap := []
  operations : Option (List ParamOperation) := none

def ParamOverride.isEmpty (override : ParamOverride) : Bool :=
  override.fields.isEmpty && override.operations.isNone

structure OverrideChannel where
  upstreamModelName : String
  paramOverride : ParamOverride := {}
  headersOverride : HeaderMap := []

inductive OverrideError where
  | sourceHeaderNotFound (header : String)
  | returned (value : Json)
  | failed (message : String)
  | operation (mode : OperationMode) (cause : OverrideError)

structure OverrideContext where
  (model upstreamModel originalModel requestPath : Option String)
  (requestHeaders headerOverride : HeaderMap)
  retryIndex : Int
  lastError : Option ApiError
  isChannelTest : Bool

structure OverrideEnv (β : Type) where
  lower : Char → Char
  sprint : Json → String
  headerNames : Json → Except OverrideError (List String)
  checkConditions : β → OverrideContext → List ConditionOperation → String →
    Except OverrideError Bool
  setFields : β → HeaderMap → Except OverrideError β
  edit : β → OverrideContext → ParamOperation → Except OverrideError β
  read : β → String → Option Json
  write : β → String → Json → Except OverrideError β

structure OverrideInfo where
  (originModelName requestURLPath : String)
  requestHeaders : List (String × String)
  isChannelTest : Bool := false
  channelMeta : Option OverrideChannel := none
  retryIndex : Int := 0
  lastError : Option ApiError := none
  runtimeHeadersOverride : HeaderMap := []
  useRuntimeHeadersOverride : Bool := false

section

variable {β : Type} (env : OverrideEnv β)

def normalizeHeaderContextKey (key : String) : String := trimSpace (key.map env.lower)

def isHeaderPassthroughRuleKeyForOverride (key : String) : Bool :=
  let key := normalizeHeaderContextKey env key
  if key = "" then false
  else if key = "*" then true
  else hasPrefix key "re:" || hasPrefix key "regex:"

def sanitizeHeaderOverrideMap (source : HeaderMap) : HeaderMap :=
  source.foldl (fun target field =>
    let normalizedKey := normalizeHeaderContextKey env field.1
    let normalizedValue := trimSpace (env.sprint field.2)
    if normalizedKey = "" then target
    else if normalizedValue = "" then
      if isHeaderPassthroughRuleKeyForOverride env normalizedKey then
        setField target normalizedKey (.str "")
      else target
    else setField target normalizedKey (.str normalizedValue)) []

def OverrideInfo.getHeaderOverrideMap (info : OverrideInfo) : HeaderMap :=
  match info.channelMeta with
  | none => []
  | some channel => channel.headersOverride

def getEffectiveHeaderOverride (info : OverrideInfo) : HeaderMap :=
  if info.useRuntimeHeadersOverride then sanitizeHeaderOverrideMap env info.runtimeHeadersOverride
  else sanitizeHeaderOverrideMap env info.getHeaderOverrideMap

def buildRequestHeadersContext (headers : List (String × String)) : HeaderMap :=
  (headers.filterMap fun header =>
    let normalized := normalizeHeaderContextKey env header.1
    let value := trimSpace header.2
    if normalized = "" ∨ value = "" then none else some (normalized, Json.str value)).foldl
      (fun target field => setField target field.1 field.2) []

def buildParamOverrideContext (info : OverrideInfo) : OverrideContext :=
  let nonEmpty (text : String) : Option String := if text = "" then none else some text
  let upstreamModel := info.channelMeta.bind fun channel => nonEmpty channel.upstreamModelName
  let originalModel := nonEmpty info.originModelName
  { model := upstreamModel.or originalModel
    upstreamModel, originalModel
    requestPath := nonEmpty info.requestURLPath
    requestHeaders := buildRequestHeadersContext env info.requestHeaders
    headerOverride := sanitizeHeaderOverrideMap env (getEffectiveHeaderOverride env info)
    retryIndex := info.retryIndex
    lastError := info.lastError
    isChannelTest := info.isChannelTest }

/-! ## Operations on headers -/

def getHeaderValueFromContext (context : OverrideContext) (headerName : String) : Option String :=
  let headerName := normalizeHeaderContextKey env headerName
  let valueIn (source : HeaderMap) : Option String :=
    ((source.lookup headerName).map fun raw => trimSpace (env.sprint raw)).filter (· ≠ "")
  if headerName = "" then none
  else (valueIn context.headerOverride).or (valueIn context.requestHeaders)

def splitHeaderListValue (raw : String) : List String :=
  ((split raw ',').map trimSpace).filter (· ≠ "")

mutual

def parseHeaderReplacementTokens : Json → Except OverrideError (List String)
  | .null => .ok []
  | .str raw => .ok (splitHeaderListValue raw)
  | .arr items => do
    let tokens ← parseHeaderReplacementItems items
    .ok tokens.eraseDups
  | .obj _ => .error (.failed "header replacement value must be string, array or null")
  | raw =>
    let token := trimSpace (env.sprint raw)
    .ok (if token = "" then [] else [token])

def parseHeaderReplacementItems : List Json → Except OverrideError (List String)
  | [] => .ok []
  | item :: items => do
    let first ← parseHeaderReplacementTokens item
    let rest ← parseHeaderReplacementItems items
    .ok (first ++ rest)

end

def parseHeaderAppendTokens (mapping : HeaderMap) : Except OverrideError (List String) :=
  match mapping.lookup "$append" with
  | none => .ok []
  | some raw => parseHeaderReplacementTokens env raw

def parseHeaderKeepOnlyDeclared (mapping : HeaderMap) : Bool :=
  match mapping.lookup "$keep_only_declared" with
  | some (.bool keepOnlyDeclared) => keepOnlyDeclared
  | _ => false

def replaceToken (mapping : HeaderMap) (token : String) : Except OverrideError (List String) :=
  let keepOnlyDeclared := parseHeaderKeepOnlyDeclared mapping
  let wildcard := if keepOnlyDeclared then none else mapping.lookup "*"
  match (mapping.lookup token).or wildcard with
  | some replacement => parseHeaderReplacementTokens env replacement
  | none => .ok (if keepOnlyDeclared then [] else [token])

def resolveHeaderOverrideValueByMapping (context : OverrideContext) (headerName : String)
    (mapping : HeaderMap) : Except OverrideError (Option String) :=
  if mapping = [] then .error (.failed "header value mapping cannot be empty")
  else do
    let appendTokens ← parseHeaderAppendTokens env mapping
    let sourceTokens :=
      ((getHeaderValueFromContext env context headerName).map splitHeaderListValue).getD []
    let replaced ← sourceTokens.mapM (replaceToken env mapping)
    let resultTokens := (replaced.flatten ++ appendTokens).eraseDups
    .ok (if resultTokens = [] then none else some (",".intercalate resultTokens))

def resolveHeaderOverrideValue (context : OverrideContext) (headerName : String) (value : Json) :
    Except OverrideError (Option String) :=
  match value with
  | .null => .error (.failed "header value is required")
  | .obj mapping => resolveHeaderOverrideValueByMapping env context headerName mapping
  | value =>
    let headerValue := trimSpace (env.sprint value)
    .ok (if headerValue = "" then none else some headerValue)

def setHeaderOverrideInContext (context : OverrideContext) (headerName : String) (value : Json)
    (keepOrigin : Bool) : Except OverrideError OverrideContext :=
  let headerName := normalizeHeaderContextKey env headerName
  let existing := ((context.headerOverride.lookup headerName).map fun raw =>
    trimSpace (env.sprint raw)).filter (· ≠ "")
  if headerName = "" then .error (.failed "header name is required")
  else if keepOrigin && existing.isSome then .ok context
  else do
    let resolved ← resolveHeaderOverrideValue env context headerName value
    match resolved with
    | none => .ok { context with headerOverride := deleteField context.headerOverride headerName }
    | some headerValue => .ok { context with
        headerOverride := setField context.headerOverride headerName (.str headerValue) }

def deleteHeaderOverrideInContext (context : OverrideContext) (headerName : String) :
    Except OverrideError OverrideContext :=
  let headerName := normalizeHeaderContextKey env headerName
  if headerName = "" then .error (.failed "header name is required")
  else .ok { context with headerOverride := deleteField context.headerOverride headerName }

def copyHeaderInContext (context : OverrideContext) (fromHeader toHeader : String)
    (keepOrigin : Bool) : Except OverrideError OverrideContext :=
  let fromHeader := normalizeHeaderContextKey env fromHeader
  let toHeader := normalizeHeaderContextKey env toHeader
  if fromHeader = "" ∨ toHeader = "" then .error (.failed "copy_header from/to is required")
  else
    match getHeaderValueFromContext env context fromHeader with
    | none => .error (.sourceHeaderNotFound fromHeader)
    | some value => setHeaderOverrideInContext env context toHeader (.str value) keepOrigin

def moveHeaderInContext (context : OverrideContext) (fromHeader toHeader : String)
    (keepOrigin : Bool) : Except OverrideError OverrideContext :=
  let fromHeader := normalizeHeaderContextKey env fromHeader
  let toHeader := normalizeHeaderContextKey env toHeader
  if fromHeader = "" ∨ toHeader = "" then .error (.failed "move_header from/to is required")
  else do
    let context ← copyHeaderInContext env context fromHeader toHeader keepOrigin
    if fromHeader = toHeader then .ok context
    else deleteHeaderOverrideInContext env context fromHeader

def orUnchanged (context : OverrideContext) (result : Except OverrideError OverrideContext) :
    Except OverrideError OverrideContext :=
  match result with
  | .error (.sourceHeaderNotFound _) => .ok context
  | result => result

def passHeadersInContext (keepOrigin : Bool) :
    List String → OverrideContext → Except OverrideError OverrideContext
  | [], context => .ok context
  | headerName :: headerNames, context => do
    let context ← orUnchanged context
      (copyHeaderInContext env context headerName headerName keepOrigin)
    passHeadersInContext keepOrigin headerNames context

inductive SyncTarget where
  | json (key : String)
  | header (key : String)

def parseSyncTarget (spec : String) : Except OverrideError SyncTarget :=
  let raw := trimSpace spec
  match split raw ':' with
  | [] => .error (.failed "sync_fields target is required")
  | [bare] =>
    if bare = "" then .error (.failed "sync_fields target is required") else .ok (.json bare)
  | kind :: rest =>
    let kind := (trimSpace kind).map env.lower
    let key := trimSpace (":".intercalate rest)
    if key = "" then .error (.failed ("sync_fields target key is required: " ++ raw))
    else if kind = "json" ∨ kind = "body" then .ok (.json key)
    else if kind = "header" then .ok (.header key)
    else .error (.failed ("sync_fields target prefix is invalid: " ++ raw))

def readSyncTargetValue (body : β) (context : OverrideContext) : SyncTarget → Option Json
  | .json key =>
    match env.read body key with
    | none | some .null => none
    | some (.str text) => if trimSpace text = "" then none else some (.str text)
    | some value => some value
  | .header key => (getHeaderValueFromContext env context key).map .str

def writeSyncTargetValue (body : β) (context : OverrideContext) (value : Json) :
    SyncTarget → Except OverrideError (β × OverrideContext)
  | .json key => do
    let body ← env.write body key value
    .ok (body, context)
  | .header key => do
    let context ← setHeaderOverrideInContext env context key value false
    .ok (body, context)

def syncFieldsBetweenTargets (body : β) (context : OverrideContext) (fromSpec toSpec : String) :
    Except OverrideError (β × OverrideContext) := do
  let fromTarget ← parseSyncTarget env fromSpec
  let toTarget ← parseSyncTarget env toSpec
  match readSyncTargetValue env body context fromTarget,
      readSyncTargetValue env body context toTarget with
  | some value, none => writeSyncTargetValue env body context value toTarget
  | none, some value => writeSyncTargetValue env body context value fromTarget
  | _, _ => .ok (body, context)

end

/-! ## The parameter override -/

section

variable {β : Type} (env : OverrideEnv β)

def headerOr (header path : String) : String :=
  if trimSpace header = "" then trimSpace path else trimSpace header

def applyOperation (operation : ParamOperation) (body : β) (context : OverrideContext) :
    Except OverrideError (β × OverrideContext) :=
  let onHeaders (result : Except OverrideError OverrideContext) :
      Except OverrideError (β × OverrideContext) :=
    (result.map fun context => (body, context)).mapError (.operation operation.mode)
  let source := headerOr operation.fromPath operation.path
  let target := headerOr operation.toPath operation.path
  match operation.mode with
  | .body _ => (env.edit body context operation).map fun body => (body, context)
  | .returnError => .error (.returned operation.value)
  | .setHeader => onHeaders (setHeaderOverrideInContext env context operation.path operation.value
      operation.keepOrigin)
  | .deleteHeader => onHeaders (deleteHeaderOverrideInContext env context operation.path)
  | .copyHeader => onHeaders (orUnchanged context
      (copyHeaderInContext env context source target operation.keepOrigin))
  | .moveHeader => onHeaders (orUnchanged context
      (moveHeaderInContext env context source target operation.keepOrigin))
  | .passHeaders => do
    let headerNames ← env.headerNames operation.value
    onHeaders (passHeadersInContext env operation.keepOrigin headerNames context)
  | .syncFields =>
    (syncFieldsBetweenTargets env body context operation.fromPath operation.toPath).mapError
      (.operation .syncFields)
  | .unknown mode => .error (.failed ("unknown operation: " ++ mode))

def applyOperations : List ParamOperation → β → OverrideContext →
    Except OverrideError (β × OverrideContext)
  | [], body, context => .ok (body, context)
  | operation :: operations, body, context => do
    let holds ← env.checkConditions body context operation.conditions operation.logic
    if holds then do
      let (body, context) ← applyOperation env operation body context
      applyOperations operations body context
    else applyOperations operations body context

def applyParamOverride (override : ParamOverride) (body : β) (context : OverrideContext) :
    Except OverrideError (β × OverrideContext) :=
  match override.operations with
  | none => do
    let body ← env.setFields body override.fields
    .ok (body, context)
  | some operations => do
    let body ← if override.fields = [] then .ok body else env.setFields body override.fields
    applyOperations env operations body context

def OverrideInfo.getParamOverrideMap (info : OverrideInfo) : ParamOverride :=
  match info.channelMeta with
  | none => {}
  | some channel => channel.paramOverride

def syncRuntimeHeaderOverrideFromContext (info : OverrideInfo) (context : OverrideContext) :
    OverrideInfo :=
  { info with
    runtimeHeadersOverride := sanitizeHeaderOverrideMap env context.headerOverride
    useRuntimeHeadersOverride := true }

def applyParamOverrideWithRelayInfo (body : β) (info : OverrideInfo) :
    Except OverrideError β × OverrideInfo :=
  let override := info.getParamOverrideMap
  if override.isEmpty then (.ok body, info)
  else
    match applyParamOverride env override body (buildParamOverrideContext env info) with
    | .error err => (.error err, info)
    | .ok (body, context) => (.ok body, syncRuntimeHeaderOverrideFromContext env info context)

end

/-! ## Attempts -/

structure OverrideAttempt (β : Type) where
  channel : OverrideChannel
  body : β
  retryIndex : Int := 0
  lastError : Option ApiError := none

namespace OverrideInfo

def ofRequest (originModelName requestURLPath : String) (requestHeaders : List (String × String))
    (isChannelTest : Bool) : OverrideInfo :=
  { originModelName, requestURLPath, requestHeaders, isChannelTest }

def initChannelMeta (info : OverrideInfo) (channel : OverrideChannel) : OverrideInfo :=
  { info with channelMeta := some channel }

section

variable {β : Type} (env : OverrideEnv β)

def entered (info : OverrideInfo) (attempt : OverrideAttempt β) : OverrideInfo :=
  { info with retryIndex := attempt.retryIndex, lastError := attempt.lastError }.initChannelMeta
    attempt.channel

def attempt (info : OverrideInfo) (attempt : OverrideAttempt β) : OverrideInfo :=
  (applyParamOverrideWithRelayInfo env attempt.body (info.entered attempt)).2

def Unapplied (info : OverrideInfo) (attempt : OverrideAttempt β) : Prop :=
  attempt.channel.paramOverride.isEmpty = true ∨
    ∃ err, applyParamOverride env attempt.channel.paramOverride attempt.body
      (buildParamOverrideContext env (info.entered attempt)) = .error err

/-- Runtime headers left by an earlier attempt are those of the channel. -/
def Harmless (info : OverrideInfo) (channel : OverrideChannel) : Prop :=
  info.useRuntimeHeadersOverride = true →
    sanitizeHeaderOverrideMap env info.runtimeHeadersOverride =
      sanitizeHeaderOverrideMap env channel.headersOverride

variable {env} {info : OverrideInfo} {attempt : OverrideAttempt β}

theorem attempt_of_empty (he : attempt.channel.paramOverride.isEmpty = true) :
    info.attempt env attempt = info.entered attempt := by
  have ho : (info.entered attempt).getParamOverrideMap.isEmpty = true := he
  simp only [OverrideInfo.attempt, applyParamOverrideWithRelayInfo, ho, if_true]

theorem attempt_of_unapplied (hu : info.Unapplied env attempt) :
    info.attempt env attempt = info.entered attempt := by
  rcases hu with he | ⟨err, her⟩
  · exact attempt_of_empty he
  have ho : applyParamOverride env (info.entered attempt).getParamOverrideMap attempt.body
      (buildParamOverrideContext env (info.entered attempt)) = .error err := her
  simp only [OverrideInfo.attempt, applyParamOverrideWithRelayInfo, ho]
  split <;> rfl

theorem getEffectiveHeaderOverride_entered (info : OverrideInfo) (attempt : OverrideAttempt β) :
    getEffectiveHeaderOverride env (info.entered attempt) =
      if info.useRuntimeHeadersOverride then
        sanitizeHeaderOverrideMap env info.runtimeHeadersOverride
      else sanitizeHeaderOverrideMap env attempt.channel.headersOverride :=
  rfl

variable {left info : OverrideInfo}

theorem getEffectiveHeaderOverride_attempt
    (hc : buildParamOverrideContext env (left.entered attempt) =
      buildParamOverrideContext env (info.entered attempt))
    (he : getEffectiveHeaderOverride env (left.entered attempt) =
      getEffectiveHeaderOverride env (info.entered attempt)) :
    getEffectiveHeaderOverride env (left.attempt env attempt) =
      getEffectiveHeaderOverride env (info.attempt env attempt) := by
  have ho : (left.entered attempt).getParamOverrideMap =
      (info.entered attempt).getParamOverrideMap := rfl
  simp only [OverrideInfo.attempt, applyParamOverrideWithRelayInfo, ho, hc]
  split
  · exact he
  · split
    · exact he
    · rfl

/-! ## What the attempts before leave behind -/

def SameRequest (info info' : OverrideInfo) : Prop :=
  info'.originModelName = info.originModelName ∧ info'.requestURLPath = info.requestURLPath ∧
    info'.requestHeaders = info.requestHeaders ∧ info'.isChannelTest = info.isChannelTest

variable (env) in
theorem attempt_sameRequest (info : OverrideInfo) (attempt : OverrideAttempt β) :
    SameRequest info (info.attempt env attempt) := by
  simp only [OverrideInfo.attempt, applyParamOverrideWithRelayInfo]
  split
  · exact ⟨rfl, rfl, rfl, rfl⟩
  · split <;> exact ⟨rfl, rfl, rfl, rfl⟩

theorem run_sameRequest (info : OverrideInfo) (attempts : List (OverrideAttempt β)) :
    SameRequest info (run (OverrideInfo.attempt env) info attempts) := by
  refine run_preserves (I := fun state => SameRequest info state) ?_ ⟨rfl, rfl, rfl, rfl⟩ attempts
  rintro state next ⟨hModel, hPath, hHeaders, hTest⟩
  obtain ⟨hModel', hPath', hHeaders', hTest'⟩ := attempt_sameRequest env state next
  exact ⟨hModel'.trans hModel, hPath'.trans hPath, hHeaders'.trans hHeaders, hTest'.trans hTest⟩

theorem buildParamOverrideContext_entered (hs : SameRequest info left)
    (he : getEffectiveHeaderOverride env (left.entered attempt) =
      getEffectiveHeaderOverride env (info.entered attempt)) :
    buildParamOverrideContext env (left.entered attempt) =
      buildParamOverrideContext env (info.entered attempt) := by
  obtain ⟨hm, hp, hh, ht⟩ := hs
  simp only [buildParamOverrideContext, he]
  simp only [entered, initChannelMeta, hm, hp, hh, ht]
  rfl

theorem run_unapplied {attempts : List (OverrideAttempt β)} (hus : info.useRuntimeHeadersOverride = false)
    (hu : Along (OverrideInfo.attempt env) (Unapplied env) info attempts) :
    (run (OverrideInfo.attempt env) info attempts).useRuntimeHeadersOverride = false := by
  refine run_invariant (I := fun state : OverrideInfo => state.useRuntimeHeadersOverride = false)
    ?_ hus attempts hu
  intro state next hs hn
  rw [attempt_of_unapplied hn]
  exact hs

theorem getEffectiveHeaderOverride_of_harmless (hs : SameRequest info left)
    (hu : info.useRuntimeHeadersOverride = false) (hh : left.Harmless env attempt.channel) :
    getEffectiveHeaderOverride env (left.attempt env attempt) =
      getEffectiveHeaderOverride env (info.attempt env attempt) := by
  have he : getEffectiveHeaderOverride env (left.entered attempt) =
      getEffectiveHeaderOverride env (info.entered attempt) := by
    rw [getEffectiveHeaderOverride_entered, getEffectiveHeaderOverride_entered, hu]
    by_cases hl : left.useRuntimeHeadersOverride = true
    · rw [if_pos hl, if_neg (by decide)]
      exact hh hl
    · rw [if_neg hl, if_neg (by decide)]
  exact getEffectiveHeaderOverride_attempt (buildParamOverrideContext_entered hs he) he

theorem harmless_of_getEffectiveHeaderOverride (hu : info.useRuntimeHeadersOverride = false)
    (hem : attempt.channel.paramOverride.isEmpty = true)
    (he : getEffectiveHeaderOverride env (left.attempt env attempt) =
      getEffectiveHeaderOverride env (info.attempt env attempt)) :
    left.Harmless env attempt.channel := by
  intro hl
  rw [attempt_of_empty hem, attempt_of_empty hem, getEffectiveHeaderOverride_entered,
    getEffectiveHeaderOverride_entered, hu, if_pos hl, if_neg (by decide)] at he
  exact he

variable (env) in
/-- The effective override is the one of a first attempt if what the attempts before left is
harmless to the channel; without a parameter override this is also necessary. -/
theorem effective_override_as_first (originModelName requestURLPath : String)
    (requestHeaders : List (String × String)) (isChannelTest : Bool)
    (earlier : List (OverrideAttempt β)) (attempt : OverrideAttempt β) :
    let start := ofRequest originModelName requestURLPath requestHeaders isChannelTest
    let left := run (OverrideInfo.attempt env) start earlier
    (left.Harmless env attempt.channel → getEffectiveHeaderOverride env (left.attempt env attempt) =
      getEffectiveHeaderOverride env (start.attempt env attempt)) ∧
    (attempt.channel.paramOverride.isEmpty = true → getEffectiveHeaderOverride env (left.attempt env
      attempt) = getEffectiveHeaderOverride env (start.attempt env attempt) → left.Harmless env
      attempt.channel) ∧
    (Along (OverrideInfo.attempt env) (Unapplied env) start earlier →
      left.Harmless env attempt.channel) := by
  intro start left
  have hs : SameRequest start left := run_sameRequest start earlier
  have hus : start.useRuntimeHeadersOverride = false := rfl
  refine ⟨getEffectiveHeaderOverride_of_harmless hs hus,
    harmless_of_getEffectiveHeaderOverride hus, ?_⟩
  intro hu hl
  rw [run_unapplied hus hu] at hl
  cases hl

end

/-! A first channel that sets the temperature and sends a secret header, and a second one that
sends a header of its own. -/

def plainEnv : OverrideEnv Unit where
  lower := Char.toLower
  sprint
    | .str text => text
    | _ => ""
  headerNames _ := .ok []
  checkConditions _ _ _ _ := .ok true
  setFields body _ := .ok body
  edit body _ _ := .ok body
  read _ _ := none
  write body _ _ := .ok body

def secretChannel : OverrideChannel where
  upstreamModelName := "m"
  paramOverride := { fields := [("temperature", .num 0)] }
  headersOverride := [("X-Secret", .str "a")]

def ownChannel : OverrideChannel where
  upstreamModelName := "m"
  headersOverride := [("X-Own", .str "b")]

def sentHeaders (info : OverrideInfo) (attempt : OverrideAttempt Unit) : List (String × String) :=
  (getEffectiveHeaderOverride plainEnv (info.attempt plainEnv attempt)).map fun header =>
    (header.1, plainEnv.sprint header.2)

def ownAttempt : OverrideAttempt Unit := { channel := ownChannel, body := (), retryIndex := 1 }

theorem secret_header_leaks :
    sentHeaders ((ofRequest "m" "/v1/chat/completions" [] false).attempt plainEnv
        { channel := secretChannel, body := () }) ownAttempt = [("x-secret", "a")] ∧
      sentHeaders (ofRequest "m" "/v1/chat/completions" [] false) ownAttempt =
        [("x-own", "b")] := by
  decide +kernel

end OverrideInfo

end DeepRouter.Relay

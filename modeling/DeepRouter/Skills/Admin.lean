import DeepRouter.Library.KeyedTable
import DeepRouter.Skills.Execution
import DeepRouter.Skills.UsageEvents

/-! # Administration of skills -/

namespace DeepRouter.Skills

open GoStrings Atomic KeyedTable

structure AdminSkill extends Skill where
  (slug category : String)
  tags : Json
  iconURL : Option String
  (name shortDescription description : String)
  (inputHints exampleInputs exampleOutputs : Json)
  priceMarkup : Rat
  maxInputTokens : Option Int
  modelWhitelist : Json
  timeoutSeconds : Int
  kidsApprovalStatus : String
  (aiDisclosureRequired featuredFlag : Bool)
  featuredRank : Option Int

structure MonetizationSnapshot where
  type : MonetizationType
  priceMarkup : Rat
  freeQuotaPerMonth : Option Int

structure AdminVersion extends SkillVersion where
  versionNumber : Int
  promptGuardTemplate : Option String
  outputSchema : Option Json
  (downloadInstructions usageInstructions : String)
  (prerequisites quickstart exampleIO : Json)
  monetizationSnapshot : MonetizationSnapshot
  maxInputTokensSnapshot : Option Int

structure AdminStore where
  skills : Table fun skill : AdminSkill => skill.id
  versions : Table fun version : AdminVersion => version.id

def parsePlan (text : String) : RequiredPlan :=
  if text = "free" then .free
  else if text = "pro" then .pro
  else if text = "enterprise" then .enterprise
  else .other text

def parseMonetization (text : String) : MonetizationType :=
  if text = "" then .unset
  else if text = "free" then .free
  else if text = "plan_included" then .planIncluded
  else if text = "token_markup" then .tokenMarkup
  else if text = "one_time" then .oneTime
  else if text = "plus_exclusive" then .plusExclusive
  else .other text

def MonetizationType.valid : MonetizationType → Bool
  | .unset => false
  | .other _ => false
  | _ => true

inductive AdminError where
  | skillNotFound
  | versionNotFound
  | invalidBody
  | invalidCreate (reason : String)
  | invalidPatch (reason : String)
  | slugTaken
  | instructionTemplateRequired
  | notAnArray (field : String)
  | versionNumberConflict
  | archivedVersion
  | maxInputSnapshotInvalid
  | instructionsMissing
  | packageInvalid
  | publishReasonRequired
  | publishRequiresDraft
  | publishChecklistFailed (failed : List String)
  | publishStateChanged
  | database

structure CreateSkillRequest where
  (slug name shortDescription description category requiredPlan monetizationType : String)
  priceMarkup : Option Rat
  (freeQuotaPerMonth maxInputTokens : Option Int)

def slugChar (c : Char) : Bool := ('a' ≤ c && c ≤ 'z') || ('0' ≤ c && c ≤ '9')

def slugFormat (slug : String) : Bool :=
  slug.length ≤ 128 && slug.toList.all (fun c => slugChar c || c == '-') &&
    slug.toList.head?.any slugChar && slug.toList.getLast?.any slugChar

def requiresMaxInputTokens (plan : RequiredPlan) (monetization : MonetizationType)
    (freeQuotaPerMonth : Option Int) : Bool :=
  plan = .free || monetization = .free || freeQuotaPerMonth.isSome

def CreateSkillRequest.draft (request : CreateSkillRequest) (id : String) : AdminSkill :=
  { id
    status := .draft
    requiredPlan := parsePlan (trimSpace request.requiredPlan)
    monetizationType := parseMonetization (trimSpace request.monetizationType)
    activeVersionID := none
    isKidsSafe := false
    isKidsExclusive := false
    freeQuotaPerMonth := request.freeQuotaPerMonth
    slug := trimSpace request.slug
    category := trimSpace request.category
    tags := .arr []
    iconURL := none
    name := trimSpace request.name
    shortDescription := trimSpace request.shortDescription
    description := trimSpace request.description
    inputHints := .arr []
    exampleInputs := .arr []
    exampleOutputs := .arr []
    priceMarkup := request.priceMarkup.getD 0
    maxInputTokens := request.maxInputTokens
    modelWhitelist := .arr []
    timeoutSeconds := 45
    kidsApprovalStatus := "not_required"
    aiDisclosureRequired := true
    featuredFlag := false
    featuredRank := none }

def validateCreateSkillRequest (request : CreateSkillRequest) (draft : AdminSkill) :
    Except String Unit := do
  refuseIf (draft.slug = "") "MISSING_SLUG"
  refuseIf (128 < draft.slug.utf8ByteSize) "SLUG_TOO_LONG"
  refuseIf (slugFormat draft.slug = false) "INVALID_SLUG_FORMAT"
  refuseIf (draft.name = "") "MISSING_NAME"
  refuseIf (160 < draft.name.length) "NAME_TOO_LONG"
  refuseIf (draft.shortDescription = "") "MISSING_SHORT_DESCRIPTION"
  refuseIf (280 < draft.shortDescription.length) "SHORT_DESCRIPTION_TOO_LONG"
  refuseIf (draft.description = "") "MISSING_DESCRIPTION"
  refuseIf (draft.category = "") "MISSING_CATEGORY"
  refuseIf (64 < draft.category.length) "CATEGORY_TOO_LONG"
  refuseIf (draft.requiredPlan.valid = false) "INVALID_REQUIRED_PLAN"
  refuseIf (draft.monetizationType.valid = false) "INVALID_MONETIZATION_TYPE"
  refuseIf (draft.monetizationType = .tokenMarkup ∧ draft.priceMarkup ≤ 0) "PRICE_MARKUP_REQUIRED"
  refuseIf (draft.monetizationType ≠ .tokenMarkup ∧ draft.priceMarkup ≠ 0)
    "PRICE_MARKUP_NOT_ALLOWED"
  refuseIf (request.freeQuotaPerMonth.any (fun quota => decide (quota < 0)) = true)
    "INVALID_FREE_QUOTA_PER_MONTH"
  refuseIf (request.maxInputTokens.any (fun tokens => decide (tokens ≤ 0)) = true)
    "INVALID_MAX_INPUT_TOKENS"
  refuseIf (requiresMaxInputTokens draft.requiredPlan draft.monetizationType
    draft.freeQuotaPerMonth = true ∧ draft.maxInputTokens = none) "MAX_INPUT_TOKENS_REQUIRED"

def createAdminSkill (request : CreateSkillRequest) (id : String) (store : AdminStore) :
    Except AdminError AdminStore := do
  let draft := request.draft id
  (validateCreateSkillRequest request draft).mapError .invalidCreate
  refuseIf (store.skills.rows.any (fun skill => decide (skill.slug = draft.slug)) = true) .slugTaken
  let skills ← require (store.skills.insert? draft) .database
  pure { store with skills }

structure PatchSkillRequest where
  (name shortDescription description category : Option String := none)
  (tags iconURL inputHints exampleInputs exampleOutputs : Option Json := none)
  (requiredPlan monetizationType : Option String := none)
  priceMarkup : Option Rat := none
  (freeQuotaPerMonth maxInputTokens modelWhitelist : Option Json := none)
  timeoutSeconds : Option Int := none
  (isKidsSafe isKidsExclusive : Option Bool := none)
  kidsApprovalStatus : Option String := none
  (aiDisclosureRequired featuredFlag : Option Bool := none)
  featuredRank : Option Json := none

def patchField {α β : Type} (field : Option α) (old : β) (check : α → Except String β) :
    Except String β :=
  match field with
  | none => .ok old
  | some value => check value

def checkText (missing : String) (limit : Option (Nat × String)) (text : String) :
    Except String String := do
  let text := trimSpace text
  refuseIf (text = "") missing
  match limit with
  | none => pure text
  | some (most, tooLong) =>
    refuseIf (most < text.length) tooLong
    pure text

def normalizeJSONPatchValue : Json → Json
  | .null => .arr []
  | value => value

def nullableIntPatchValue (invalid : String) : Json → Except String (Option Int)
  | .null => .ok none
  | .num value => if value.den = 1 then .ok (some value.num) else .error invalid
  | _ => .error invalid

def nullableStringPatchValue (invalid : String) : Json → Except String (Option String)
  | .null => .ok none
  | .str text => .ok (if trimSpace text = "" then none else some (trimSpace text))
  | _ => .error invalid

def boundedIntPatchValue (invalid : String) (most : Int) (value : Json) :
    Except String (Option Int) := do
  let number ← nullableIntPatchValue invalid value
  refuseIf (number.any (fun number => decide (number ≤ most)) = true) invalid
  pure number

def validKidsApprovalStatuses : List String :=
  ["not_required", "pending", "approved", "emergency_approved", "rejected", "revoked"]

def checkPlan (text : String) : Except String RequiredPlan := do
  let plan := parsePlan (trimSpace text)
  refuseIf (plan.valid = false) "INVALID_REQUIRED_PLAN"
  pure plan

def checkMonetization (text : String) : Except String MonetizationType := do
  let monetization := parseMonetization (trimSpace text)
  refuseIf (monetization.valid = false) "INVALID_MONETIZATION_TYPE"
  pure monetization

def checkTimeout (seconds : Int) : Except String Int := do
  refuseIf (seconds < 1 ∨ 120 < seconds) "INVALID_TIMEOUT_SECONDS"
  pure seconds

def checkKidsApproval (text : String) : Except String String := do
  let status := trimSpace text
  refuseIf (status ∉ validKidsApprovalStatuses) "INVALID_KIDS_APPROVAL_STATUS"
  pure status

def buildSkillPatchUpdates (current : AdminSkill) (request : PatchSkillRequest) :
    Except String AdminSkill := do
  let name ← patchField request.name current.name
    (checkText "MISSING_NAME" (some (160, "NAME_TOO_LONG")))
  let shortDescription ← patchField request.shortDescription current.shortDescription
    (checkText "MISSING_SHORT_DESCRIPTION" (some (280, "SHORT_DESCRIPTION_TOO_LONG")))
  let description ← patchField request.description current.description
    (checkText "MISSING_DESCRIPTION" none)
  let category ← patchField request.category current.category
    (checkText "MISSING_CATEGORY" (some (64, "CATEGORY_TOO_LONG")))
  let tags := (request.tags.map normalizeJSONPatchValue).getD current.tags
  let iconURL ← patchField request.iconURL current.iconURL
    (nullableStringPatchValue "INVALID_ICON_URL")
  let inputHints := (request.inputHints.map normalizeJSONPatchValue).getD current.inputHints
  let exampleInputs :=
    (request.exampleInputs.map normalizeJSONPatchValue).getD current.exampleInputs
  let exampleOutputs :=
    (request.exampleOutputs.map normalizeJSONPatchValue).getD current.exampleOutputs
  let requiredPlan ← patchField request.requiredPlan current.requiredPlan checkPlan
  let monetizationType ← patchField request.monetizationType current.monetizationType
    checkMonetization
  let priceMarkup := request.priceMarkup.getD current.priceMarkup
  let freeQuotaPerMonth ← patchField request.freeQuotaPerMonth current.freeQuotaPerMonth
    (boundedIntPatchValue "INVALID_FREE_QUOTA_PER_MONTH" (-1))
  let maxInputTokens ← patchField request.maxInputTokens current.maxInputTokens
    (boundedIntPatchValue "INVALID_MAX_INPUT_TOKENS" 0)
  let modelWhitelist :=
    (request.modelWhitelist.map normalizeJSONPatchValue).getD current.modelWhitelist
  let timeoutSeconds ← patchField request.timeoutSeconds current.timeoutSeconds checkTimeout
  let isKidsSafe := request.isKidsSafe.getD current.isKidsSafe
  let isKidsExclusive := request.isKidsExclusive.getD current.isKidsExclusive
  refuseIf (isKidsExclusive = true ∧ isKidsSafe = false) "KIDS_EXCLUSIVE_REQUIRES_SAFE"
  let kidsApprovalStatus ← patchField request.kidsApprovalStatus current.kidsApprovalStatus
    checkKidsApproval
  let aiDisclosureRequired := request.aiDisclosureRequired.getD current.aiDisclosureRequired
  let featuredFlag := request.featuredFlag.getD current.featuredFlag
  let featuredRank ← patchField request.featuredRank current.featuredRank
    (boundedIntPatchValue "INVALID_FEATURED_RANK" (-1))
  refuseIf (monetizationType = .tokenMarkup ∧ priceMarkup ≤ 0) "PRICE_MARKUP_REQUIRED"
  refuseIf (monetizationType ≠ .tokenMarkup ∧ priceMarkup ≠ 0) "PRICE_MARKUP_NOT_ALLOWED"
  refuseIf (requiresMaxInputTokens requiredPlan monetizationType freeQuotaPerMonth = true ∧
    maxInputTokens = none) "MAX_INPUT_TOKENS_REQUIRED"
  pure { current with
    name, shortDescription, description, category, tags, iconURL, inputHints, exampleInputs
    exampleOutputs, requiredPlan, monetizationType, priceMarkup, freeQuotaPerMonth, maxInputTokens
    modelWhitelist, timeoutSeconds, isKidsSafe, isKidsExclusive, kidsApprovalStatus
    aiDisclosureRequired, featuredFlag, featuredRank }

def patchAdminSkill (skillID : String) (request : PatchSkillRequest) (store : AdminStore) :
    Except AdminError AdminStore := do
  let current ← require (store.skills.find? skillID) .skillNotFound
  let updated ← (buildSkillPatchUpdates current request).mapError .invalidPatch
  pure { store with skills := store.skills.save updated }

structure CreateSkillVersionRequest where
  instructionTemplate : String
  promptGuardTemplate : Option String := none
  outputSchema : Option Json := none
  (downloadInstructions usageInstructions : String := "")
  (prerequisites quickstart exampleIO : Option Json := none)

def normalizeOptionalJSON : Option Json → Option Json
  | some .null => none
  | value => value

def normalizeOptionalJSONArray (field : String) : Option Json → Except AdminError Json
  | none => .ok (.arr [])
  | some .null => .ok (.arr [])
  | some (.arr items) => .ok (.arr items)
  | some _ => .error (.notAnArray field)

structure VersionColumns where
  outputSchema : Option Json
  (prerequisites quickstart exampleIO : Json)

def AdminStore.maxVersion (store : AdminStore) (skillID : String) : Int :=
  ((store.versions.rows.filter fun version => version.skillID = skillID).map
    AdminVersion.versionNumber).foldl max 0

def buildVersionFromSkill (store : AdminStore) (skill : AdminSkill)
    (request : CreateSkillVersionRequest) (columns : VersionColumns) (id : String) : AdminVersion :=
  { id
    skillID := skill.id
    status := .draft
    instructionTemplate := request.instructionTemplate
    modelWhitelistSnapshot := some skill.modelWhitelist
    requiredPlanSnapshot := skill.requiredPlan
    versionNumber := store.maxVersion skill.id + 1
    promptGuardTemplate := request.promptGuardTemplate
    outputSchema := columns.outputSchema
    downloadInstructions := trimSpace request.downloadInstructions
    usageInstructions := trimSpace request.usageInstructions
    prerequisites := columns.prerequisites
    quickstart := columns.quickstart
    exampleIO := columns.exampleIO
    monetizationSnapshot := ⟨skill.monetizationType, skill.priceMarkup, skill.freeQuotaPerMonth⟩
    maxInputTokensSnapshot := skill.maxInputTokens }

def insertVersion (skillID : String) (request : CreateSkillVersionRequest)
    (columns : VersionColumns) (id : String) (store : AdminStore) :
    Except AdminError AdminStore := do
  let skill ← require (store.skills.find? skillID) .versionNotFound
  let version := buildVersionFromSkill store skill request columns id
  refuseIf (store.versions.rows.any (fun other => decide (other.skillID = version.skillID ∧
    other.versionNumber = version.versionNumber)) = true) .versionNumberConflict
  let versions ← require (store.versions.insert? version) .versionNumberConflict
  pure { store with versions }

def createSkillVersionWithRetry (skillID : String) (request : CreateSkillVersionRequest)
    (columns : VersionColumns) : List String → AdminStore → Except AdminError AdminStore
  | [], _ => .error .versionNumberConflict
  | id :: ids, store =>
    match insertVersion skillID request columns id store with
    | .error .versionNumberConflict =>
      createSkillVersionWithRetry skillID request columns ids store
    | outcome => outcome

def createAdminSkillVersion (skillID : String) (request : CreateSkillVersionRequest)
    (ids : List String) (store : AdminStore) : Except AdminError AdminStore := do
  refuseIf (trimSpace request.instructionTemplate = "") .instructionTemplateRequired
  let outputSchema := normalizeOptionalJSON request.outputSchema
  let prerequisites ← normalizeOptionalJSONArray "prerequisites" request.prerequisites
  let quickstart ← normalizeOptionalJSONArray "quickstart" request.quickstart
  let exampleIO ← normalizeOptionalJSONArray "example_io" request.exampleIO
  createSkillVersionWithRetry skillID request
    { outputSchema, prerequisites, quickstart, exampleIO } (ids.take 3) store

def publishMaxInputTokensSnapshotValid (skill : AdminSkill) (version : AdminVersion) : Bool :=
  !requiresMaxInputTokens skill.requiredPlan skill.monetizationType skill.freeQuotaPerMonth ||
    (skill.maxInputTokens.isSome && skill.maxInputTokens = version.maxInputTokensSnapshot)

def versionInstructionsPublishReady (version : AdminVersion) : Bool :=
  trimSpace version.downloadInstructions ≠ "" && trimSpace version.usageInstructions ≠ ""

def AdminVersion.deactivated (version : AdminVersion) : AdminVersion :=
  { version with status := .inactive }

def AdminVersion.activated (version : AdminVersion) : AdminVersion :=
  { version with status := .active }

def AdminVersion.afterActivation (skillID versionID : String) (version : AdminVersion) :
    AdminVersion :=
  if version.skillID = skillID then
    if version.id = versionID then version.activated
    else if version.status = .active then version.deactivated
    else version
  else version

theorem AdminVersion.afterActivation_id (sid vid : String) (v : AdminVersion) :
    (v.afterActivation sid vid).id = v.id := by
  unfold AdminVersion.afterActivation
  split
  · split
    · rfl
    · split <;> rfl
  · rfl

def AdminSkill.pointedTo (skill : AdminSkill) (versionID : String) : AdminSkill :=
  { skill with activeVersionID := some versionID }

theorem AdminSkill.pointedTo_id (skill : AdminSkill) (vid : String) :
    (skill.pointedTo vid).id = skill.id := rfl

def AdminStore.activate (store : AdminStore) (skill : AdminSkill) (skillID versionID : String) :
    AdminStore :=
  { versions := store.versions.mapRows (AdminVersion.afterActivation skillID versionID)
      (AdminVersion.afterActivation_id skillID versionID)
    skills := store.skills.save (skill.pointedTo versionID) }

def activateAdminSkillVersion (skillID versionID : String) (packageFails : Bool)
    (store : AdminStore) : Except AdminError AdminStore := do
  let skill ← require (store.skills.find? skillID) .versionNotFound
  let version ← require ((store.versions.find? versionID).filter fun version =>
    version.skillID = skillID) .versionNotFound
  refuseIf (version.status = .archived) .archivedVersion
  refuseIf (publishMaxInputTokensSnapshotValid skill version = false) .maxInputSnapshotInvalid
  refuseIf (versionInstructionsPublishReady version = false) .instructionsMissing
  refuseIf (skill.status = .published ∧ packageFails = true) .packageInvalid
  pure (store.activate skill skillID versionID)

def jsonArrayHasAny : Json → Bool
  | .arr items => !items.isEmpty
  | _ => false

def jsonArrayHasNonEmptyString (raw : Json) : Bool :=
  match parseModelWhitelist (some raw) with
  | some values => values.any fun value => trimSpace value ≠ ""
  | none => false

def publishRequiredMetadataComplete (skill : AdminSkill) : Bool :=
  trimSpace skill.name ≠ "" && trimSpace skill.shortDescription ≠ "" &&
    trimSpace skill.description ≠ "" && trimSpace skill.category ≠ "" &&
    skill.iconURL.any (fun url => trimSpace url ≠ "") && jsonArrayHasNonEmptyString skill.tags

structure PublishChecklistItem where
  key : String
  passed : Bool
  message : String

def checklistItem (key : String) (passed : Bool) (message : String) : PublishChecklistItem :=
  { key, passed, message := if passed then "" else message }

def buildPublishChecklist (skill : AdminSkill) (version : Option AdminVersion) :
    List PublishChecklistItem :=
  [checklistItem "active_version" version.isSome "Active version is required.",
    checklistItem "required_metadata" (publishRequiredMetadataComplete skill)
      "Required metadata is incomplete.",
    checklistItem "examples"
      (jsonArrayHasAny skill.exampleInputs && jsonArrayHasAny skill.exampleOutputs)
      "At least one example input and output are required.",
    checklistItem "plan_and_monetization" (skill.requiredPlan.valid && skill.monetizationType.valid)
      "Required plan and monetization type are required.",
    checklistItem "model_whitelist" (jsonArrayHasNonEmptyString skill.modelWhitelist &&
      (version.bind fun version => version.modelWhitelistSnapshot).any jsonArrayHasNonEmptyString)
      "Model whitelist is required.",
    checklistItem "max_input_tokens" (match version with
      | some version => publishMaxInputTokensSnapshotValid skill version
      | none => !requiresMaxInputTokens skill.requiredPlan skill.monetizationType
          skill.freeQuotaPerMonth)
      ("max_input_tokens and active version max_input_tokens_snapshot are required and must match " ++
        "for Free/free-quota Skills."),
    checklistItem "download_usage_instructions" (version.any versionInstructionsPublishReady)
      "Download and usage instructions are required."]

def publishChecklistPassed (items : List PublishChecklistItem) : Bool :=
  items.all PublishChecklistItem.passed

def loadActivePublishVersion (store : AdminStore) (skill : AdminSkill) : Option AdminVersion :=
  match skill.activeVersionID with
  | none => none
  | some versionID =>
    if trimSpace versionID = "" then none
    else (store.versions.find? versionID).filter fun version =>
      version.skillID = skill.id ∧ version.status = .active ∧
        trimSpace version.instructionTemplate ≠ ""

def AdminSkill.publishedWith (skill : AdminSkill) (versionID : String) : AdminSkill :=
  { skill with status := .published, activeVersionID := some versionID }

theorem AdminSkill.publishedWith_id (skill : AdminSkill) (vid : String) :
    (skill.publishedWith vid).id = skill.id := rfl

def publishAdminSkill (skillID reason : String) (packageFails : Bool) (store : AdminStore) :
    Except AdminError AdminStore := do
  refuseIf (trimSpace reason = "") .publishReasonRequired
  let skill ← require (store.skills.find? skillID) .skillNotFound
  refuseIf (skill.status ≠ .draft) .publishRequiresDraft
  let found := loadActivePublishVersion store skill
  let checklist := buildPublishChecklist skill found
  refuseIf (publishChecklistPassed checklist = false) (.publishChecklistFailed
    ((checklist.filter fun item => !item.passed).map PublishChecklistItem.key))
  let version ← require found .publishStateChanged
  refuseIf (packageFails = true) .packageInvalid
  pure { store with skills := store.skills.save (skill.publishedWith version.id) }

inductive AdminOp where
  | createSkill (request : CreateSkillRequest) (id : String)
  | patchSkill (skillID : String) (request : PatchSkillRequest)
  | createVersion (skillID : String) (request : CreateSkillVersionRequest) (ids : List String)
  | activateVersion (skillID versionID : String) (packageFails : Bool)
  | publishSkill (skillID reason : String) (packageFails : Bool)

def AdminOp.body (store : AdminStore) : AdminOp → Except AdminError AdminStore
  | .createSkill request id => createAdminSkill request id store
  | .patchSkill skillID request => patchAdminSkill skillID request store
  | .createVersion skillID request ids => createAdminSkillVersion skillID request ids store
  | .activateVersion skillID versionID packageFails =>
    activateAdminSkillVersion skillID versionID packageFails store
  | .publishSkill skillID reason packageFails => publishAdminSkill skillID reason packageFails store

def AdminStore.step (store : AdminStore) (op : AdminOp) : AdminStore :=
  match op.body store with
  | .ok after => after
  | .error _ => store

end DeepRouter.Skills

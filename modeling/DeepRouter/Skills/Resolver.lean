import DeepRouter.Library.Json
import DeepRouter.Skills.Entitlement

/-! # Resolving a skill for execution -/

namespace DeepRouter.Skills

open GoStrings

def validEntryPoints : List String :=
  ["marketplace_card", "skill_detail", "my_skills", "saved_list", "playground_picker", "featured",
    "popular", "new", "new_week", "trending", "recommended", "reco_personal", "reco_codownload",
    "leaderboard_weekly", "leaderboard_monthly", "category_demand", "user_home", "digest",
    "reengage", "admin_preview", "search_results", "paywall", "skill_package", "api_token",
    "downloaded_runner"]

structure User where
  id : Int
  group : String
  kidsMode : Bool
  status : Int

def userStatusDisabled : Int := 2

structure Skill where
  id : String
  status : SkillStatus
  requiredPlan : RequiredPlan
  monetizationType : MonetizationType
  activeVersionID : Option String
  (isKidsSafe isKidsExclusive : Bool)
  freeQuotaPerMonth : Option Int

def Skill.selected (skill : Skill) : Skill := { skill with freeQuotaPerMonth := none }

inductive SkillVersionStatus where
  | draft
  | active
  | inactive
  | archived
deriving DecidableEq

structure SkillVersion where
  (id skillID : String)
  status : SkillVersionStatus
  instructionTemplate : String
  modelWhitelistSnapshot : Option Json
  requiredPlanSnapshot : RequiredPlan

structure SkillStore where
  user : Int → Except String (Option User)
  skill : String → Except String (Option Skill)
  enabledSkill : Int → String → Except String (Option Bool)
  version : String → Except String (Option SkillVersion)
  oneTimePurchases : Int → String → Except String Nat
  activeUpgradeGroups : Int → Except String (List String)

namespace SkillStore

variable (store : SkillStore)

def userSkillEnabled (userID : Int) (skillID : String) : Except String Bool :=
  match store.enabledSkill userID skillID with
  | .ok (some enabled) => .ok enabled
  | .ok none => .ok false
  | .error e => .error e

def activeVersion (versionID skillID : String) : Except String (Option SkillVersion) :=
  match store.version versionID with
  | .ok version => .ok (version.filter fun version =>
      version.skillID = skillID ∧ version.status = .active)
  | .error e => .error e

def hasOneTimeEntitlement (userID : Int) (skillID : String) : Except String Bool :=
  match store.oneTimePurchases userID skillID with
  | .ok count => .ok (decide (0 < count))
  | .error e => .error e

end SkillStore

structure SkillRelayContext where
  (skillID skillVersionID : String)
  userID : Int
  isKidsSession : Bool
  plan : RequiredPlan
  subActive : Bool
  skill : Skill
  skillVersion : Option SkillVersion
  entryPoint : String := ""

def deprecatedRuntimeEnabled : Bool := true

def resolveUser (store : SkillStore) (userID : Int) (airbotixUser : Option User) :
    Except SkillError User :=
  let user : Except SkillError User := match airbotixUser with
    | some user => .ok user
    | none =>
      match store.user userID with
      | .ok (some user) => .ok user
      | .ok none => .error .authRequired
      | .error _ => .error .skillInternalError
  match user with
  | .error code => .error code
  | .ok user => if user.status = userStatusDisabled then .error .authRequired else .ok user

def loadSkill (store : SkillStore) (skillID : String) : Except SkillError Skill :=
  match store.skill skillID with
  | .ok (some skill) => .ok skill.selected
  | .ok none => .error .skillNotFound
  | .error _ => .error .skillInternalError

/-- The lifecycle gate. Only a skill that could run has its enablement looked up. -/
def resolveLifecycle (store : SkillStore) (userID : Int) (skill : Skill) : Except SkillError Unit :=
  let hasActiveVersion := skill.activeVersionID.isSome
  let enabled : Except String Bool :=
    if hasActiveVersion && (decide (skill.status = .published) ||
        (deprecatedRuntimeEnabled && decide (skill.status = .deprecated))) then
      store.userSkillEnabled userID skill.id
    else .ok false
  match enabled with
  | .error _ => .error .skillInternalError
  | .ok enabled =>
    match lifecycleEnabledDecision skill.status hasActiveVersion enabled deprecatedRuntimeEnabled with
    | some code => .error code
    | none => .ok ()

def selectVersion (skill : Skill) (skillVersionID : String) : Except SkillError String :=
  let selected := trimSpace skillVersionID
  let selected := if selected = "" then skill.activeVersionID else some selected
  match selected with
  | none => .error .skillNotPublished
  | some selected => if trimSpace selected = "" then .error .skillNotPublished else .ok selected

def loadActiveVersion (store : SkillStore) (skill : Skill) (versionID : String) :
    Except SkillError SkillVersion :=
  match store.activeVersion versionID skill.id with
  | .ok (some version) => .ok version
  | .ok none => .error .skillNotPublished
  | .error _ => .error .skillInternalError

def resolveUseTime (store : SkillStore) (userID : Int) (user : User) (skill : Skill)
    (version : SkillVersion) : Except SkillError RuntimeEntitlement :=
  match store.hasOneTimeEntitlement userID skill.id, store.activeUpgradeGroups userID with
  | .ok hasOneTimeEntitlement, .ok upgradeGroups =>
    let entitlement := resolveRuntimeEntitlement upgradeGroups user.group
    match useTimeTierDecision version.requiredPlanSnapshot entitlement.plan entitlement.subActive
        skill.monetizationType hasOneTimeEntitlement with
    | some code => .error code
    | none => .ok entitlement
  | _, _ => .error .skillInternalError

def resolveVersion (database : Option SkillStore) (userID : Int) (airbotixUser : Option User)
    (skillID skillVersionID : String) : Except SkillError SkillRelayContext :=
  if userID = 0 then .error .authRequired
  else
    match database, airbotixUser with
    | none, some user =>
      if user.status = userStatusDisabled then .error .authRequired else .error .skillInternalError
    | none, none => .error .skillInternalError
    | some store, airbotixUser => do
      let user ← resolveUser store userID airbotixUser
      let skill ← loadSkill store skillID
      resolveLifecycle store userID skill
      let selectedVersionID ← selectVersion skill skillVersionID
      let version ← loadActiveVersion store skill selectedVersionID
      let entitlement ← resolveUseTime store userID user skill version
      let skillVersion ← loadActiveVersion store skill selectedVersionID
      if trimSpace skillVersion.instructionTemplate = "" then .error .skillInternalError
      else .ok { skillID
                 skillVersionID := skillVersion.id
                 userID
                 isKidsSession := user.kidsMode
                 plan := entitlement.plan
                 subActive := entitlement.subActive
                 skill
                 skillVersion := some skillVersion }

def resolve (database : Option SkillStore) (userID : Int) (airbotixUser : Option User)
    (skillID : String) : Except SkillError SkillRelayContext :=
  resolveVersion database userID airbotixUser skillID ""

end DeepRouter.Skills

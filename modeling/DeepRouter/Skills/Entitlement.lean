import DeepRouter.Library.GoStrings

/-! # Entitlement to a skill -/

namespace DeepRouter.Skills

inductive SkillError where
  | invalidRequest
  | authRequired
  | skillNotFound
  | skillNotPublished
  | skillNotEnabled
  | skillPlanRequired
  | skillSubscriptionInactive
  | skillQuotaExceeded
  | skillKidsModeBlocked
  | skillInternalError
deriving DecidableEq

namespace SkillError

def code : SkillError → String
  | .invalidRequest => "INVALID_REQUEST"
  | .authRequired => "AUTH_REQUIRED"
  | .skillNotFound => "SKILL_NOT_FOUND"
  | .skillNotPublished => "SKILL_NOT_PUBLISHED"
  | .skillNotEnabled => "SKILL_NOT_ENABLED"
  | .skillPlanRequired => "SKILL_PLAN_REQUIRED"
  | .skillSubscriptionInactive => "SKILL_SUBSCRIPTION_INACTIVE"
  | .skillQuotaExceeded => "SKILL_QUOTA_EXCEEDED"
  | .skillKidsModeBlocked => "SKILL_KIDS_MODE_BLOCKED"
  | .skillInternalError => "SKILL_INTERNAL_ERROR"

def httpStatusFor : SkillError → Int
  | .invalidRequest => 400
  | .authRequired => 401
  | .skillNotFound => 404
  | .skillQuotaExceeded => 429
  | .skillInternalError => 500
  | _ => 403

end SkillError

inductive RequiredPlan where
  | free
  | pro
  | enterprise
  | other (name : String)
deriving DecidableEq

def RequiredPlan.valid : RequiredPlan → Bool
  | .other _ => false
  | _ => true

inductive MonetizationType where
  | unset
  | free
  | planIncluded
  | tokenMarkup
  | oneTime
  | plusExclusive
  | other (name : String)
deriving DecidableEq

inductive SkillStatus where
  | draft
  | published
  | deprecated
  | archived
  | other (name : String)
deriving DecidableEq

def planLevel : RequiredPlan → Int
  | .free => 0
  | .pro => 1
  | .enterprise => 2
  | .other _ => -1

def planSatisfied (required user : RequiredPlan) : Bool :=
  decide (planLevel required ≤ planLevel user)

structure EntitlementInput where
  requiredPlan : RequiredPlan
  monetizationType : MonetizationType
  userPlan : RequiredPlan
  (subscriptionActive hasOneTimeEntitlement : Bool)

def activePlus (plan : RequiredPlan) (subscriptionActive : Bool) : Bool :=
  subscriptionActive && decide (planLevel .pro ≤ planLevel plan)

def resolveEntitlement (input : EntitlementInput) : Option SkillError :=
  let monetization :=
    if input.monetizationType = .unset then .planIncluded else input.monetizationType
  match input.requiredPlan.valid && input.userPlan.valid, monetization with
  | false, _ => some .skillInternalError
  | true, .other _ => some .skillInternalError
  | true, .unset => some .skillInternalError
  | true, monetization =>
    if monetization = .oneTime && input.hasOneTimeEntitlement then none
    else if !planSatisfied input.requiredPlan input.userPlan then some .skillPlanRequired
    else if input.requiredPlan ≠ .free && !input.subscriptionActive then
      some .skillSubscriptionInactive
    else
      match monetization with
      | .oneTime =>
        if activePlus input.userPlan input.subscriptionActive then none else some .skillPlanRequired
      | .plusExclusive =>
        if !planSatisfied .pro input.userPlan then some .skillPlanRequired
        else if !input.subscriptionActive then some .skillSubscriptionInactive
        else none
      | _ => none

/-! ## What the marketplace shows -/

inductive CTA where
  | use
  | enable
  | upgrade
  | renew
  | contactSales
  | login
  | unavailable
deriving DecidableEq

structure Availability where
  enabled : Option Bool := none
  executable : Bool := false
  locked : Bool
  lockCode : Option SkillError := none
  cta : CTA
deriving DecidableEq

structure SkillInfo where
  status : SkillStatus
  requiredPlan : RequiredPlan
  (isKidsSafe isKidsExclusive : Bool)
  freeQuotaPerMonth : Option Int
  monetizationType : MonetizationType

structure UserInfo where
  isAnonymous : Bool := false
  isKidsSession : Bool
  plan : RequiredPlan
  subActive : Bool
  quotaUsed : Int
  (isEnabled hasOneTimeEntitlement : Bool)

def quotaExhausted (skill : SkillInfo) (user : UserInfo) : Bool :=
  match skill.freeQuotaPerMonth with
  | some quota => decide (quota ≤ user.quotaUsed)
  | none => false

def availabilityResolve (skill : SkillInfo) (user : UserInfo) : Availability :=
  if user.isAnonymous then { locked := true, lockCode := some .authRequired, cta := .login }
  else
    let enabled := some user.isEnabled
    if user.isKidsSession && !skill.isKidsSafe then
      { enabled, locked := true, lockCode := some .skillKidsModeBlocked, cta := .unavailable }
    else if !user.isKidsSession && skill.isKidsExclusive then
      { enabled, locked := true, lockCode := some .skillKidsModeBlocked, cta := .unavailable }
    else if skill.status = .archived ∨ skill.status = .draft ∨
        (skill.status = .deprecated ∧ !user.isEnabled) then
      { enabled, locked := true, lockCode := some .skillNotPublished, cta := .unavailable }
    else
      let monetizationType :=
        if skill.monetizationType = .unset then .planIncluded else skill.monetizationType
      match resolveEntitlement
          { requiredPlan := skill.requiredPlan
            monetizationType
            userPlan := user.plan
            subscriptionActive := user.subActive
            hasOneTimeEntitlement := user.hasOneTimeEntitlement } with
      | some code =>
        { enabled, locked := true, lockCode := some code
          cta := if code = .skillSubscriptionInactive then .renew
            else if skill.requiredPlan = .enterprise then .contactSales
            else .upgrade }
      | none =>
        if !user.isEnabled then
          { enabled := some false, locked := true, lockCode := some .skillNotEnabled, cta := .enable }
        else if quotaExhausted skill user then
          { enabled, locked := true, lockCode := some .skillQuotaExceeded, cta := .upgrade }
        else { enabled := some true, executable := true, locked := false, cta := .use }

/-! ## What the relay asks for -/

def groupToPlan (group : String) : RequiredPlan :=
  if group = "pro" then .pro else if group = "enterprise" then .enterprise else .free

structure RuntimeEntitlement where
  plan : RequiredPlan
  subActive : Bool

structure ActiveSubscriptionPlan where
  plan : RequiredPlan := .free
  hasActiveSub : Bool
  hasPaidPlan : Bool := false

def activeSubscriptionPlan (upgradeGroups : List String) : ActiveSubscriptionPlan :=
  upgradeGroups.foldl (fun result upgradeGroup =>
      let plan := groupToPlan upgradeGroup
      if plan = .free then result
      else { result with
        hasPaidPlan := true
        plan := if planLevel result.plan < planLevel plan then plan else result.plan })
    { hasActiveSub := decide (0 < upgradeGroups.length) }

def resolveRuntimeEntitlement (upgradeGroups : List String) (userGroup : String) :
    RuntimeEntitlement :=
  let groupPlan := groupToPlan userGroup
  let active := activeSubscriptionPlan upgradeGroups
  if active.hasPaidPlan then ⟨active.plan, true⟩
  else if active.hasActiveSub then ⟨groupPlan, true⟩
  else ⟨groupPlan, decide (groupPlan = .free)⟩

def lifecycleEnabledDecision (status : SkillStatus) (hasActiveVersion enabled allowDeprecated : Bool) :
    Option SkillError :=
  if !hasActiveVersion then some .skillNotPublished
  else
    match status with
    | .published => if enabled then none else some .skillNotEnabled
    | .deprecated => if allowDeprecated && enabled then none else some .skillNotPublished
    | _ => some .skillNotPublished

def useTimeTierDecision (required userPlan : RequiredPlan) (subActive : Bool)
    (monetization : MonetizationType) (hasOneTimeEntitlement : Bool) : Option SkillError :=
  resolveEntitlement
    { requiredPlan := required
      monetizationType := monetization
      userPlan
      subscriptionActive := subActive
      hasOneTimeEntitlement }

end DeepRouter.Skills

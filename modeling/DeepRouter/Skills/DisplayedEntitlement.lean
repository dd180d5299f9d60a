import DeepRouter.Library.Atomic
import DeepRouter.Skills.Resolver

/-! # Execution and the displayed entitlement -/

namespace DeepRouter.Skills

open Atomic

def SkillStore.displayed (store : SkillStore) (userID : Int) (user : User) (skill : Skill)
    (version : SkillVersion) (quotaUsed : Int) : Availability :=
  let entitlement :=
    resolveRuntimeEntitlement ((store.activeUpgradeGroups userID).toOption.getD []) user.group
  availabilityResolve
    { status := skill.status
      requiredPlan := version.requiredPlanSnapshot
      isKidsSafe := skill.isKidsSafe
      isKidsExclusive := skill.isKidsExclusive
      freeQuotaPerMonth := skill.freeQuotaPerMonth
      monetizationType := skill.monetizationType }
    { isKidsSession := user.kidsMode
      plan := entitlement.plan
      subActive := entitlement.subActive
      quotaUsed
      isEnabled := (store.userSkillEnabled userID skill.id).toOption.getD false
      hasOneTimeEntitlement := (store.hasOneTimeEntitlement userID skill.id).toOption.getD false }

section

variable {store : SkillStore} {userID : Int} {user : User} {skill : Skill}

theorem loadSkill_eq_ok {sid : String} (h : loadSkill store sid = .ok skill) :
    ∃ row, store.skill sid = .ok (some row) ∧ skill = row.selected := by
  simp only [loadSkill] at h
  split at h
  · rename_i row hr
    cases h
    exact ⟨row, hr, rfl⟩
  · cases h
  · cases h

theorem resolveLifecycle_ok (h : resolveLifecycle store userID skill = .ok ()) :
    (skill.status = .published ∨ skill.status = .deprecated) ∧
      store.userSkillEnabled userID skill.id = .ok true := by
  simp only [resolveLifecycle] at h
  split at h
  · cases h
  rename_i enabled he
  split at h
  · cases h
  rename_i hd
  -- an unenabled skill, or one that is neither published nor deprecated, is refused
  cases hv : skill.activeVersionID.isSome <;> cases hs : skill.status <;>
    cases enabled <;>
    simp_all [lifecycleEnabledDecision, deprecatedRuntimeEnabled]

theorem resolveUseTime_ok {v : SkillVersion} {entitlement : RuntimeEntitlement}
    (h : resolveUseTime store userID user skill v = .ok entitlement) :
    ∃ oneTime groups, store.hasOneTimeEntitlement userID skill.id = .ok oneTime ∧
      store.activeUpgradeGroups userID = .ok groups ∧
      entitlement = resolveRuntimeEntitlement groups user.group ∧
      useTimeTierDecision v.requiredPlanSnapshot entitlement.plan entitlement.subActive
        skill.monetizationType oneTime = none := by
  simp only [resolveUseTime] at h
  split at h
  · rename_i oneTime groups ho hg
    split at h
    · cases h
    · rename_i hd
      cases h
      exact ⟨oneTime, groups, ho, hg, rfl, hd⟩
  · cases h

theorem resolveVersion_ok {airbotixUser : Option User} {sid vid : String} {ctx : SkillRelayContext}
    (h : resolveVersion (some store) userID airbotixUser sid vid = .ok ctx) :
    ∃ user skill version, resolveUser store userID airbotixUser = .ok user ∧
      loadSkill store sid = .ok skill ∧ ctx.skillVersion = some version ∧
      resolveLifecycle store userID skill = .ok () ∧
      ∃ entitlement, resolveUseTime store userID user skill version = .ok entitlement := by
  simp only [resolveVersion] at h
  split at h
  · cases h
  simp only [bind_eq_ok] at h
  obtain ⟨user, hu, skill, hs, ⟨⟩, hl, vid, -, version, hVersion,
    entitlement, hus, version', hVersion', h⟩ := h
  split at h
  · cases h
  · cases h
    cases hVersion.symm.trans hVersion'
    exact ⟨user, skill, version, hu, hs, rfl, hl, entitlement, hus⟩

end

def PassesGates (user : User) (skill : Skill) (quotaUsed : Int) : Prop :=
  (user.kidsMode = true → skill.isKidsSafe = true) ∧
    (user.kidsMode = false → skill.isKidsExclusive = false) ∧
    ∀ quota, skill.freeQuotaPerMonth = some quota → quotaUsed < quota

theorem resolveEntitlement_unset (input : EntitlementInput) :
    resolveEntitlement { input with monetizationType :=
      if input.monetizationType = .unset then .planIncluded else input.monetizationType } =
      resolveEntitlement input := by
  by_cases h : input.monetizationType = .unset
  · simp [resolveEntitlement, h]
  · simp [resolveEntitlement, h]

theorem availabilityResolve_covered {skill : SkillInfo} {user : UserInfo}
    (ha : user.isAnonymous = false) (hEn : user.isEnabled = true)
    (hs : skill.status = .published ∨ skill.status = .deprecated)
    (ht : useTimeTierDecision skill.requiredPlan user.plan user.subActive skill.monetizationType
      user.hasOneTimeEntitlement = none) :
    (availabilityResolve skill user).locked = false ∧
        (availabilityResolve skill user).executable = true ↔
      (user.isKidsSession = true → skill.isKidsSafe = true) ∧
        (user.isKidsSession = false → skill.isKidsExclusive = false) ∧
        quotaExhausted skill user = false := by
  have ht := (resolveEntitlement_unset _).trans ht
  have hl : ¬(skill.status = .archived ∨ skill.status = .draft ∨
      (skill.status = .deprecated ∧ (!user.isEnabled) = true)) := by
    rcases hs with h | h <;> simp [h, hEn]
  simp only [availabilityResolve, ht, if_neg hl]
  cases hk : user.isKidsSession <;> cases hsa : skill.isKidsSafe <;>
    cases he : skill.isKidsExclusive <;> cases hq : quotaExhausted skill user <;>
    simp [ha, hEn]

/-- What runs is shown as executable just when it passes the gates that the relay leaves out. -/
theorem executed_within_displayed_iff (store : SkillStore) (userID : Int) (airbotixUser : Option User)
    (skillID versionID : String) (ctx : SkillRelayContext)
    (h : resolveVersion (some store) userID airbotixUser skillID versionID = .ok ctx)
    (quotaUsed : Int) :
    ∃ user skill version, resolveUser store userID airbotixUser = .ok user ∧
      store.skill skillID = .ok (some skill) ∧ ctx.skillVersion = some version ∧
      ((store.displayed userID user skill version quotaUsed).locked = false ∧
          (store.displayed userID user skill version quotaUsed).executable = true ↔
        PassesGates user skill quotaUsed) := by
  obtain ⟨user, selected, version, hu, hsk, hv, hl, entitlement, hus⟩ := resolveVersion_ok h
  obtain ⟨skill, hr, rfl⟩ := loadSkill_eq_ok hsk
  obtain ⟨hs, he⟩ := resolveLifecycle_ok hl
  obtain ⟨oneTime, groups, ho, hg, rfl, ht⟩ := resolveUseTime_ok hus
  refine ⟨user, skill, version, hu, hr, hv, ?_⟩
  simp only [Skill.selected] at hs he ho ht
  simp only [SkillStore.displayed, he, ho, hg, Except.toOption, Option.getD_some]
  rw [availabilityResolve_covered rfl rfl hs ht, PassesGates, quotaExhausted]
  cases skill.freeQuotaPerMonth <;> simp

/-! ## A skill that children may not run -/

def storySkill : Skill where
  id := "story"
  status := .published
  requiredPlan := .free
  monetizationType := .free
  activeVersionID := some "v1"
  isKidsSafe := false
  isKidsExclusive := false
  freeQuotaPerMonth := some 10

def storyVersion : SkillVersion where
  id := "v1"
  skillID := "story"
  status := .active
  instructionTemplate := "Tell a story."
  modelWhitelistSnapshot := some (.arr [.str "gpt-4o"])
  requiredPlanSnapshot := .free

def storyStore : SkillStore where
  user _ := .ok none
  skill _ := .ok (some storySkill)
  enabledSkill _ _ := .ok (some true)
  version _ := .ok (some storyVersion)
  oneTimePurchases _ _ := .ok 0
  activeUpgradeGroups _ := .ok []

def storyUser (kidsMode : Bool) : User where
  id := 1
  group := "default"
  kidsMode := kidsMode
  status := 1

def storyContext (kidsMode : Bool) : SkillRelayContext where
  skillID := "story"
  skillVersionID := "v1"
  userID := 1
  isKidsSession := kidsMode
  plan := .free
  subActive := true
  skill := storySkill.selected
  skillVersion := some storyVersion

theorem storyStore_resolve (kidsMode : Bool) :
    resolve (some storyStore) 1 (some (storyUser kidsMode)) "story" = .ok (storyContext kidsMode) := by
  cases kidsMode <;> rfl

theorem executed_within_displayed_iff_adult :
    ∃ user skill version, resolveUser storyStore 1 (some (storyUser false)) = .ok user ∧
      storyStore.skill "story" = .ok (some skill) ∧
      (storyContext false).skillVersion = some version ∧
      ((storyStore.displayed 1 user skill version 3).locked = false ∧
          (storyStore.displayed 1 user skill version 3).executable = true ↔
        PassesGates user skill 3) :=
  executed_within_displayed_iff storyStore 1 (some (storyUser false)) "story" "" (storyContext false)
    (storyStore_resolve false) 3

theorem executed_though_kids_mode_blocked :
    resolve (some storyStore) 1 (some (storyUser true)) "story" = .ok (storyContext true) ∧
      storyStore.displayed 1 (storyUser true) storySkill storyVersion 0 =
        { enabled := some true, executable := false, locked := true
          lockCode := some .skillKidsModeBlocked, cta := .unavailable } :=
  ⟨storyStore_resolve true, by decide⟩

end DeepRouter.Skills

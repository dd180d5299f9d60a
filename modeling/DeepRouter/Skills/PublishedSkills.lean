import DeepRouter.Skills.VersionBookkeeping

/-! # A published skill can be executed -/

namespace DeepRouter.Skills

open GoStrings Atomic KeyedTable Runs Relay List Table

structure ExecutableWith (skill : AdminSkill) (version : AdminVersion) : Prop where
  pointer : skill.activeVersionID = some version.id
  own : version.skillID = skill.id
  active : version.status = .active
  checklist : publishChecklistPassed (buildPublishChecklist skill (some version)) = true
  applies : ∀ (database : SkillStore) (ctx : SkillRelayContext) (request : GeneralOpenAIRequest),
    ctx.skillVersion = some version.toSkillVersion → lastUserText request.messages ≠ "" →
      ∃ bound rewritten, loadAndApply (some database) ctx request = .ok (bound, rewritten) ∧
        trimSpace rewritten.model ≠ ""

def AdminStore.PublishedExecutable (store : AdminStore) : Prop :=
  ∀ skill ∈ store.skills.rows, skill.status = .published →
    ∃ version ∈ store.versions.rows, ExecutableWith skill version

def firstModelNamed (whitelist : Option Json) : Bool :=
  match parseModelWhitelist whitelist with
  | some models => (models.find? fun model => model ≠ "").any fun model => trimSpace model ≠ ""
  | none => false

def namesIcon : Json → Bool
  | .str text => trimSpace text ≠ ""
  | _ => false

/-- What the request sets still passes the checklist. -/
@[mk_iff] structure KeepsChecklist (skill : AdminSkill) (version : AdminVersion)
    (request : PatchSkillRequest) : Prop where
  iconURL : ∀ icon ∈ request.iconURL, namesIcon icon = true
  tags : ∀ tags ∈ request.tags, jsonArrayHasNonEmptyString (normalizeJSONPatchValue tags) = true
  exampleInputs : ∀ inputs ∈ request.exampleInputs,
    jsonArrayHasAny (normalizeJSONPatchValue inputs) = true
  exampleOutputs : ∀ outputs ∈ request.exampleOutputs,
    jsonArrayHasAny (normalizeJSONPatchValue outputs) = true
  modelWhitelist : ∀ models ∈ request.modelWhitelist,
    jsonArrayHasNonEmptyString (normalizeJSONPatchValue models) = true
  maxInputTokens : request.needsLimit skill = true →
    let tokens := (request.maxInputTokens.map jsonInt).getD skill.maxInputTokens
    tokens.isSome = true ∧ tokens = version.maxInputTokensSnapshot

instance (skill : AdminSkill) (version : AdminVersion) (request : PatchSkillRequest) :
    Decidable (KeepsChecklist skill version request) :=
  decidable_of_iff' _ (keepsChecklist_iff skill version request)

/-- The request leaves the published skills with a version that can be executed. -/
def KeepsExecutable (store : AdminStore) : AdminOp → Prop
  | .publishSkill skillID _ _ => ∀ skill ∈ store.skills.find? skillID,
      ∀ version ∈ loadActivePublishVersion store skill,
        firstModelNamed version.modelWhitelistSnapshot = true
  | .activateVersion skillID versionID _ => ∀ skill ∈ store.skills.find? skillID,
      skill.status = .published → ∀ version ∈ store.versions.find? versionID,
        firstModelNamed version.modelWhitelistSnapshot = true
  | .patchSkill skillID request => ∀ skill ∈ store.skills.find? skillID,
      skill.status = .published → ∀ version ∈ store.versions.rows,
        skill.activeVersionID = some version.id → KeepsChecklist skill version request
  | _ => True

instance (store : AdminStore) (op : AdminOp) : Decidable (KeepsExecutable store op) := by
  unfold KeepsExecutable
  split <;> infer_instance

variable {skill : AdminSkill} {version : AdminVersion}

theorem publishChecklistPassed_iff :
    publishChecklistPassed (buildPublishChecklist skill (some version)) = true ↔
      publishRequiredMetadataComplete skill = true ∧
      (jsonArrayHasAny skill.exampleInputs = true ∧ jsonArrayHasAny skill.exampleOutputs = true) ∧
      (skill.requiredPlan.valid = true ∧ skill.monetizationType.valid = true) ∧
      (jsonArrayHasNonEmptyString skill.modelWhitelist = true ∧
        version.modelWhitelistSnapshot.any jsonArrayHasNonEmptyString = true) ∧
      publishMaxInputTokensSnapshotValid skill version = true ∧
      versionInstructionsPublishReady version = true := by
  simp only [publishChecklistPassed, buildPublishChecklist, checklistItem, all_cons,
    all_nil, Bool.and_eq_true, Option.isSome_some, Option.bind_some, Option.any_some, true_and,
    and_true]

theorem publishRequiredMetadataComplete_iff :
    publishRequiredMetadataComplete skill = true ↔
      trimSpace skill.name ≠ "" ∧ trimSpace skill.shortDescription ≠ "" ∧
      trimSpace skill.description ≠ "" ∧ trimSpace skill.category ≠ "" ∧
      skill.iconURL.any (fun url => decide (trimSpace url ≠ "")) = true ∧
      jsonArrayHasNonEmptyString skill.tags = true := by
  simp [publishRequiredMetadataComplete, and_assoc]

theorem selectModel_named {models : List String} {first : String}
    (hf : models.find? (fun model => decide (model ≠ "")) = some first)
    (hn : trimSpace first ≠ "") :
    ∃ model, selectModel models = .ok model ∧ trimSpace model ≠ "" := by
  induction models with
  | nil => cases hf
  | cons entry models ih =>
    rw [selectModel]
    by_cases hem : entry = ""
    · rw [if_pos hem]
      apply ih
      rw [find?_cons] at hf
      simpa [hem] using hf
    · rw [find?_cons] at hf
      have he : entry = first := by simpa [hem] using hf
      subst he
      rw [if_neg hem]
      refine ⟨_, rfl, ?_⟩
      cases hti : tierResolution.lookup entry with
      | none => exact hn
      | some resolved =>
        have hv : ∀ tier ∈ tierResolution, trimSpace tier.2 ≠ "" := by decide +kernel
        obtain ⟨before, after, ht, _⟩ := lookup_eq_some_iff.mp hti
        refine hv (entry, resolved) ?_
        rw [ht]
        exact mem_append_right before mem_cons_self

theorem firstModelNamed_iff {whitelist : Option Json} :
    firstModelNamed whitelist = true ↔ ∃ models first, parseModelWhitelist whitelist = some models ∧
      models.find? (fun model => decide (model ≠ "")) = some first ∧ trimSpace first ≠ "" := by
  unfold firstModelNamed
  cases parseModelWhitelist whitelist with
  | none => simp
  | some models => simp [Option.any_eq_true]

theorem applies_of_firstModelNamed
    (h : firstModelNamed version.modelWhitelistSnapshot = true) (database : SkillStore)
    (ctx : SkillRelayContext) (req : GeneralOpenAIRequest)
    (hv : ctx.skillVersion = some version.toSkillVersion) (ht : lastUserText req.messages ≠ "") :
    ∃ bound rewritten, loadAndApply (some database) ctx req = .ok (bound, rewritten) ∧
      trimSpace rewritten.model ≠ "" := by
  obtain ⟨models, first, hmo, hf, hn⟩ := firstModelNamed_iff.mp h
  obtain ⟨model, hMod, hb⟩ := selectModel_named hf hn
  have hs : loadSnapshot ctx = .ok ⟨version.id, version.instructionTemplate, models⟩ := by
    rw [loadSnapshot, hv]
    dsimp only
    rw [hmo]
  obtain ⟨rewritten, hr, hm⟩ :
      ∃ rewritten, rewriteForSingleTurn req version.instructionTemplate model = .ok rewritten ∧
        rewritten.model = model := by
    rw [rewriteForSingleTurn, if_neg ht]
    exact ⟨_, rfl, rfl⟩
  refine ⟨{ ctx with skillVersionID := version.id }, rewritten, ?_, ?_⟩
  · simp only [loadAndApply, bind_eq_ok]
    exact ⟨_, hs, model, hMod, rewritten, hr, rfl⟩
  · rw [hm]
    exact hb

theorem hasNonEmptyString_of_firstModelNamed {whitelist : Option Json}
    (h : firstModelNamed whitelist = true) : whitelist.any jsonArrayHasNonEmptyString = true := by
  obtain ⟨models, first, hm, hf, hn⟩ := firstModelNamed_iff.mp h
  cases whitelist with
  | none =>
    cases hm
    cases hf
  | some raw =>
    rw [Option.any_some, jsonArrayHasNonEmptyString, hm]
    exact any_eq_true.mpr ⟨first, mem_of_find?_eq_some hf, decide_eq_true_eq.mpr hn⟩

theorem ExecutableWith.published {store : AdminStore}
    (hv : loadActivePublishVersion store skill = some version)
    (hc : publishChecklistPassed (buildPublishChecklist skill (some version)) = true)
    (hn : firstModelNamed version.modelWhitelistSnapshot = true) :
    ExecutableWith (skill.publishedWith version.id) version := by
  obtain ⟨_, _, ho, ha⟩ := loadActivePublishVersion_some hv
  exact ⟨rfl, ho, ha, hc, applies_of_firstModelNamed hn⟩

theorem ExecutableWith.activated {old version : AdminVersion}
    (h : ExecutableWith skill old) (ho : version.skillID = skill.id)
    (ht : publishMaxInputTokensSnapshotValid skill version = true)
    (hr : versionInstructionsPublishReady version = true)
    (hn : firstModelNamed version.modelWhitelistSnapshot = true) :
    ExecutableWith (skill.pointedTo version.id) version.activated := by
  obtain ⟨hm, he, hp, ⟨hmo, _⟩, _, _⟩ := publishChecklistPassed_iff.mp h.checklist
  refine ⟨rfl, ho, rfl, publishChecklistPassed_iff.mpr ?_, applies_of_firstModelNamed hn⟩
  exact ⟨hm, he, hp, ⟨hmo, hasNonEmptyString_of_firstModelNamed hn⟩, ht, hr⟩

theorem patched_column {value : Option Json} {old : Json} {P : Json → Bool}
    (h : ∀ raw ∈ value, P (normalizeJSONPatchValue raw) = true) (ho : P old = true) :
    P ((value.map normalizeJSONPatchValue).getD old) = true := by
  cases value with
  | none => exact ho
  | some raw => exact h raw rfl

theorem patched_icon {icon : Option Json} {old value : Option String}
    (h : patchField icon old (nullableStringPatchValue "INVALID_ICON_URL") = .ok value)
    (hi : ∀ raw ∈ icon, namesIcon raw = true)
    (ho : old.any (fun url => decide (trimSpace url ≠ "")) = true) :
    value.any (fun url => decide (trimSpace url ≠ "")) = true := by
  obtain ⟨_, rfl⟩ | ⟨raw, rfl, hc⟩ := patchField_eq_ok.mp h
  · exact ho
  have hn := hi raw rfl
  cases raw with
  | str text =>
    have ht : trimSpace text ≠ "" := decide_eq_true_eq.mp hn
    simp only [nullableStringPatchValue, if_neg ht, Except.ok.injEq] at hc
    rw [← hc, Option.any_some, trimSpace_trimSpace]
    exact decide_eq_true_eq.mpr ht
  | _ => cases hn

theorem ExecutableWith.patched {skill updated : AdminSkill}
    {req : PatchSkillRequest} (h : ExecutableWith skill version)
    (hpa : buildSkillPatchUpdates skill req = .ok updated)
    (hk : KeepsChecklist skill version req) : ExecutableWith updated version := by
  have hp := buildSkillPatchUpdates_ok hpa
  obtain ⟨hm, he, hpl, hmo, _, hr⟩ := publishChecklistPassed_iff.mp h.checklist
  obtain ⟨hn, hs, hd, hc, hi, ht⟩ := publishRequiredMetadataComplete_iff.mp hm
  refine ⟨hp.activeVersionID.trans h.pointer, h.own.trans hp.id.symm, h.active,
    publishChecklistPassed_iff.mpr ⟨?_, ⟨?_, ?_⟩, ⟨?_, ?_⟩, ⟨?_, hmo.2⟩, ?_, hr⟩, h.applies⟩
  · refine publishRequiredMetadataComplete_iff.mpr ⟨hp.name hn,
      hp.shortDescription hs, hp.description hd,
      hp.category hc, patched_icon hp.iconURL hk.iconURL hi, ?_⟩
    rw [hp.tags]
    exact patched_column hk.tags ht
  · rw [hp.exampleInputs]
    exact patched_column hk.exampleInputs he.1
  · rw [hp.exampleOutputs]
    exact patched_column hk.exampleOutputs he.2
  · exact hp.requiredPlan hpl.1
  · exact hp.monetizationType hpl.2
  · rw [hp.modelWhitelist]
    exact patched_column hk.modelWhitelist hmo.1
  · rw [publishMaxInputTokensSnapshotValid, hp.needsLimit, hp.maxInputTokens]
    by_cases hl : req.needsLimit skill = true
    · obtain ⟨hs, hv⟩ := hk.maxInputTokens hl
      rw [hs, decide_eq_true hv, Bool.and_self, Bool.or_true]
    · simp [hl]

theorem afterActivation_of_ne {sid vid : String}
    (h : version.skillID ≠ sid) : version.afterActivation sid vid = version :=
  if_neg h

theorem afterActivation_self {sid vid : String}
    (ho : version.skillID = sid) (hi : version.id = vid) :
    version.afterActivation sid vid = version.activated := by
  rw [AdminVersion.afterActivation, if_pos ho, if_pos hi]

theorem AdminStore.PublishedExecutable.step {store : AdminStore} {op : AdminOp}
    (h : store.PublishedExecutable) (hk : KeepsExecutable store op) :
    (store.step op).PublishedExecutable := by
  have hm := store.step_moves op
  generalize store.step op = after at hm
  intro skill hsk hSt
  cases hm with
  | refused op => exact h skill hsk hSt
  | created request id skills hi =>
    obtain hol | rfl := (mem_insert? hi).mp hsk
    · exact h skill hol hSt
    · cases hSt
  | versioned skillID request columns ids id owner versions ht hf hi =>
    obtain ⟨version, hVer, he⟩ := h skill hsk hSt
    exact ⟨version, (mem_insert? hi).mpr (.inl hVer), he⟩
  | patched skillID request current updated hf hp =>
    obtain ⟨hol, _⟩ | ⟨rfl, _⟩ := mem_save.mp hsk
    · exact h skill hol hSt
    have hpa := buildSkillPatchUpdates_ok hp
    have hc : current.status = .published := hpa.status.symm.trans hSt
    obtain ⟨version, hVer, he⟩ := h current (mem_of_find? hf) hc
    exact ⟨version, hVer, he.patched hp (hk current hf hc version hVer he.pointer)⟩
  | published skillID reason packageFails draft version hf hd hVer hch =>
    obtain ⟨hol, _⟩ | ⟨rfl, _⟩ := mem_save.mp hsk
    · exact h skill hol hSt
    · have hr := (loadActivePublishVersion_some hVer).2.1
      exact ⟨version, mem_of_find? hr, .published hVer hch (hk draft hf version hVer)⟩
  | activated skillID versionID packageFails owner version hf hVer hOwn hto hre =>
    obtain ⟨how, ho⟩ := find?_eq_some_iff.mp hf
    obtain ⟨hve, hv⟩ := find?_eq_some_iff.mp hVer
    obtain ⟨hol, hot⟩ | ⟨rfl, _⟩ := mem_save.mp hsk
    · obtain ⟨row, hr, he⟩ := h skill hol hSt
      have hNe : row.skillID ≠ skillID := by
        rw [he.own]
        exact fun hs => hot (hs.trans ho.symm)
      exact ⟨row, mem_activate.mpr ⟨row, hr, afterActivation_of_ne hNe⟩, he⟩
    · obtain ⟨old, _, he⟩ := h owner how hSt
      have hn := hk owner hf hSt version hVer
      refine ⟨version.activated, mem_activate.mpr ⟨version, hve, afterActivation_self hOwn hv⟩, ?_⟩
      have hown : version.skillID = owner.id := hOwn.trans ho.symm
      exact hv ▸ he.activated hown hto hre hn

theorem published_skill_executable (store : AdminStore) (ops : List AdminOp)
    (hDrafts : ∀ skill ∈ store.skills.rows, skill.status ≠ .published)
    (hKeeps : Along AdminStore.step KeepsExecutable store ops) :
    (run AdminStore.step store ops).PublishedExecutable := by
  refine run_invariant (fun _ _ h ho => h.step ho) ?_ ops hKeeps
  intro skill hs hSt
  exact absurd hSt (hDrafts skill hs)

def completePatch (models : List Json) : PatchSkillRequest :=
  { tags := some (.arr [.str "notes"]), iconURL := some (.str "icon"), exampleInputs := some (.arr [.str "in"])
    exampleOutputs := some (.arr [.str "out"]), modelWhitelist := some (.arr models) }

def publishing (models : List Json) : List AdminOp :=
  [.createSkill draftRequest "s1", .patchSkill "s1" (completePatch models),
    .createVersion "s1" versionRequest ["v1"], .activateVersion "s1" "v1" false,
    .publishSkill "s1" "ready" false]

def AdminStore.audit (store : AdminStore) : List (SkillStatus × Bool × Option String) :=
  store.skills.rows.map fun skill =>
    let version := loadActivePublishVersion store skill
    let models := (version.bind fun version => parseModelWhitelist version.modelWhitelistSnapshot).getD []
    (skill.status, publishChecklistPassed (buildPublishChecklist skill version),
      (selectModel models).toOption)

theorem published_skill_executable_published :
    (run AdminStore.step noSkills (publishing [.str "gpt-4o"])).audit =
        [(.published, true, some "gpt-4o")] ∧
      (run AdminStore.step noSkills (publishing [.str "gpt-4o"])).PublishedExecutable :=
  ⟨by decide +kernel,
    published_skill_executable noSkills (publishing [.str "gpt-4o"])
      (fun _ h => absurd h not_mem_nil) (by decide +kernel)⟩

theorem published_skill_not_executable :
    (run AdminStore.step noSkills (publishing [.str "gpt-4o"] ++
        [.patchSkill "s1" { tags := some .null }])).audit =
      [(.published, false, some "gpt-4o")] ∧
    (run AdminStore.step noSkills (publishing [.str "  ", .str "gpt-4o"])).audit =
      [(.published, true, some "  ")] := by
  decide +kernel

end DeepRouter.Skills

import DeepRouter.Skills.Admin

/-! # What the requests of the administration do -/

namespace DeepRouter.Skills

open GoStrings Atomic KeyedTable

inductive AdminStore.Moves (store : AdminStore) : AdminOp → AdminStore → Prop
  | refused (op : AdminOp) : Moves store op store
  | created (request : CreateSkillRequest) (id : String)
      (skills : Table fun skill : AdminSkill => skill.id)
      (hi : store.skills.insert? (request.draft id) = some skills) :
      Moves store (.createSkill request id) { store with skills }
  | patched (skillID : String) (request : PatchSkillRequest) (current updated : AdminSkill)
      (hf : store.skills.find? skillID = some current)
      (hp : buildSkillPatchUpdates current request = .ok updated) :
      Moves store (.patchSkill skillID request)
        { store with skills := store.skills.save updated }
  | versioned (skillID : String) (request : CreateSkillVersionRequest) (columns : VersionColumns)
      (ids : List String) (id : String) (skill : AdminSkill)
      (versions : Table fun version : AdminVersion => version.id)
      (ht : trimSpace request.instructionTemplate ≠ "")
      (hf : store.skills.find? skillID = some skill)
      (hi : store.versions.insert? (buildVersionFromSkill store skill request columns id) =
        some versions) :
      Moves store (.createVersion skillID request ids) { store with versions }
  | activated (skillID versionID : String) (packageFails : Bool) (skill : AdminSkill)
      (version : AdminVersion) (hs : store.skills.find? skillID = some skill)
      (hv : store.versions.find? versionID = some version)
      (ho : version.skillID = skillID)
      (hto : publishMaxInputTokensSnapshotValid skill version = true)
      (hr : versionInstructionsPublishReady version = true) :
      Moves store (.activateVersion skillID versionID packageFails)
        (store.activate skill skillID versionID)
  | published (skillID reason : String) (packageFails : Bool) (skill : AdminSkill)
      (version : AdminVersion) (hs : store.skills.find? skillID = some skill)
      (hd : skill.status = .draft)
      (hv : loadActivePublishVersion store skill = some version)
      (hc : publishChecklistPassed (buildPublishChecklist skill (some version)) = true) :
      Moves store (.publishSkill skillID reason packageFails)
        { store with skills := store.skills.save (skill.publishedWith version.id) }

variable {store after : AdminStore}

theorem createSkillVersionWithRetry_ok {sid : String} {req : CreateSkillVersionRequest}
    {cols : VersionColumns} {ids : List String}
    (h : createSkillVersionWithRetry sid req cols ids store = .ok after) :
    ∃ id, insertVersion sid req cols id store = .ok after := by
  induction ids with
  | nil => cases h
  | cons id ids ih =>
    rw [createSkillVersionWithRetry] at h
    split at h
    · exact ih h
    · exact ⟨id, h⟩

theorem insertVersion_ok {sid id : String} {req : CreateSkillVersionRequest}
    {cols : VersionColumns}
    (h : insertVersion sid req cols id store = .ok after) :
    ∃ skill versions, store.skills.find? sid = some skill ∧
      store.versions.insert? (buildVersionFromSkill store skill req cols id) =
        some versions ∧ after = { store with versions } := by
  simp only [insertVersion, bind_eq_ok, require_eq_ok] at h
  obtain ⟨skill, hf, _, _, versions, hi, ha⟩ := h
  cases ha
  exact ⟨skill, versions, hf, hi, rfl⟩

theorem AdminOp.body_moves {op : AdminOp} (h : op.body store = .ok after) :
    store.Moves op after := by
  cases op with
  | createSkill request id =>
    simp only [AdminOp.body, createAdminSkill, bind_eq_ok, require_eq_ok] at h
    obtain ⟨_, _, _, _, skills, hin, ha⟩ := h
    cases ha
    exact .created request id skills hin
  | patchSkill skillID request =>
    simp only [AdminOp.body, patchAdminSkill, bind_eq_ok, require_eq_ok, mapError_eq_ok] at h
    obtain ⟨current, hf, updated, hp, ha⟩ := h
    cases ha
    exact .patched skillID request current updated hf hp
  | createVersion skillID request ids =>
    simp only [AdminOp.body, createAdminSkillVersion, bind_eq_ok, refuseIf_eq_ok] at h
    obtain ⟨_, ht, prerequisites, _, quickstart, _, exampleIO, _, hrt⟩ := h
    obtain ⟨id, hi⟩ := createSkillVersionWithRetry_ok hrt
    obtain ⟨skill, versions, hf, hin, rfl⟩ := insertVersion_ok hi
    exact .versioned skillID request _ ids id skill versions ht hf hin
  | activateVersion skillID versionID packageFails =>
    simp only [AdminOp.body, activateAdminSkillVersion, bind_eq_ok, require_eq_ok, refuseIf_eq_ok,
      Option.filter_eq_some_iff, decide_eq_true_eq, Bool.not_eq_false] at h
    obtain ⟨skill, hs, version, ⟨hv, ho⟩, _, _, _, hto, _, hr, _, _, ha⟩ := h
    cases ha
    exact .activated skillID versionID packageFails skill version hs hv ho hto hr
  | publishSkill skillID reason packageFails =>
    simp only [AdminOp.body, publishAdminSkill, bind_eq_ok, require_eq_ok, refuseIf_eq_ok,
      Bool.not_eq_false, ne_eq, not_not] at h
    obtain ⟨_, _, skill, hs, _, hd, _, hc, version, hv, _, _, ha⟩ := h
    cases ha
    rw [hv] at hc
    exact .published skillID reason packageFails skill version hs hd hv hc

theorem AdminStore.step_moves (store : AdminStore) (op : AdminOp) :
    store.Moves op (store.step op) := by
  rw [AdminStore.step]
  split
  · rename_i after hb
    exact AdminOp.body_moves hb
  · exact .refused op

theorem patchField_eq_ok {α β : Type} {field : Option α} {old value : β}
    {check : α → Except String β} :
    patchField field old check = .ok value ↔
      (field = none ∧ value = old) ∨ ∃ raw, field = some raw ∧ check raw = .ok value := by
  cases field with
  | none => simp [patchField, eq_comm]
  | some raw => simp [patchField]

theorem checkText_ok {missing text value : String} {limit : Option (Nat × String)}
    (h : checkText missing limit text = .ok value) : trimSpace value ≠ "" := by
  simp only [checkText, bind_eq_ok, refuseIf_eq_ok] at h
  obtain ⟨_, ht, h⟩ := h
  have hv : value = trimSpace text := by
    split at h
    · cases h
      rfl
    simp only [bind_eq_ok] at h
    obtain ⟨_, _, hs⟩ := h
    cases hs
    rfl
  rw [hv, trimSpace_trimSpace]
  exact ht

variable {field : Option String}

theorem patchField_text {old value missing : String} {limit : Option (Nat × String)}
    (h : patchField field old (checkText missing limit) = .ok value) (ho : trimSpace old ≠ "") :
    trimSpace value ≠ "" := by
  obtain ⟨_, rfl⟩ | ⟨raw, _, hc⟩ := patchField_eq_ok.mp h
  · exact ho
  · exact checkText_ok hc

theorem patchField_parsed {β : Type} (parse : String → β) (valid : β → Bool) {invalid : String}
    {old value : β} (h : patchField field old (fun text => do
      let parsed := parse (trimSpace text)
      refuseIf (valid parsed = false) invalid
      pure parsed) = .ok value) :
    value = (field.map fun text => parse (trimSpace text)).getD old ∧
      (valid old = true → valid value = true) := by
  obtain ⟨rfl, rfl⟩ | ⟨raw, rfl, hc⟩ := patchField_eq_ok.mp h
  · exact ⟨rfl, id⟩
  simp only [bind_eq_ok, refuseIf_eq_ok, Bool.not_eq_false] at hc
  obtain ⟨_, hv, hs⟩ := hc
  cases hs
  exact ⟨rfl, fun _ => hv⟩

def jsonInt : Json → Option Int
  | .num value => some value.num
  | _ => none

theorem patchField_int {field : Option Json} {old value : Option Int} {invalid : String}
    {most : Int} (h : patchField field old (boundedIntPatchValue invalid most) = .ok value) :
    value = (field.map jsonInt).getD old := by
  obtain ⟨rfl, rfl⟩ | ⟨raw, rfl, hc⟩ := patchField_eq_ok.mp h
  · rfl
  simp only [boundedIntPatchValue, bind_eq_ok] at hc
  obtain ⟨number, hn, _, _, hv⟩ := hc
  cases hv
  unfold nullableIntPatchValue at hn
  split at hn
  · cases hn
    rfl
  · split at hn
    · cases hn
      rfl
    · cases hn
  · cases hn

/-- Whether a patched skill needs a token limit, read off the request and the row. -/
def PatchSkillRequest.needsLimit (request : PatchSkillRequest) (current : AdminSkill) : Bool :=
  requiresMaxInputTokens
    ((request.requiredPlan.map fun text => parsePlan (trimSpace text)).getD current.requiredPlan)
    ((request.monetizationType.map fun text => parseMonetization (trimSpace text)).getD
      current.monetizationType)
    ((request.freeQuotaPerMonth.map jsonInt).getD current.freeQuotaPerMonth)

structure Patched (current : AdminSkill) (request : PatchSkillRequest) (updated : AdminSkill) :
    Prop where
  id : updated.id = current.id
  status : updated.status = current.status
  activeVersionID : updated.activeVersionID = current.activeVersionID
  name : trimSpace current.name ≠ "" → trimSpace updated.name ≠ ""
  shortDescription : trimSpace current.shortDescription ≠ "" →
    trimSpace updated.shortDescription ≠ ""
  description : trimSpace current.description ≠ "" → trimSpace updated.description ≠ ""
  category : trimSpace current.category ≠ "" → trimSpace updated.category ≠ ""
  iconURL : patchField request.iconURL current.iconURL
    (nullableStringPatchValue "INVALID_ICON_URL") = .ok updated.iconURL
  tags : updated.tags = (request.tags.map normalizeJSONPatchValue).getD current.tags
  exampleInputs : updated.exampleInputs =
    (request.exampleInputs.map normalizeJSONPatchValue).getD current.exampleInputs
  exampleOutputs : updated.exampleOutputs =
    (request.exampleOutputs.map normalizeJSONPatchValue).getD current.exampleOutputs
  modelWhitelist : updated.modelWhitelist =
    (request.modelWhitelist.map normalizeJSONPatchValue).getD current.modelWhitelist
  requiredPlan : current.requiredPlan.valid = true → updated.requiredPlan.valid = true
  monetizationType : current.monetizationType.valid = true → updated.monetizationType.valid = true
  needsLimit : requiresMaxInputTokens updated.requiredPlan updated.monetizationType
    updated.freeQuotaPerMonth = request.needsLimit current
  maxInputTokens : updated.maxInputTokens =
    (request.maxInputTokens.map jsonInt).getD current.maxInputTokens

theorem buildSkillPatchUpdates_ok {cur updated : AdminSkill} {req : PatchSkillRequest}
    (h : buildSkillPatchUpdates cur req = .ok updated) :
    Patched cur req updated := by
  simp only [buildSkillPatchUpdates, bind_eq_ok] at h
  obtain ⟨name, hn, short, hs, description, hd, category, hc, iconURL,
    hi, plan, hp, monetization, hm, free, hf, tokens, ht, _, _, _, _, _, _, _, _, _, _, _, _,
    _, _, hu⟩ := h
  cases hu
  obtain ⟨rfl, hp⟩ := patchField_parsed parsePlan RequiredPlan.valid hp
  obtain ⟨rfl, hm⟩ := patchField_parsed parseMonetization MonetizationType.valid hm
  obtain rfl := patchField_int hf
  exact {
    id := rfl
    status := rfl
    activeVersionID := rfl
    name := patchField_text hn
    shortDescription := patchField_text hs
    description := patchField_text hd
    category := patchField_text hc
    iconURL := hi
    tags := rfl
    exampleInputs := rfl
    exampleOutputs := rfl
    modelWhitelist := rfl
    requiredPlan := hp
    monetizationType := hm
    needsLimit := rfl
    maxInputTokens := patchField_int ht }

end DeepRouter.Skills

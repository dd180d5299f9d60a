import DeepRouter.Library.Runs
import DeepRouter.Skills.AdminSteps

/-! # The versions of a skill -/

namespace DeepRouter.Skills

open KeyedTable Runs List Table AdminStore

def AdminStore.activeOf (store : AdminStore) (skillID : String) : Option (Option String) :=
  (store.skills.find? skillID).map fun skill => skill.activeVersionID

def AdminStore.versionsOf (store : AdminStore) (skillID : String) : List AdminVersion :=
  store.versions.rows.filter fun version => version.skillID = skillID

structure Bookkeeping (store : AdminStore) : Prop where
  active : ∀ version ∈ store.versions.rows, version.status = .active →
    store.activeOf version.skillID = some (some version.id)
  pointer : ∀ skillID versionID, store.activeOf skillID = some (some versionID) →
    ∃ version, store.versions.find? versionID = some version ∧ version.skillID = skillID
  numbers : ∀ skillID,
    ((store.versionsOf skillID).map AdminVersion.versionNumber).Pairwise (· < ·)

def SameVersion (before after : AdminVersion) : Prop :=
  after = { before with status := after.status }

theorem afterActivation_same (skillID versionID : String) (version : AdminVersion) :
    SameVersion version (version.afterActivation skillID versionID) := by
  unfold SameVersion AdminVersion.afterActivation
  split
  · split
    · rfl
    · split <;> rfl
  · rfl

variable {store : AdminStore} {skillID : String}

theorem activeOf_save {cur updated : AdminSkill}
    (hf : store.skills.find? skillID = some cur) (hi : updated.id = cur.id)
    (versions : Table fun version : AdminVersion => version.id) (other : String) :
    activeOf { skills := store.skills.save updated, versions } other =
      if other = skillID then some updated.activeVersionID else store.activeOf other := by
  have hk : updated.id = skillID := hi.trans (find?_eq_some_iff.mp hf).2
  unfold activeOf
  rw [find?_save hf hk]
  split <;> rfl

theorem activeOf_save_same {cur updated : AdminSkill}
    (hf : store.skills.find? skillID = some cur) (hi : updated.id = cur.id)
    (ha : updated.activeVersionID = cur.activeVersionID) (other : String) :
    activeOf { store with skills := store.skills.save updated } other = store.activeOf other := by
  rw [activeOf_save hf hi]
  split
  · rename_i ho
    rw [ho, activeOf, hf, ha]
    rfl
  · rfl

variable {skillID versionID : String}

theorem activeOf_insert {draft : AdminSkill} {skills : Table fun skill : AdminSkill => skill.id}
    (hi : store.skills.insert? draft = some skills) (ha : draft.activeVersionID = none) :
    activeOf { store with skills } skillID = some (some versionID) ↔
      store.activeOf skillID = some (some versionID) := by
  unfold activeOf
  by_cases hs : draft.id = skillID
  · subst hs
    rw [find?_insert?_self hi, (insert?_eq_some hi).1]
    simp [ha]
  · rw [find?_insert?_of_ne hi hs]

theorem le_foldl_max (numbers : List Int) (start : Int) :
    start ≤ numbers.foldl max start ∧ ∀ n ∈ numbers, n ≤ numbers.foldl max start := by
  induction numbers generalizing start with
  | nil => exact ⟨Int.le_refl start, nofun⟩
  | cons m numbers ih =>
    obtain ⟨hs, hr⟩ := ih (max start m)
    rw [foldl_cons]
    refine ⟨by omega, ?_⟩
    intro n hn
    obtain rfl | hn := mem_cons.mp hn
    · omega
    · exact hr n hn

theorem versionNumber_le_maxVersion {number : Int}
    (h : number ∈ (store.versionsOf skillID).map AdminVersion.versionNumber) :
    number ≤ store.maxVersion skillID :=
  (le_foldl_max _ 0).2 number h

variable {version : AdminVersion}

theorem versionsOf_insert {versions : Table fun version : AdminVersion => version.id}
    (hi : store.versions.insert? version = some versions) (skillID : String) :
    versionsOf { store with versions } skillID =
      store.versionsOf skillID ++ if version.skillID = skillID then [version] else [] := by
  unfold versionsOf
  rw [(insert?_eq_some hi).2, filter_append, filter_singleton]
  by_cases hs : version.skillID = skillID
  · simp [hs]
  · simp [hs]

theorem numbers_afterActivation (rows : List AdminVersion) (skillID versionID other : String) :
    ((rows.map (AdminVersion.afterActivation skillID versionID)).filter
        fun version => version.skillID = other).map AdminVersion.versionNumber =
      (rows.filter fun version => version.skillID = other).map AdminVersion.versionNumber := by
  induction rows with
  | nil => rfl
  | cons version rows ih =>
    have hs := afterActivation_same skillID versionID version
    have hsk : (version.afterActivation skillID versionID).skillID = version.skillID := by
      rw [hs]
    have hn :
        (version.afterActivation skillID versionID).versionNumber = version.versionNumber := by
      rw [hs]
    rw [map_cons, filter_cons, filter_cons, hsk]
    split
    · rw [map_cons, map_cons, ih, hn]
    · exact ih

theorem Bookkeeping.of_skills {skills : Table fun skill : AdminSkill => skill.id}
    (h : Bookkeeping store) (ha : ∀ skillID versionID,
      activeOf { store with skills } skillID = some (some versionID) ↔
        store.activeOf skillID = some (some versionID)) : Bookkeeping { store with skills } := by
  refine ⟨?_, ?_, h.numbers⟩
  · intro version hv hs
    exact (ha _ _).mpr (h.active version hv hs)
  · intro skillID versionID hp
    exact h.pointer skillID versionID ((ha skillID versionID).mp hp)

variable {skill : AdminSkill}

theorem Bookkeeping.versioned
    {req : CreateSkillVersionRequest} {cols : VersionColumns} {id : String}
    {versions : Table fun version : AdminVersion => version.id} (h : Bookkeeping store)
    (hi : store.versions.insert? (buildVersionFromSkill store skill req cols id) =
      some versions) : Bookkeeping { store with versions } := by
  refine ⟨?_, ?_, ?_⟩
  · intro version hv hs
    obtain ho | rfl := (mem_insert? hi).mp hv
    · exact h.active version ho hs
    · cases hs
  · intro skillID versionID hp
    obtain ⟨version, hf, hsk⟩ := h.pointer skillID versionID hp
    refine ⟨version, ?_, hsk⟩
    obtain ⟨hr, hk⟩ := find?_eq_some_iff.mp hf
    exact find?_eq_some_iff.mpr ⟨(mem_insert? hi).mpr (.inl hr), hk⟩
  · intro skillID
    rw [versionsOf_insert hi]
    split
    · rename_i hsk
      rw [map_append, pairwise_append]
      refine ⟨h.numbers skillID, pairwise_singleton _ _, ?_⟩
      intro number hn new hne
      have hl := versionNumber_le_maxVersion hn
      have hnex : new = store.maxVersion skillID + 1 := by
        rw [mem_singleton.mp hne, ← hsk]
        rfl
      omega
    · rw [append_nil]
      exact h.numbers skillID

theorem afterActivation_status (h : (version.afterActivation skillID versionID).status = .active) :
    version.skillID = skillID ∧ version.id = versionID ∨
      version.skillID ≠ skillID ∧ version.status = .active := by
  unfold AdminVersion.afterActivation at h
  split at h
  · rename_i hs
    split at h
    · rename_i hi
      exact .inl ⟨hs, hi⟩
    split at h
    · cases h
    · rename_i hn
      exact absurd h hn
  · rename_i hs
    exact .inr ⟨hs, h⟩

theorem mem_activate {row : AdminVersion} :
    row ∈ (store.activate skill skillID versionID).versions.rows ↔
      ∃ before ∈ store.versions.rows, before.afterActivation skillID versionID = row := by
  rw [activate, mem_mapRows]

theorem Bookkeeping.activated (h : Bookkeeping store)
    (hsk : store.skills.find? skillID = some skill)
    (hv : store.versions.find? versionID = some version) (hOwn : version.skillID = skillID) :
    Bookkeeping (store.activate skill skillID versionID) := by
  have hpo : ∀ owner, (store.activate skill skillID versionID).activeOf owner =
      if owner = skillID then some (some versionID) else store.activeOf owner :=
    activeOf_save hsk (skill.pointedTo_id versionID) _
  refine ⟨?_, ?_, ?_⟩
  · intro row hr hSt
    obtain ⟨before, hb, rfl⟩ := mem_activate.mp hr
    have hs := afterActivation_same skillID versionID before
    rw [hpo]
    obtain ⟨how, hi⟩ | ⟨ho, ha⟩ := afterActivation_status hSt
    · rw [hs]
      dsimp only
      rw [if_pos how, hi]
    rw [hs]
    dsimp only
    rw [if_neg ho]
    exact h.active before hb ha
  · intro owner pointed hp
    rw [hpo] at hp
    simp only [activate, find?_mapRows_eq]
    split at hp
    · rename_i how
      cases hp
      refine ⟨_, by rw [hv]; rfl, ?_⟩
      rw [afterActivation_same skillID versionID version, how]
      exact hOwn
    · obtain ⟨before, hf, hb⟩ := h.pointer owner pointed hp
      refine ⟨_, by rw [hf]; rfl, ?_⟩
      rw [afterActivation_same skillID versionID before]
      exact hb
  · intro owner
    exact (numbers_afterActivation store.versions.rows skillID versionID owner).symm ▸
      h.numbers owner

theorem loadActivePublishVersion_some (h : loadActivePublishVersion store skill = some version) :
    skill.activeVersionID = some version.id ∧ store.versions.find? version.id = some version ∧
      version.skillID = skill.id ∧ version.status = .active := by
  unfold loadActivePublishVersion at h
  split at h
  · cases h
  rename_i versionID ha
  split at h
  · cases h
  obtain ⟨hf, hc⟩ := Option.filter_eq_some_iff.mp h
  obtain ⟨ho, hs, _⟩ := decide_eq_true_eq.mp hc
  have hi : version.id = versionID := (find?_eq_some_iff.mp hf).2
  subst hi
  exact ⟨ha, hf, ho, hs⟩

theorem Bookkeeping.step (h : Bookkeeping store) (op : AdminOp) : Bookkeeping (store.step op) := by
  have hm := store.step_moves op
  generalize store.step op = after at hm
  cases hm with
  | refused op => exact h
  | created request id skills hi =>
    exact h.of_skills fun _ _ => activeOf_insert hi rfl
  | patched skillID request current updated hf hpa =>
    have hp := buildSkillPatchUpdates_ok hpa
    refine h.of_skills fun owner _ => ?_
    rw [activeOf_save_same hf hp.id hp.activeVersionID owner]
  | versioned skillID request columns ids id skill versions ht hf hi =>
    exact h.versioned hi
  | activated skillID versionID packageFails skill version hs hv ho hto hr =>
    exact h.activated hs hv ho
  | published skillID reason packageFails skill version hs hd hv hc =>
    have ha := (loadActivePublishVersion_some hv).1
    refine h.of_skills fun owner _ => ?_
    rw [activeOf_save_same hs (skill.publishedWith_id version.id) ha.symm owner]

theorem versions_kept (store : AdminStore) (op : AdminOp) (h : version ∈ store.versions.rows) :
    ∃ after ∈ (store.step op).versions.rows, SameVersion version after := by
  have hm := store.step_moves op
  generalize store.step op = after at hm
  cases hm with
  | versioned skillID request columns ids id skill versions ht hf hi =>
    exact ⟨version, (mem_insert? hi).mpr (.inl h), rfl⟩
  | activated skillID versionID packageFails skill row hs hv ho hto hr =>
    refine ⟨_, ?_, afterActivation_same skillID versionID version⟩
    exact mem_activate.mpr ⟨version, h, rfl⟩
  | refused op => exact ⟨version, h, rfl⟩
  | created request id skills hi => exact ⟨version, h, rfl⟩
  | patched skillID request current updated hf hp => exact ⟨version, h, rfl⟩
  | published skillID reason packageFails skill row hs hd hv hc =>
    exact ⟨version, h, rfl⟩

theorem SameVersion.trans {first second third : AdminVersion} (h : SameVersion first second)
    (h' : SameVersion second third) : SameVersion first third := by
  unfold SameVersion at h h' ⊢
  rw [h', h]

theorem versions_kept_run (store : AdminStore) (ops : List AdminOp)
    (h : version ∈ store.versions.rows) :
    ∃ later ∈ (run step store ops).versions.rows, SameVersion version later := by
  refine run_preserves (I := fun after : AdminStore =>
    ∃ later ∈ after.versions.rows, SameVersion version later) ?_ ⟨version, h, rfl⟩ ops
  rintro after op ⟨later, hl, hs⟩
  obtain ⟨next, hn, hk⟩ := versions_kept after op hl
  exact ⟨next, hn, hs.trans hk⟩

theorem Bookkeeping.initial (hv : store.versions.rows = [])
    (hs : ∀ skill ∈ store.skills.rows, skill.activeVersionID = none) : Bookkeeping store := by
  refine ⟨?_, ?_, ?_⟩
  · intro version hve
    rw [hv] at hve
    exact absurd hve not_mem_nil
  · intro skillID versionID hp
    obtain ⟨skill, hf, ha⟩ := Option.map_eq_some_iff.mp hp
    rw [hs skill (mem_of_find? hf)] at ha
    cases ha
  · intro skillID
    rw [versionsOf, hv]
    exact .nil

theorem Bookkeeping.active_unique (h : Bookkeeping store)
    {first second : AdminVersion} (hf : first ∈ store.versions.rows)
    (hs : second ∈ store.versions.rows) (hsk : first.skillID = second.skillID)
    (hActive : first.status = .active) (hActive' : second.status = .active) : first = second := by
  have hp := h.active first hf hActive
  rw [hsk, h.active second hs hActive'] at hp
  have hi : second.id = first.id := Option.some.inj (Option.some.inj hp)
  exact store.versions.eq_of_key_eq hf hs hi.symm

theorem version_bookkeeping (store : AdminStore) (ops : List AdminOp)
    (hVersions : store.versions.rows = [])
    (hSkills : ∀ skill ∈ store.skills.rows, skill.activeVersionID = none) :
    let after := run step store ops
    (∀ first ∈ after.versions.rows, ∀ second ∈ after.versions.rows, first.skillID = second.skillID →
      first.status = .active → second.status = .active → first = second) ∧
    (∀ skill ∈ after.skills.rows, ∀ versionID, skill.activeVersionID = some versionID →
      ∃ version ∈ after.versions.rows, version.id = versionID ∧ version.skillID = skill.id) ∧
    (∀ version ∈ after.versions.rows, version.status = .active → ∃ skill ∈ after.skills.rows,
      skill.id = version.skillID ∧ skill.activeVersionID = some version.id) ∧
    (∀ skillID, ((after.versionsOf skillID).map AdminVersion.versionNumber).Pairwise (· < ·)) ∧
    ∀ more : List AdminOp, ∀ version ∈ after.versions.rows,
      ∃ later ∈ (run step after more).versions.rows, later.id = version.id ∧
        later.instructionTemplate = version.instructionTemplate ∧
        later.modelWhitelistSnapshot = version.modelWhitelistSnapshot ∧
        later.requiredPlanSnapshot = version.requiredPlanSnapshot := by
  intro after
  have hb : Bookkeeping after :=
    run_preserves (fun _ op h => h.step op) (Bookkeeping.initial hVersions hSkills) ops
  refine ⟨fun first hf second hsn => hb.active_unique hf hsn, ?_, ?_, hb.numbers, ?_⟩
  · intro skill hsk versionID ha
    have hp : after.activeOf skill.id = some (some versionID) := by
      rw [activeOf, find?_of_mem hsk, Option.map_some, ha]
    obtain ⟨version, hfi, ho⟩ := hb.pointer skill.id versionID hp
    obtain ⟨hr, hi⟩ := find?_eq_some_iff.mp hfi
    exact ⟨version, hr, hi, ho⟩
  · intro version hv hSt
    obtain ⟨skill, hfi, ha⟩ := Option.map_eq_some_iff.mp (hb.active version hv hSt)
    obtain ⟨hr, hi⟩ := find?_eq_some_iff.mp hfi
    exact ⟨skill, hr, hi, ha⟩
  · intro more version hv
    obtain ⟨later, hl, hs⟩ := versions_kept_run after more hv
    refine ⟨later, hl, ?_⟩
    rw [hs]
    exact ⟨rfl, rfl, rfl, rfl⟩

def draftRequest : CreateSkillRequest :=
  { slug := "notes", name := "Notes", shortDescription := "s", description := "d", category := "c"
    requiredPlan := "pro", monetizationType := "plan_included", priceMarkup := none
    freeQuotaPerMonth := none, maxInputTokens := none }

def versionRequest : CreateSkillVersionRequest :=
  { instructionTemplate := "Take notes.", downloadInstructions := "i", usageInstructions := "u" }

def twoVersions : List AdminOp :=
  [.createSkill draftRequest "s1", .createVersion "s1" versionRequest ["v1"],
    .createVersion "s1" versionRequest ["v2"], .activateVersion "s1" "v1" false,
    .activateVersion "s1" "v2" false]

def noSkills : AdminStore := { skills := .empty _, versions := .empty _ }

theorem version_bookkeeping_two_versions :
    ((run AdminStore.step noSkills twoVersions).versions.rows.map
      fun version => (version.versionNumber, version.status)) = [(1, .inactive), (2, .active)] ∧
    ∀ version ∈ (run AdminStore.step noSkills twoVersions).versions.rows, version.status = .active →
      ∃ skill ∈ (run AdminStore.step noSkills twoVersions).skills.rows,
        skill.id = version.skillID ∧ skill.activeVersionID = some version.id :=
  ⟨by decide +kernel, (version_bookkeeping noSkills twoVersions rfl
    (fun _ h => absurd h not_mem_nil)).2.2.1⟩

end DeepRouter.Skills

import DeepRouter.Relay.KidsPrompt
import DeepRouter.Relay.TextHelper
import DeepRouter.Skills.DisplayedEntitlement

/-! # What a skill execution reads of a request -/

namespace DeepRouter.Relay

open Atomic Policy Skills

structure ExposedInput where
  text : String
  stream : Option Bool
  streamOptions : Option StreamOptions

def GeneralOpenAIRequest.exposed (request : GeneralOpenAIRequest) : ExposedInput :=
  ⟨lastUserText request.messages, request.stream, request.streamOptions⟩

def firstEntry (version : SkillVersion) : Option String :=
  (parseModelWhitelist version.modelWhitelistSnapshot).bind fun whitelist =>
    whitelist.find? (· ≠ "")

def executable (database : Option SkillStore) (version : Option SkillVersion) :
    Option (SkillVersion × String) := do
  let _ ← database
  let version ← version
  let entry ← firstEntry version
  return (version, entry)

def singleTurn (version : SkillVersion) (entry : String) (input : ExposedInput) :
    GeneralOpenAIRequest where
  model := (tierResolution.lookup entry).getD entry
  stream := input.stream
  streamOptions := input.streamOptions
  messages := [{ role := "system", content := .str version.instructionTemplate },
    { role := "user", content := .str input.text }]

section

variable {database : Option SkillStore} {ctx bound : SkillRelayContext} {version : SkillVersion}
  {entry : String} {request rewritten : GeneralOpenAIRequest} {input : ExposedInput}

theorem selectModel_eq (whitelist : List String) :
    selectModel whitelist =
      match whitelist.find? (· ≠ "") with
      | none => .error .skillInternalError
      | some entry => .ok ((tierResolution.lookup entry).getD entry) := by
  induction whitelist with
  | nil => rfl
  | cons model whitelist ih =>
    by_cases hm : model = ""
    · simp [selectModel, hm, ih]
    · simp [selectModel, hm]

theorem rewriteForSingleTurn_eq :
    rewriteForSingleTurn request version.instructionTemplate
        ((tierResolution.lookup entry).getD entry) =
      if request.exposed.text = "" then .error .invalidRequest
      else .ok (singleTurn version entry request.exposed) := rfl

/-- The execution as a function of the bound version and the exposed input alone. -/
theorem loadAndApply_eq (database : Option SkillStore) (ctx : SkillRelayContext)
    (request : GeneralOpenAIRequest) :
    loadAndApply database ctx request =
      match executable database ctx.skillVersion with
      | none => .error .skillInternalError
      | some (version, entry) =>
        if request.exposed.text = "" then .error .invalidRequest
        else .ok ({ ctx with skillVersionID := version.id },
          singleTurn version entry request.exposed) := by
  simp only [loadAndApply, loadSnapshot, executable, firstEntry]
  cases database with
  | none => rfl
  | some store =>
    cases ctx.skillVersion with
    | none => rfl
    | some version =>
      simp only [Option.bind_some, bind, Except.bind]
      cases parseModelWhitelist version.modelWhitelistSnapshot with
      | none => rfl
      | some whitelist =>
        simp only [Option.bind_some, selectModel_eq]
        cases whitelist.find? (· ≠ "") with
        | none => rfl
        | some entry =>
          simp only [rewriteForSingleTurn_eq, Option.bind_some, pure]
          by_cases ht : request.exposed.text = ""
          · simp only [ht, if_true]
          · simp only [ht, if_false]

theorem executable_eq_some (h : executable database ctx.skillVersion = some (version, entry)) :
    ctx.skillVersion = some version ∧
      ∃ whitelist, parseModelWhitelist version.modelWhitelistSnapshot = some whitelist ∧
        whitelist.find? (· ≠ "") = some entry := by
  simp only [executable, firstEntry, Option.bind_eq_bind, Option.bind_eq_some_iff] at h
  obtain ⟨-, -, bound, hb, chosen, ⟨whitelist, hw, he⟩, h⟩ := h
  cases h
  exact ⟨hb, whitelist, hw, he⟩

theorem loadAndApply_eq_ok :
    loadAndApply database ctx request = .ok (bound, rewritten) ↔
      ∃ version entry, executable database ctx.skillVersion = some (version, entry) ∧
        request.exposed.text ≠ "" ∧ bound = { ctx with skillVersionID := version.id } ∧
        rewritten = singleTurn version entry request.exposed := by
  rw [loadAndApply_eq]
  cases executable database ctx.skillVersion with
  | none => simp
  | some found =>
    obtain ⟨version, entry⟩ := found
    by_cases ht : request.exposed.text = ""
    · simp [ht]
    simp only [ht, if_false, Except.ok.injEq, Prod.mk.injEq, Option.some.injEq]
    constructor
    · rintro ⟨hb, hr⟩
      exact ⟨version, entry, ⟨rfl, rfl⟩, ht, hb.symm, hr.symm⟩
    · rintro ⟨_, _, ⟨rfl, rfl⟩, -, hb, hr⟩
      exact ⟨hb.symm, hr.symm⟩

theorem loadAndApply_eq_error {ctx' : SkillRelayContext} {request' : GeneralOpenAIRequest}
    {code : SkillError} (h : loadAndApply database ctx request = .error code)
    (hv : ctx'.skillVersion = ctx.skillVersion) (hx : request'.exposed = request.exposed) :
    loadAndApply database ctx' request' = .error code := by
  rw [loadAndApply_eq] at h
  rw [loadAndApply_eq, hv, hx]
  revert h
  cases executable database ctx.skillVersion with
  | none => exact id
  | some found =>
    by_cases ht : request.exposed.text = ""
    · simp [ht]
    · simp [ht]

theorem exposed_singleTurn (marker : Option DeepRouterExtension) :
    { singleTurn version entry input with deeprouter := marker }.exposed = input := by
  simp [GeneralOpenAIRequest.exposed, singleTurn, lastUserText, Message.stringContent, stringContent]

theorem loadAndApply_again (h : loadAndApply database ctx request = .ok (bound, rewritten))
    (marker : Option DeepRouterExtension) :
    loadAndApply database bound { rewritten with deeprouter := marker } = .ok (bound, rewritten) := by
  obtain ⟨version, entry, he, ht, rfl, rfl⟩ := loadAndApply_eq_ok.mp h
  refine loadAndApply_eq_ok.mpr ⟨version, entry, he, ?_, rfl, ?_⟩
  · rwa [exposed_singleTurn]
  · rw [exposed_singleTurn]

end

def storyTurn (system : String) : GeneralOpenAIRequest where
  model := "gpt-4o"
  messages := [⟨"system", .str system, []⟩, ⟨"user", .str "A fox.", []⟩]

end DeepRouter.Relay

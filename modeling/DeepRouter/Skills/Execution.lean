import DeepRouter.Library.Atomic
import DeepRouter.Relay.Requests
import DeepRouter.Skills.Resolver

/-! # Execution of a skill -/

namespace DeepRouter.Skills

open Atomic Relay

def whitelistEntry : Json → Option String
  | .str model => some model
  | .null => some ""
  | _ => none

def parseModelWhitelist : Option Json → Option (List String)
  | none => some []
  | some .null => some []
  | some (.arr items) => items.mapM whitelistEntry
  | some _ => none

def tierResolution : List (String × String) :=
  [("smart-tier", "claude-opus-4-8"), ("balanced-tier", "claude-sonnet-4-7"),
    ("fast-tier", "claude-haiku-4-5"), ("kids-safe-tier", "claude-sonnet-4-7")]

def selectModel : List String → Except SkillError String
  | [] => .error .skillInternalError
  | model :: whitelist =>
    if model = "" then selectModel whitelist else .ok ((tierResolution.lookup model).getD model)

def lastUserText (messages : List Message) : String :=
  ((messages.reverse.find? fun message => message.role = "user").map Message.stringContent).getD ""

def rewriteForSingleTurn (request : GeneralOpenAIRequest) (instructionTemplate model : String) :
    Except SkillError GeneralOpenAIRequest :=
  let userContent := lastUserText request.messages
  if userContent = "" then .error .invalidRequest
  else .ok { model
             stream := request.stream
             streamOptions := request.streamOptions
             messages := [{ role := "system", content := .str instructionTemplate },
               { role := "user", content := .str userContent }] }

structure VersionSnapshot where
  (skillVersionID instructionTemplate : String)
  modelWhitelist : List String

def loadSnapshot (ctx : SkillRelayContext) : Except SkillError VersionSnapshot :=
  match ctx.skillVersion with
  | none => .error .skillInternalError
  | some version =>
    match parseModelWhitelist version.modelWhitelistSnapshot with
    | none => .error .skillInternalError
    | some modelWhitelist =>
      .ok ⟨version.id, version.instructionTemplate, modelWhitelist⟩

def loadAndApply (database : Option SkillStore) (ctx : SkillRelayContext)
    (request : GeneralOpenAIRequest) : Except SkillError (SkillRelayContext × GeneralOpenAIRequest) :=
  match database with
  | none => .error .skillInternalError
  | some _ => do
    let snapshot ← loadSnapshot ctx
    let model ← selectModel snapshot.modelWhitelist
    let rewritten ← rewriteForSingleTurn request snapshot.instructionTemplate model
    .ok ({ ctx with skillVersionID := snapshot.skillVersionID }, rewritten)

theorem loadAndApply_ok {database : Option SkillStore} {ctx bound : SkillRelayContext}
    {req rewritten : GeneralOpenAIRequest}
    (h : loadAndApply database ctx req = .ok (bound, rewritten)) :
    ∃ v model text, ctx.skillVersion = some v ∧
      rewritten = { model
                    stream := req.stream
                    streamOptions := req.streamOptions
                    messages := [{ role := "system", content := .str v.instructionTemplate },
                      { role := "user", content := .str text }] } := by
  cases database with
  | none => cases h
  | some store =>
    simp only [loadAndApply, bind_eq_ok] at h
    obtain ⟨snapshot, hs, model, -, rewritten, hr, h⟩ := h
    cases h
    simp only [rewriteForSingleTurn] at hr
    split at hr
    · cases hr
    cases hr
    cases hv : ctx.skillVersion with
    | none => simp [loadSnapshot, hv] at hs
    | some v =>
      simp only [loadSnapshot, hv] at hs
      split at hs
      · cases hs
      · cases hs
        exact ⟨v, model, _, rfl, rfl⟩

end DeepRouter.Skills

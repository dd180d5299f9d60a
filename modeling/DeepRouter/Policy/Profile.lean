import DeepRouter.Library.GoStrings

/-! # Policy decisions

`strings.ToLower` maps characters by `unicode.ToLower`, which is a parameter here. -/

namespace DeepRouter.Policy

open GoStrings

inductive Profile where
  | passthrough
  | adult
  | kidSafe

def Profile.name : Profile → String
  | .passthrough => "passthrough"
  | .adult => "adult"
  | .kidSafe => "kid-safe"

structure Decision where
  kidsMode : Bool := false
  profile : Profile
  (enforceModelWhitelist enforceZDR injectSystemPrompt stripIdentifying : Bool := false)
  runInputFilter : Bool := false

def normalise (s : String) : Profile :=
  if s = "kid-safe" then .kidSafe else if s = "adult" then .adult else .passthrough

def decisionFor (kidsMode : Bool) (rawProfile : String) : Decision :=
  if kidsMode then
    { kidsMode := true, profile := .kidSafe, enforceModelWhitelist := true, enforceZDR := true
      injectSystemPrompt := true, stripIdentifying := true, runInputFilter := true }
  else
    match normalise rawProfile with
    | .kidSafe =>
      { profile := .kidSafe, enforceModelWhitelist := true, enforceZDR := true
        injectSystemPrompt := true, stripIdentifying := true, runInputFilter := true }
    | .adult => { profile := .adult, injectSystemPrompt := true, runInputFilter := true }
    | .passthrough => { profile := .passthrough }

def eligibleModels : List String :=
  ["gpt-4o-mini", "gpt-4o", "gpt-image-2", "gpt-image-1", "claude-3-5-haiku", "claude-3-5-sonnet",
    "flux-schnell", "flux-1.1-pro"]

def isModelEligible (model : String) : Bool :=
  if model = "" then false
  else if model ∈ eligibleModels then true
  else eligibleModels.any fun base => hasPrefix model base

def childSafeSystemPrompt : String :=
  "You are talking with a child. Follow these rules at all times:\n" ++
  "- You are an AI assistant, not a human. Disclose this if asked.\n" ++
  "- Refuse adult content, romance, violence, self-harm, drugs, gambling, weapons, hate.\n" ++
  "- Use age-appropriate, encouraging language. Never criticise the child.\n" ++
  "- Encourage building, exploration, and learning over passive answers.\n" ++
  "- If the child asks about a topic outside these rules, gently redirect to something safe."

def adultSystemPrompt : String :=
  "You are assisting an adult learner or professional. Be direct, practical, and safe. Refuse illegal exploitation, sexual content involving minors, and instructions that enable harm."

def systemPromptFor (decision : Decision) : Option String :=
  match decision.profile with
  | .kidSafe => some childSafeSystemPrompt
  | .adult => some adultSystemPrompt
  | .passthrough => none

structure InputDeny where
  profile : Profile
  term : String

def InputDeny.reason (deny : InputDeny) : String :=
  if deny.term = "" then "policy_input_blocked: " ++ deny.profile.name
  else "policy_input_blocked: " ++ deny.profile.name ++ ": " ++ deny.term

def denylistFor : Profile → List String
  | .kidSafe =>
    ["adult content", "porn", "sex", "self-harm", "suicide", "kill myself", "drugs", "gambling",
      "weapon"]
  | .adult => ["csam", "child sexual abuse", "sexual content involving minors"]
  | .passthrough => []

def checkInput (lower : Char → Char) (decision : Decision) (texts : List String) :
    Option InputDeny :=
  if !decision.runInputFilter then none
  else texts.findSome? fun text =>
    ((denylistFor decision.profile).find? fun term => contains (text.map lower) term).map
      fun term => ⟨decision.profile, term⟩

end DeepRouter.Policy

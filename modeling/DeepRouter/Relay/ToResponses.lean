import DeepRouter.Relay.ConvertedAnswers

/-! # Chat requests as Responses requests -/

namespace DeepRouter.Relay.ToResponses

open GoStrings List

/-- The value of a part that is no text, for an image its URL. -/
structure ContentPart where
  (type text : String)
  value : Json

inductive ChatContent where
  | text (content : String)
  | parts (parts : List ContentPart)

structure ToolCall where
  (id type name arguments : String)

structure ChatMessage where
  role : String
  content : Option ChatContent := none
  toolCallId : String := ""
  toolCalls : List ToolCall := []

inductive InputItem where
  | message (role : String) (content : String ⊕ List (String × Json))
  | functionCall (callId name arguments : String)
  | functionCallOutput (callId output : String)

def convertPart (role : String) (part : ContentPart) : String × Json :=
  if part.type = "text" then
    (if role = "assistant" then "output_text" else "input_text", .str part.text)
  else match [("image_url", "input_image"), ("input_audio", "input_audio"), ("file", "input_file"),
      ("video_url", "input_video")].lookup part.type with
    | some type => (type, part.value)
    | none => (part.type, .null)

def itemContent (role : String) : Option ChatContent → String ⊕ List (String × Json)
  | none => .inl ""
  | some (.text content) => .inl content
  | some (.parts parts) => .inr (parts.map (convertPart role))

def systemText : Option ChatContent → String
  | none => ""
  | some (.text content) => trimSpace content
  | some (.parts parts) => trimSpace ("\n".intercalate
      ((parts.filter fun part => part.type = "text" ∧ trimSpace part.text ≠ "").map (·.text)))

def ToolCall.item (call : ToolCall) : InputItem :=
  .functionCall call.id (trimSpace call.name) call.arguments

namespace ChatMessage

variable (m : ChatMessage)

def isTool : Bool := trimSpace m.role = "tool" ∨ trimSpace m.role = "function"

def isSystem : Bool := trimSpace m.role = "system" ∨ trimSpace m.role = "developer"

/-- Only the calls of an assistant are read. -/
def functionCalls : List ToolCall :=
  if trimSpace m.role = "assistant" then m.toolCalls.filter fun call =>
    trimSpace call.id ≠ "" ∧ (call.type = "" ∨ call.type = "function") ∧ trimSpace call.name ≠ ""
  else []

def instruction? : Option String :=
  if m.isSystem ∧ systemText m.content ≠ "" then some (systemText m.content) else none

end ChatMessage

section

variable (marshal : List ContentPart → String)

def outputOf : Option ChatContent → String
  | none => ""
  | some (.text content) => content
  | some (.parts parts) => marshal parts

def toolItem (m : ChatMessage) : InputItem :=
  if trimSpace m.toolCallId = "" then
    .message "user" (.inl ("[tool_output_missing_call_id] " ++ outputOf marshal m.content))
  else .functionCallOutput (trimSpace m.toolCallId) (outputOf marshal m.content)

def messageStep (s : List String × List InputItem) (m : ChatMessage) :
    List String × List InputItem :=
  let role := trimSpace m.role
  if role = "" then s
  else if m.isTool then (s.1, s.2 ++ [toolItem marshal m])
  else if m.isSystem then
    (if systemText m.content = "" then s.1 else s.1 ++ [systemText m.content], s.2)
  else (s.1, s.2 ++ .message role (itemContent role m.content) :: m.functionCalls.map (·.item))

def joined : List String → Option String
  | [] => none
  | texts => some ("\n\n".intercalate texts)

/-- The instructions and the input. -/
def chatCompletionsRequestToResponsesRequest (model : String) (n : Int)
    (messages : List ChatMessage) : Except String (Option String × List InputItem) :=
  if model = "" then .error "model is required"
  else if n > 1 then .error "n>1 is not supported in responses compatibility mode"
  else
    let s := messages.foldl (messageStep marshal) ([], [])
    .ok (joined s.1, s.2)

/-! ## Order and links -/

def linked : List String → List InputItem → Bool
  | _, [] => true
  | known, .message _ _ :: items => linked known items
  | known, .functionCall id _ _ :: items => linked (known ++ [id]) items
  | known, .functionCallOutput id _ :: items => id ∈ known && linked known items

/-- Every tool message with an id refers to a function call before it, by `idOf` of its id. -/
def refers (idOf : String → String) : List String → List ChatMessage → Bool
  | _, [] => true
  | known, m :: ms =>
    (!m.isTool || trimSpace m.toolCallId = "" || idOf m.toolCallId ∈ known) &&
      refers idOf (known ++ m.functionCalls.map (·.id)) ms

def expectedItems (m : ChatMessage) : List InputItem :=
  if m.isSystem then []
  else (if m.isTool then toolItem marshal m
    else .message (trimSpace m.role) (itemContent (trimSpace m.role) m.content)) ::
      m.functionCalls.map (·.item)

structure KeepsOrder (messages : List ChatMessage) (out : Option String × List InputItem) :
    Prop where
  instructions : out.1 = joined (messages.filterMap (·.instruction?))
  items : out.2 = messages.flatMap (expectedItems marshal)
  links : refers id [] messages = true → linked [] out.2 = true

open ChatMessage

theorem functionCalls_eq_nil {m : ChatMessage} (h : m.isTool = true ∨ m.isSystem = true) :
    m.functionCalls = [] := by
  rw [functionCalls, if_neg]
  intro hr
  simp [isTool, isSystem, hr] at h

theorem isTool_eq_false {m : ChatMessage} (h : m.isSystem = true) : m.isTool = false := by
  simp only [isSystem, decide_eq_true_eq] at h
  rcases h with h | h <;> simp [isTool, h]

def itemsOf (m : ChatMessage) : List InputItem :=
  if trimSpace m.role ≠ "" then expectedItems marshal m else []

theorem foldl_messageStep (ms : List ChatMessage) (s : List String × List InputItem) :
    ms.foldl (messageStep marshal) s =
      (s.1 ++ ms.filterMap (·.instruction?), s.2 ++ ms.flatMap (itemsOf marshal)) := by
  induction ms generalizing s with
  | nil => simp
  | cons m ms ih =>
    have hs : messageStep marshal s m =
        (s.1 ++ m.instruction?.toList, s.2 ++ itemsOf marshal m) := by
      by_cases hb : trimSpace m.role = ""
      · simp [messageStep, instruction?, itemsOf, isSystem, hb]
      cases hn : m.isSystem with
      | true =>
        by_cases he : systemText m.content = "" <;> simp [messageStep, instruction?,
          itemsOf, expectedItems, hb, hn, he, isTool_eq_false hn]
      | false =>
        cases ht : m.isTool with
        | true => simp [messageStep, instruction?, itemsOf, expectedItems, hb, hn, ht,
            functionCalls_eq_nil (.inl ht)]
        | false => simp [messageStep, instruction?, itemsOf, expectedItems, hb, hn, ht]
    rw [foldl_cons, ih, hs, flatMap_cons, append_assoc, append_assoc]
    cases hi : m.instruction? <;> simp [hi]

theorem linked_calls (known : List String) (calls : List ToolCall) (items : List InputItem) :
    linked known (calls.map (·.item) ++ items) = linked (known ++ calls.map (·.id)) items := by
  induction calls generalizing known with
  | nil => simp
  | cons call calls ih =>
    rw [map_cons, cons_append, ToolCall.item, linked, ih]
    simp

theorem linked_eq (ms : List ChatMessage) (known : List String) :
    linked known (ms.flatMap (itemsOf marshal)) = refers trimSpace known ms := by
  induction ms generalizing known with
  | nil => rfl
  | cons m ms ih =>
    rw [flatMap_cons, refers, ← ih, itemsOf, expectedItems]
    by_cases hb : trimSpace m.role = ""
    · simp [hb, isTool, functionCalls]
    cases hs : m.isSystem with
    | true => simp [isTool_eq_false hs, functionCalls_eq_nil (.inr hs)]
    | false =>
      cases ht : m.isTool with
      | true =>
        by_cases hi : trimSpace m.toolCallId = "" <;>
          simp [hb, hi, toolItem, linked, functionCalls_eq_nil (.inl ht)]
      | false => simp [hb, linked, linked_calls]

/-- Messages with a blank role are skipped, and the id of a result is trimmed but not that of its
call. -/
theorem responses_request_kept_iff {model : String} {n : Int} {messages : List ChatMessage}
    {out : Option String × List InputItem}
    (h : chatCompletionsRequestToResponsesRequest marshal model n messages = .ok out) :
    KeepsOrder marshal messages out ↔ (∀ m ∈ messages, trimSpace m.role ≠ "") ∧
      (refers id [] messages = true → refers trimSpace [] messages = true) := by
  rw [chatCompletionsRequestToResponsesRequest, foldl_messageStep] at h
  split at h
  · cases h
  split at h
  · cases h
  simp only [nil_append, Except.ok.injEq] at h
  subst h
  have hi : messages.flatMap (itemsOf marshal) = messages.flatMap (expectedItems marshal) ↔
      ∀ m ∈ messages, trimSpace m.role ≠ "" := by
    refine (Answers.flatMap_kept_eq_iff (fun m : ChatMessage => trimSpace m.role ≠ "")
      (expectedItems marshal) messages).2.trans (forall₂_congr fun m _ => ⟨fun hm hb => ?_, ?_⟩)
    · have hn := hm (not_not.mpr hb)
      simp [expectedItems, isSystem, hb] at hn
    · exact fun hm hn => absurd hm hn
  rw [← hi, ← linked_eq marshal]
  exact ⟨fun h => ⟨h.items, h.links⟩, fun h => ⟨rfl, h.1, h.2⟩⟩

theorem responses_request_kept_of_link :
    let messages : List ChatMessage := [
      { role := "assistant", toolCalls := [⟨"a", "function", "f", ""⟩] },
      { role := "tool", toolCallId := "a" }]
    KeepsOrder (fun _ => "") messages (none, messages.flatMap (itemsOf fun _ => "")) :=
  (responses_request_kept_iff (fun _ => "")
    (show chatCompletionsRequestToResponsesRequest _ "m" 1 _ = .ok _ by rfl)).mpr (by decide)

theorem padded_id_unlinked :
    let messages : List ChatMessage := [
      { role := "assistant", toolCalls := [⟨"a ", "function", "f", ""⟩] },
      { role := "tool", toolCallId := "a " }]
    refers id [] messages = true ∧
      linked [] (messages.foldl (messageStep fun _ => "") ([], [])).2 = false := by
  decide

end

end DeepRouter.Relay.ToResponses

import DeepRouter.Relay.GeminiRequest

/-! # Claude requests as chat requests -/

namespace DeepRouter.Relay.ClaudeRequest

open List

open Gemini (MediaContent ChatMessage PartState lastMessage)
open ToClaude (ToolCallRequest)

/-- The content of a result is a text or a list of parts. -/
inductive ClaudeBlock where
  | text (content : String)
  | image (mediaType data : String)
  | toolUse (id name : String) (input : Json)
  | toolResult (toolUseId name : String) (content : Json)
  | other

inductive ClaudeContent where
  | text (content : String)
  | blocks (blocks : List ClaudeBlock)

def ClaudeContent.parse : ClaudeContent → List ClaudeBlock
  | .text _ => []
  | .blocks content => content

structure ClaudeMessage where
  role : String
  content : ClaudeContent

inductive ClaudeSystem where
  | text (content : String)
  | parts (texts : List String)

def systemMessages (isOpenRouterClaude : Bool) : Option ClaudeSystem → List ChatMessage
  | none => []
  | some (.text content) =>
    if content ≠ "" then [{ role := "system", content := [.text content] }] else []
  | some (.parts texts) =>
    if texts.isEmpty then []
    else [{ role := "system",
            content := if isOpenRouterClaude then texts.map .text else [.text (String.join texts)] }]

/-- Only a call has an id. -/
def searchToolNameByToolCallId (messages : List ClaudeMessage) (toolCallId : String) : String :=
  ((messages.flatMap (·.content.parse)).findSome? fun
    | .toolUse id name _ => if id = toolCallId then some name else none
    | .toolResult _ name _ => if "" = toolCallId then some name else none
    | _ => if "" = toolCallId then some "" else none).getD ""

/-- How inputs and the parts of results are marshalled. -/
structure Marshal where
  (toJSONString encodeMedia : Json → String)

section

variable (k : Marshal)

def resultText : Json → String
  | .str content => content
  | content => k.encodeMedia content

def toolMessage (messages : List ClaudeMessage) (toolUseId name : String) (content : Json) :
    ChatMessage :=
  { role := "tool"
    name := some (if name = "" then searchToolNameByToolCallId messages toolUseId else name)
    toolCallId := toolUseId
    content := [.text (resultText k content)] }

def partStep (messages : List ClaudeMessage) (s : PartState) : ClaudeBlock → PartState
  | .text content => { s with mediaContents := s.mediaContents ++ [.text content] }
  | .image mediaType data =>
    { s with mediaContents := s.mediaContents ++
        [.imageUrl ("data:" ++ mediaType ++ ";base64," ++ data) ""] }
  | .toolUse id name input =>
    { s with toolCalls := s.toolCalls ++ [⟨id, name, k.toJSONString input⟩] }
  | .toolResult toolUseId name content =>
    { s with messages := s.messages ++ [toolMessage k messages toolUseId name content] }
  | .other => s

def messageStep (messages : List ClaudeMessage) (openAIMessages : List ChatMessage)
    (message : ClaudeMessage) : List ChatMessage :=
  let s : PartState := match message.content with
    | .text content => { messages := openAIMessages, mediaContents := [.text content] }
    | .blocks blocks =>
      blocks.foldl (partStep k messages) { messages := openAIMessages }
  s.messages ++ lastMessage message.role s

def claudeToOpenAIMessages (isOpenRouterClaude : Bool) (system : Option ClaudeSystem)
    (messages : List ClaudeMessage) : List ChatMessage :=
  messages.foldl (messageStep k messages) (systemMessages isOpenRouterClaude system)

namespace ClaudeBlock

def media? : ClaudeBlock → Option MediaContent
  | .text content => some (.text content)
  | .image mediaType data => some (.imageUrl ("data:" ++ mediaType ++ ";base64," ++ data) "")
  | _ => none

def call? : ClaudeBlock → Option ToolCallRequest
  | .toolUse id name input => some ⟨id, name, k.toJSONString input⟩
  | _ => none

def toolMessage? (messages : List ClaudeMessage) : ClaudeBlock → Option ChatMessage
  | .toolResult toolUseId name content =>
    some (toolMessage k messages toolUseId name content)
  | _ => none

def result? : ClaudeBlock → Option (String × List String)
  | .toolResult toolUseId _ content => some (toolUseId, [resultText k content])
  | _ => none

end ClaudeBlock

namespace ClaudeMessage

variable (message : ClaudeMessage)

def media : List MediaContent :=
  match message.content with
  | .text content => [.text content]
  | .blocks blocks => blocks.filterMap (·.media?)

def texts : List String := message.media.filterMap (·.text?)

def calls : List ToolCallRequest := message.content.parse.filterMap (·.call? k)

def results : List (String × List String) :=
  message.content.parse.filterMap (·.result? k)

end ClaudeMessage

/-- Only the message of a result has a name. -/
def isResult (message : ChatMessage) : Bool := message.role = "tool" ∧ message.name.isSome

def textsOf (message : ChatMessage) : List String :=
  if isResult message then [] else message.content.filterMap (·.text?)

def resultOf (message : ChatMessage) : String × List String :=
  (message.toolCallId, message.content.filterMap (·.text?))

/-- The messages that stand for one message: its results, and one message of its role with its texts
and calls. -/
structure KeepsBlocks (message : ClaudeMessage) (group : List ChatMessage) : Prop where
  texts : group.flatMap textsOf = message.texts
  calls : group.flatMap (·.toolCalls) = message.calls k
  results : (group.filter isResult).map resultOf = message.results k
  single : (group.filter (!isResult ·)).length ≤ 1
  role : ∀ other ∈ group, isResult other = false → other.role = message.role

variable (messages : List ClaudeMessage) (message : ClaudeMessage)

def toolMessages : List ChatMessage :=
  message.content.parse.filterMap (·.toolMessage? k messages)

def ownMessage : List ChatMessage :=
  lastMessage message.role ⟨[], message.media, message.calls k⟩

def group : List ChatMessage :=
  toolMessages k messages message ++ ownMessage k message

theorem foldl_partStep (blocks : List ClaudeBlock) (s : PartState) :
    blocks.foldl (partStep k messages) s =
      ⟨s.messages ++ blocks.filterMap (·.toolMessage? k messages),
        s.mediaContents ++ blocks.filterMap (·.media?),
        s.toolCalls ++ blocks.filterMap (·.call? k)⟩ := by
  induction blocks generalizing s with
  | nil => simp
  | cons block blocks ih =>
    rw [foldl_cons, ih]
    cases block <;>
      simp [partStep, ClaudeBlock.toolMessage?, ClaudeBlock.media?, ClaudeBlock.call?]

theorem messageStep_eq (openAIMessages : List ChatMessage) :
    messageStep k messages openAIMessages message = openAIMessages ++ group k messages message := by
  obtain ⟨role, content⟩ := message
  cases content with
  | text content => rfl
  | blocks blocks =>
    simp [messageStep, foldl_partStep, group, toolMessages, ownMessage, ClaudeMessage.media,
      ClaudeMessage.calls, ClaudeContent.parse, lastMessage]

theorem claudeToOpenAIMessages_eq (isOpenRouterClaude : Bool) (system : Option ClaudeSystem) :
    claudeToOpenAIMessages k isOpenRouterClaude system messages =
      systemMessages isOpenRouterClaude system ++ messages.flatMap (group k messages) := by
  have hf : ∀ (rest : List ClaudeMessage) openAIMessages,
      rest.foldl (messageStep k messages) openAIMessages =
        openAIMessages ++ rest.flatMap (group k messages) := by
    intro rest
    induction rest with
    | nil => simp
    | cons message rest ih =>
      intro openAIMessages
      rw [foldl_cons, ih, messageStep_eq, append_assoc, flatMap_cons]
  exact hf messages _

theorem toolMessages_spec :
    (∀ tool ∈ toolMessages k messages message,
      isResult tool = true ∧ tool.toolCalls = []) ∧
    (toolMessages k messages message).map resultOf = message.results k := by
  rw [toolMessages, ClaudeMessage.results]
  induction message.content.parse with
  | nil => simp
  | cons block blocks ih => cases block <;> simpa [ClaudeBlock.toolMessage?, ClaudeBlock.result?,
      toolMessage, isResult, resultOf, MediaContent.text?] using ih

theorem ownMessage_spec :
    (ownMessage k message).flatMap (·.toolCalls) = message.calls k ∧
    (ownMessage k message).flatMap textsOf = (if message.calls k = [] then message.texts else []) ∧
    (ownMessage k message).length ≤ 1 ∧
    ∀ own ∈ ownMessage k message, isResult own = false ∧ own.role = message.role := by
  rw [ownMessage, ClaudeMessage.texts]
  cases message.calls k with
  | nil => cases message.media <;> simp [lastMessage, textsOf, isResult]
  | cons call calls => simp [lastMessage, textsOf, isResult]

theorem texts_group :
    (group k messages message).flatMap textsOf =
      if message.calls k = [] then message.texts else [] := by
  have hto := (toolMessages_spec k messages message).1
  rw [group, flatMap_append, (ownMessage_spec k message).2.1,
    flatMap_eq_nil_iff.mpr fun tool ht => by simp [textsOf, (hto tool ht).1],
    nil_append]

theorem keepsBlocks (h : message.calls k ≠ [] → message.texts = []) :
    KeepsBlocks k message (group k messages message) := by
  obtain ⟨hto, hr⟩ := toolMessages_spec k messages message
  obtain ⟨hc, -, hon, how⟩ := ownMessage_spec k message
  refine ⟨?_, ?_, ?_, ?_, ?_⟩
  · rw [texts_group]
    split
    · rfl
    · exact (h ‹_›).symm
  · rw [group, flatMap_append, hc,
      flatMap_eq_nil_iff.mpr fun tool ht => (hto tool ht).2, nil_append]
  · rw [group, filter_append, filter_eq_self.mpr fun tool ht => (hto tool ht).1,
      filter_eq_nil_iff.mpr fun own ho => by simp [(how own ho).1], append_nil, hr]
  · rw [group, filter_append,
      filter_eq_nil_iff.mpr fun tool ht => by simp [(hto tool ht).1], nil_append]
    exact (length_filter_le _ _).trans hon
  · intro other ho hot
    rcases mem_append.mp ho with ht | ho
    · exact absurd ((hto other ht).1.symm.trans hot) (by decide)
    · exact (how other ho).2

/-- Only texts beside calls are lost. -/
theorem claude_request_kept_iff (isOpenRouterClaude : Bool) (system : Option ClaudeSystem) :
    (∃ groups : List (List ChatMessage),
      claudeToOpenAIMessages k isOpenRouterClaude system messages =
          systemMessages isOpenRouterClaude system ++ groups.flatten ∧
        List.Forall₂ (KeepsBlocks k) messages groups) ↔
      ∀ message ∈ messages, message.calls k ≠ [] → message.texts = [] := by
  rw [claudeToOpenAIMessages_eq]
  constructor
  · rintro ⟨groups, he, hk⟩
    have ha : groups.flatten.flatMap textsOf = messages.flatMap (·.texts) := by
      clear he
      induction hk with
      | nil => rfl
      | cons hh _ ih =>
        rw [flatten_cons, flatMap_append, hh.texts, ih, flatMap_cons]
    rw [← append_cancel_left he, flatMap_assoc] at ha
    refine (Answers.flatMap_kept_eq_iff (·.calls k = []) (·.texts) messages).2.mp ?_
    rw [← ha]
    exact flatMap_congr fun message _ => (texts_group _ _ message).symm
  · intro h
    refine ⟨messages.map (group k messages), by rw [flatMap_def], ?_⟩
    rw [List.forall₂_map_right_iff, List.forall₂_same]
    exact fun message hm => keepsBlocks _ messages message (h message hm)

theorem text_beside_call_dropped :
    let message : ClaudeMessage := ⟨"assistant", .blocks [.text "t", .toolUse "1" "f" .null]⟩
    message.texts = ["t"] ∧
      (claudeToOpenAIMessages ⟨fun _ => "", fun _ => ""⟩ false none [message]).flatMap textsOf =
        [] := by
  decide

end

end DeepRouter.Relay.ClaudeRequest

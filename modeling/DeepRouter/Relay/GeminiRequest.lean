import DeepRouter.Relay.ConvertedAnswers

/-! # Gemini requests as chat requests -/

namespace DeepRouter.Relay.Gemini

open List

open ToClaude (ToolCallRequest)

/-- The data of an image come with their MIME type; what a response answers is not read. -/
structure GeminiPart where
  text : String := ""
  (inlineData fileData : Option (String × String) := none)
  functionCall : Option (String × Json) := none
  functionResponse : Option Json := none

structure GeminiContent where
  role : String
  parts : List GeminiPart

inductive MediaContent where
  | text (content : String)
  | imageUrl (url mimeType : String)

def MediaContent.text? : MediaContent → Option String
  | .text content => some content
  | .imageUrl _ _ => none

structure ChatMessage where
  role : String
  content : List MediaContent := []
  name : Option String := none
  toolCallId : String := ""
  toolCalls : List ToolCallRequest := []

def convertGeminiRoleToOpenAI (geminiRole : String) : String :=
  if geminiRole = "user" then "user"
  else if geminiRole = "model" then "assistant"
  else if geminiRole = "function" then "function"
  else "user"

def callId (n : Nat) : String := "call_" ++ n.repr

/-- The branch that the loop over the parts takes. -/
inductive PartKind where
  | media (content : MediaContent)
  | call (name : String) (arguments : Json)
  | response (response : Json)
  | other

def GeminiPart.kind (part : GeminiPart) : PartKind :=
  if part.text ≠ "" then .media (.text part.text)
  else match part.inlineData, part.fileData, part.functionCall, part.functionResponse with
    | some (mimeType, data), _, _, _ =>
      .media (.imageUrl ("data:" ++ mimeType ++ ";base64," ++ data) mimeType)
    | none, some (mimeType, fileUri), _, _ => .media (.imageUrl fileUri mimeType)
    | none, none, some (name, arguments), _ => .call name arguments
    | none, none, none, some response => .response response
    | none, none, none, none => .other

structure PartState where
  messages : List ChatMessage
  mediaContents : List MediaContent := []
  toolCalls : List ToolCallRequest := []

/-- A single text is set as a string, which is parsed to that text again. -/
def lastMessage (role : String) (s : PartState) : List ChatMessage :=
  let message : ChatMessage :=
    { role
      content := if s.toolCalls.isEmpty then s.mediaContents else []
      toolCalls := s.toolCalls }
  if message.content.isEmpty ∧ message.toolCalls.isEmpty then [] else [message]

section

variable (toJSONString : Json → String)

def toolMessage (calls : Nat) (response : Json) : ChatMessage :=
  { role := "tool", toolCallId := callId calls, content := [.text (toJSONString response)] }

def partStep (s : PartState) (part : GeminiPart) : PartState :=
  match part.kind with
  | .media content => { s with mediaContents := s.mediaContents ++ [content] }
  | .call name arguments =>
    { s with toolCalls := s.toolCalls ++
        [⟨callId (s.toolCalls.length + 1), name, toJSONString arguments⟩] }
  | .response response =>
    { s with messages := s.messages ++ [toolMessage toJSONString s.toolCalls.length response] }
  | .other => s

def contentMessage (role : String) (s : PartState) : List ChatMessage :=
  lastMessage (convertGeminiRoleToOpenAI role) s

def contentStep (messages : List ChatMessage) (content : GeminiContent) : List ChatMessage :=
  let s := content.parts.foldl (partStep toJSONString) { messages }
  s.messages ++ contentMessage content.role s

def geminiToOpenAIMessages (contents : List GeminiContent) : List ChatMessage :=
  contents.foldl (contentStep toJSONString) []

end

/-- `stopSequences[:4]` of a slice with `spare` empty places behind its elements; a slice with less
than four places panics. -/
def stopOf (stopSequences : List String) (spare : Nat) : Option (Option (List String)) :=
  if stopSequences.length > 0 then
    if 4 ≤ stopSequences.length + spare then
      some (some ((stopSequences ++ List.replicate spare "").take 4))
    else none
  else some none

/-! ## Links between calls and responses -/

inductive LinkEvent where
  | call (id : String)
  | result (id : String)

/-- Every result answers the first of the calls that are still open. -/
def Linked : List String → List LinkEvent → Prop
  | _, [] => True
  | pending, .call id :: events => Linked (pending ++ [id]) events
  | [], .result _ :: _ => False
  | first :: pending, .result id :: events => id = first ∧ Linked pending events

namespace ChatMessage

def ids (message : ChatMessage) : List String := message.toolCalls.map (·.id)

def events (message : ChatMessage) : List LinkEvent :=
  if message.role = "tool" then [.result message.toolCallId] else message.ids.map .call

def texts (message : ChatMessage) : List String :=
  if message.role = "tool" then [] else message.content.filterMap (·.text?)

end ChatMessage

namespace GeminiContent

variable (content : GeminiContent)

def calls : Nat := content.parts.countP (·.kind matches .call _ _)

def responses : Nat := content.parts.countP (·.kind matches .response _)

def texts : List String := content.parts.filterMap fun part =>
  match part.kind with
  | .media media => media.text?
  | _ => none

end GeminiContent

structure KeepsLinks (contents : List GeminiContent) (messages : List ChatMessage) : Prop where
  distinct : (messages.flatMap (·.ids)).Nodup
  linked : Linked [] (messages.flatMap (·.events))
  texts : messages.flatMap (·.texts) = contents.flatMap (·.texts)

def callIds (n : Nat) : List String := (List.range n).map fun i => callId (i + 1)

theorem callId_injective : Function.Injective callId := by
  intro a b h
  have hr : a.repr = b.repr := (String.append_right_inj _).mp h
  simpa using congrArg (fun s => Nat.ofDigitChars 10 s.toList 0) hr

theorem callIds_nodup (n : Nat) : (callIds n).Nodup :=
  List.Nodup.map (fun _ _ h => Nat.succ.inj (callId_injective h)) nodup_range

section

variable (toJSONString : Json → String)

/-- What the parts of a content add to the state in which the loop over them is. -/
structure Parted (s : PartState) (content : GeminiContent) (s' : PartState) : Prop where
  ids : s'.toolCalls.map (·.id) = callIds (s.toolCalls.length + content.calls)
  texts : s'.mediaContents.filterMap (·.text?) =
    s.mediaContents.filterMap (·.text?) ++ content.texts
  messages : ∃ added, s'.messages = s.messages ++ added ∧ added.length = content.responses ∧
    ∀ message ∈ added, message.role = "tool" ∧ message.toolCalls = [] ∧
      ∃ k ≤ s.toolCalls.length + content.calls, message.toolCallId = callId k

open GeminiContent

theorem parted (role : String) (parts : List GeminiPart) (s : PartState)
    (hi : s.toolCalls.map (·.id) = callIds s.toolCalls.length) :
    Parted s ⟨role, parts⟩ (parts.foldl (partStep toJSONString) s) := by
  induction parts generalizing s with
  | nil => exact ⟨hi, (append_nil _).symm, [], (append_nil _).symm, rfl, by simp⟩
  | cons part parts ih =>
    rw [foldl_cons]
    cases hk : part.kind with
    | media content =>
      obtain ⟨hc, htx, hm⟩ := ih (partStep toJSONString s part) (by simpa [partStep, hk] using hi)
      simp only [partStep, hk] at hc htx hm ⊢
      refine ⟨by simpa [calls, hk] using hc, ?_, ?_⟩
      · rw [htx, filterMap_append, append_assoc]
        cases hte : content.text? <;> simp [texts, hk, hte]
      · simpa [calls, responses, hk] using hm
    | call name arguments =>
      obtain ⟨hc, htx, hm⟩ := ih (partStep toJSONString s part)
        (by simp [partStep, hk, hi, callIds, range_succ])
      simp only [partStep, hk, length_append, length_singleton] at hc htx hm ⊢
      refine ⟨?_, by simpa [texts, hk] using htx, ?_⟩
      · simpa [calls, hk, Nat.add_assoc, Nat.add_comm] using hc
      · simpa [calls, responses, hk, Nat.add_assoc, Nat.add_comm] using hm
    | response response =>
      obtain ⟨hc, htx, added, ha, hl, ht⟩ := ih (partStep toJSONString s part)
        (by simpa [partStep, hk] using hi)
      simp only [partStep, hk] at hc htx ha ht ⊢
      refine ⟨by simpa [calls, hk] using hc,
        by simpa [texts, hk] using htx,
        toolMessage toJSONString s.toolCalls.length response :: added, ?_, ?_, ?_⟩
      · rw [ha, append_assoc, singleton_append]
      · simpa [responses, hk] using hl
      · refine forall_mem_cons.mpr ⟨⟨rfl, rfl, _, Nat.le_add_right _ _, rfl⟩, ?_⟩
        simpa [calls, hk] using ht
    | other =>
      obtain ⟨hc, htx, hm⟩ := ih s hi
      simp only [partStep, hk]
      exact ⟨by simpa [calls, hk] using hc,
        by simpa [texts, hk] using htx,
        by simpa [calls, responses, hk] using hm⟩

theorem foldl_partStep_append (messages : List ChatMessage) (s : PartState) (parts : List GeminiPart) :
    parts.foldl (partStep toJSONString) { s with messages := messages ++ s.messages } =
      { parts.foldl (partStep toJSONString) s with
        messages := messages ++ (parts.foldl (partStep toJSONString) s).messages } := by
  induction parts generalizing s with
  | nil => rfl
  | cons part parts ih =>
    rw [foldl_cons, foldl_cons, ← ih]
    cases hk : part.kind <;> simp [partStep, hk]

theorem geminiToOpenAIMessages_eq (contents : List GeminiContent) :
    geminiToOpenAIMessages toJSONString contents =
      contents.flatMap (contentStep toJSONString []) := by
  have hs : ∀ messages content, contentStep toJSONString messages content =
      messages ++ contentStep toJSONString [] content := by
    intro messages content
    have hp := foldl_partStep_append toJSONString messages { messages := [] } content.parts
    simp only [append_nil] at hp
    simp [contentStep, hp, contentMessage, lastMessage]
  have hf : ∀ messages, contents.foldl (contentStep toJSONString) messages =
      messages ++ contents.flatMap (contentStep toJSONString []) := by
    induction contents with
    | nil => simp
    | cons content contents ih =>
      intro messages
      rw [foldl_cons, ih, hs, append_assoc, flatMap_cons]
  exact hf []

/-- The results of a content are written before its calls. -/
structure Written (content : GeminiContent) (messages : List ChatMessage) : Prop where
  ids : messages.flatMap (·.ids) = callIds content.calls
  texts : messages.flatMap (·.texts) = if content.calls = 0 then content.texts else []
  events : ∃ results : List String, results.length = content.responses ∧
    (∀ id ∈ results, ∃ k ≤ content.calls, id = callId k) ∧
    messages.flatMap (·.events) = results.map .result ++ (callIds content.calls).map .call

theorem convertGeminiRoleToOpenAI_ne (role : String) : convertGeminiRoleToOpenAI role ≠ "tool" := by
  simp only [convertGeminiRoleToOpenAI]
  split_ifs <;> decide

theorem contentMessage_spec (role : String) (s : PartState) :
    (contentMessage role s).flatMap (·.ids) = s.toolCalls.map (·.id) ∧
    (contentMessage role s).flatMap (·.events) = (s.toolCalls.map (·.id)).map .call ∧
    (contentMessage role s).flatMap (·.texts) =
      if s.toolCalls = [] then s.mediaContents.filterMap (·.text?) else [] := by
  have hr := convertGeminiRoleToOpenAI_ne role
  obtain ⟨messages, media, calls⟩ := s
  cases calls with
  | nil =>
    cases media <;>
      simp [contentMessage, lastMessage, ChatMessage.ids, ChatMessage.events, ChatMessage.texts, hr]
  | cons call calls =>
    simp [contentMessage, lastMessage, ChatMessage.ids, ChatMessage.events, ChatMessage.texts, hr]

theorem written (content : GeminiContent) : Written content (contentStep toJSONString [] content) := by
  obtain ⟨hid, htx, added, ha, hl, ht⟩ :=
    parted toJSONString content.role content.parts { messages := [] } rfl
  rw [contentStep]
  generalize content.parts.foldl (partStep toJSONString) { messages := [] } = s at *
  simp only [length_nil, Nat.zero_add, filterMap_nil, nil_append] at hid htx ha ht
  obtain ⟨hc, he, hk⟩ := contentMessage_spec content.role s
  have hn : s.toolCalls = [] ↔ content.calls = 0 := by
    simpa [callIds] using congrArg (· = []) hid
  subst ha
  refine ⟨?_, ?_, s.messages.map (·.toolCallId), by rw [length_map, hl], ?_, ?_⟩
  · rw [flatMap_append, hc, hid, flatMap_eq_nil_iff.mpr, nil_append]
    intro message hm
    simp [ChatMessage.ids, (ht message hm).2.1]
  · rw [flatMap_append, hk, htx, flatMap_eq_nil_iff.mpr, nil_append]
    · simp only [hn]
    · intro message hm
      simp [ChatMessage.texts, (ht message hm).1]
  · intro id hi
    obtain ⟨message, hm, rfl⟩ := mem_map.mp hi
    exact (ht message hm).2.2
  · rw [flatMap_append, he, hid, map_map, map_eq_flatMap (l := s.messages)]
    refine congrArg (· ++ _) (flatMap_congr fun message hm => ?_)
    simp [ChatMessage.events, (ht message hm).1]

variable {toJSONString} {contents : List GeminiContent}

/-- An id occurs at most once in each content with calls, and the first one in all of them. -/
theorem count_callIds (contents : List GeminiContent) (id : String) :
    (contents.flatMap fun content => callIds content.calls).count id ≤
        contents.countP (·.calls ≠ 0) ∧
      (contents.flatMap fun content => callIds content.calls).count (callId 1) =
        contents.countP (·.calls ≠ 0) := by
  induction contents with
  | nil => simp
  | cons content contents ih =>
    obtain ⟨hl, he⟩ := ih
    rw [flatMap_cons, count_append, count_append, countP_cons, he]
    by_cases hz : content.calls = 0
    · simpa [hz, callIds] using hl
    obtain ⟨n, hc⟩ := Nat.exists_eq_succ_of_ne_zero hz
    rw [if_pos (decide_eq_true hz), hc]
    have ho := nodup_iff_count_le_one.mp (callIds_nodup (n + 1))
    have hf : callId 1 ∈ callIds (n + 1) := mem_map.mpr ⟨0, by simp, rfl⟩
    have hp := count_pos_iff.mpr hf
    have hi := ho id
    have hfs := ho (callId 1)
    simp only [Nat.succ_eq_add_one]
    omega

theorem linked_calls (pending ids : List String) (events : List LinkEvent) :
    Linked pending (ids.map .call ++ events) ↔ Linked (pending ++ ids) events := by
  induction ids generalizing pending with
  | nil => simp
  | cons id ids ih =>
    rw [map_cons, cons_append, Linked, ih, append_assoc, singleton_append]

/-- A result before the only content with calls answers nothing, and one behind it `call_0`. -/
theorem no_responses {pending : List String}
    (hp : ∀ first ∈ pending.head?, first = callId 1 ∧ ∀ content ∈ contents, content.calls = 0)
    (hc : contents.countP (·.calls ≠ 0) ≤ 1) (h : Linked pending
      (contents.flatMap fun content => (contentStep toJSONString [] content).flatMap (·.events))) :
    ∀ content ∈ contents, content.responses = 0 := by
  induction contents generalizing pending with
  | nil => simp
  | cons content contents ih =>
    obtain ⟨results, hl, hi, he⟩ := (written toJSONString content).events
    rw [flatMap_cons, he, append_assoc] at h
    rw [countP_cons] at hc
    cases results with
    | cons id results =>
      cases pending with
      | nil => exact h.elim
      | cons first pending =>
        obtain ⟨hf, hz⟩ := hp first rfl
        obtain ⟨k, hk, hId⟩ := hi id mem_cons_self
        have ho := callId_injective (hId.symm.trans (h.1.trans hf))
        have hno := hz content mem_cons_self
        omega
    | nil =>
      refine forall_mem_cons.mpr ⟨hl.symm, ?_⟩
      rw [map_nil, nil_append, linked_calls] at h
      refine ih ?_ (by omega) h
      intro first hf
      cases pending with
      | cons other pending =>
        obtain ⟨hot, hz⟩ := hp other rfl
        cases hf
        exact ⟨hot, (forall_mem_cons.mp hz).2⟩
      | nil =>
        by_cases hz : content.calls = 0
        · simp [hz, callIds] at hf
        obtain ⟨n, hn⟩ := Nat.exists_eq_succ_of_ne_zero hz
        rw [if_pos (decide_eq_true hz)] at hc
        have hno : contents.countP (·.calls ≠ 0) = 0 := by omega
        refine ⟨?_, fun other hot => by simpa using countP_eq_zero.mp hno other hot⟩
        simpa [hn, callIds, range_succ_eq_map, eq_comm] using hf

theorem linked_of_no_responses (pending : List String)
    (h : ∀ content ∈ contents, content.responses = 0) :
    Linked pending (contents.flatMap fun content =>
      (contentStep toJSONString [] content).flatMap (·.events)) := by
  induction contents generalizing pending with
  | nil => trivial
  | cons content contents ih =>
    obtain ⟨hn, hc⟩ := forall_mem_cons.mp h
    obtain ⟨results, hl, -, he⟩ := (written toJSONString content).events
    rw [hn, length_eq_zero_iff] at hl
    rw [flatMap_cons, he, hl, map_nil, nil_append, linked_calls]
    exact ih _ hc

theorem stopOf_eq_iff (stopSequences : List String) (spare : Nat) :
    stopOf stopSequences spare =
        some (if stopSequences = [] then none else some (stopSequences.take 4)) ↔
      stopSequences = [] ∨ 4 ≤ stopSequences.length := by
  rw [stopOf]
  by_cases hn : stopSequences = []
  · simp [hn]
  simp only [length_pos_iff.mpr hn, hn, if_true, if_false, false_or]
  by_cases hf : 4 ≤ stopSequences.length
  · have ht : (stopSequences ++ List.replicate spare "").take 4 = stopSequences.take 4 :=
      take_append_of_le_length hf
    simp [ht, hf, Nat.le_add_right_of_le hf]
  refine iff_of_false (fun h => ?_) hf
  split at h
  · -- the empty places behind the sequences are taken for sequences
    have hl := congrArg (Option.map (Option.map List.length)) h
    simp at hl
    omega
  · cases h

/-- A response is never linked, a second content with calls repeats ids, a text beside a call is
dropped, and fewer than four stop sequences are filled up or panic. -/
theorem gemini_request_kept_iff (toJSONString : Json → String) (contents : List GeminiContent)
    (stopSequences : List String) (spare : Nat) :
    KeepsLinks contents (geminiToOpenAIMessages toJSONString contents) ∧
        stopOf stopSequences spare =
          some (if stopSequences = [] then none else some (stopSequences.take 4)) ↔
      ((∀ content ∈ contents, content.responses = 0) ∧ contents.countP (·.calls ≠ 0) ≤ 1 ∧
        ∀ content ∈ contents, content.calls ≠ 0 → content.texts = []) ∧
      (stopSequences = [] ∨ 4 ≤ stopSequences.length) := by
  refine and_congr ?_ (stopOf_eq_iff _ _)
  have hi : (geminiToOpenAIMessages toJSONString contents).flatMap (·.ids) =
      contents.flatMap fun content => callIds content.calls := by
    rw [geminiToOpenAIMessages_eq, flatMap_assoc]
    exact flatMap_congr fun content _ => (written toJSONString content).ids
  have ht : (geminiToOpenAIMessages toJSONString contents).flatMap (·.texts) =
      contents.flatMap fun content => if content.calls = 0 then content.texts else [] := by
    rw [geminiToOpenAIMessages_eq, flatMap_assoc]
    exact flatMap_congr fun content _ => (written toJSONString content).texts
  have hev : (geminiToOpenAIMessages toJSONString contents).flatMap (·.events) =
      contents.flatMap fun content => (contentStep toJSONString [] content).flatMap (·.events) := by
    rw [geminiToOpenAIMessages_eq, flatMap_assoc]
  have hk := (Answers.flatMap_kept_eq_iff (·.calls = 0) (·.texts) contents).2
  constructor
  · rintro ⟨hd, hl, ha⟩
    rw [hi] at hd
    rw [hev] at hl
    have ho : contents.countP (·.calls ≠ 0) ≤ 1 := by
      rw [← (count_callIds contents "").2]
      exact nodup_iff_count_le_one.mp hd _
    exact ⟨no_responses (by simp) ho hl, ho, hk.mp (ht ▸ ha)⟩
  · rintro ⟨hn, ho, he⟩
    refine ⟨?_, ?_, ?_⟩
    · rw [hi, nodup_iff_count_le_one]
      exact fun id => (count_callIds contents id).1.trans ho
    · rw [hev]
      exact linked_of_no_responses [] hn
    · rw [ht]
      exact hk.mpr he

/-- A call and its response in the next content: the response is for `call_0`. -/
theorem gemini_response_unlinked :
    ¬ KeepsLinks
      [⟨"model", [{ functionCall := some ("f", .null) }]⟩,
        ⟨"function", [{ functionResponse := some .null }]⟩]
      (geminiToOpenAIMessages (fun _ => "")
        [⟨"model", [{ functionCall := some ("f", .null) }]⟩,
          ⟨"function", [{ functionResponse := some .null }]⟩]) ∧
    stopOf ["a"] 0 = none ∧ stopOf ["a"] 3 = some (some ["a", "", "", ""]) := by
  refine ⟨fun h => ?_, rfl, rfl⟩
  have hi : callId 0 = callId 1 := h.linked.1
  exact absurd (callId_injective hi) (by decide)

end

end DeepRouter.Relay.Gemini

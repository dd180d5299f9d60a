import DeepRouter.Relay.ToClaude

/-! # Validity and content of a converted request -/

namespace DeepRouter.Relay.ToClaude

open List ToClaude.Message ClaudeContent

structure Message.Ready (message : Message) : Prop where
  toolCalls : message.formatted.toolCalls = message.toolCalls
  content : (∃ texts, message.content = .parts texts) ∨
    ∃ text, message.content = .text text ∧ text ≠ ""

theorem Formats.ready {m last : Message} {element : List Message}
    (h : Formats m element last) : last.Ready := by
  refine ⟨?_, h.content.imp ?_ ?_⟩
  · by_cases hr : m.role = "assistant" <;>
      simp [formatted, h.role, h.toolCalls, hr]
  · rintro ⟨texts, -, hc⟩
    exact ⟨texts, hc⟩
  · rintro ⟨-, text, hc, ht, -⟩
    exact ⟨text, hc, ht⟩

section

variable {ms formatted : List Message} (h : Formatting ms formatted)

include h

theorem Formatting.ready : ∀ message ∈ formatted, message.Ready := by
  induction h with
  | nil => nofun
  | added _ hn ih => exact forall_mem_cons.mpr ⟨(formats_filled hn).ready, ih⟩
  | joined _ hj _ _ _ _ _ _ _ ih =>
    exact forall_mem_cons.mpr ⟨(formats_joined hj _ _).ready, (forall_mem_cons.mp ih).2⟩

theorem Formatting.forall_role_iff (P : String → Prop) :
    (∀ message ∈ formatted, P message.role) ↔ ∀ message ∈ ms, P message.role := by
  induction h with
  | nil => rfl
  | added _ hn ih => rw [forall_mem_cons, forall_mem_cons, ih, (formats_filled hn).role]
  | joined _ _ _ hr _ _ _ _ _ ih =>
    rw [forall_mem_cons, hr] at ih
    rw [forall_mem_cons, forall_mem_cons, ← ih, ← and_assoc, and_self]
    exact Iff.rfl

end

section

variable (unmarshal : String → Option (List (String × Json)))

def Message.isHollow (message : Message) : Bool :=
  message.content.isParts ∧ message.content.nonEmptyTexts = [] ∧
    toolUses unmarshal message.formatted.toolCalls = []

def Fills (followed : Bool) : List Message → Prop
  | [] => True
  | message :: earlier =>
    if message.role = "system" then Fills followed earlier
    else if message.role = "tool" then Fills true earlier
    else (message.isHollow unmarshal → followed ∧ message.role = "user") ∧ Fills false earlier

theorem isHollow_text {m : Message} {text : String} (h : m.content = .text text) :
    m.isHollow unmarshal = false := by
  simp [isHollow, h, MessageContent.isParts]

theorem isHollow_filled (m : Message) :
    m.formatted.filled.isHollow unmarshal = m.isHollow unmarshal := by
  have hf : Formats m [] m.formatted.filled := formats_filled rfl
  rcases hf.content with ⟨texts, hc, hfi⟩ | ⟨hp, text, hfi, -⟩
  · simp [isHollow, hc, hfi, hf.ready.toolCalls, hf.toolCalls]
  · rw [isHollow_text unmarshal hfi, isHollow]
    simp [hp]

theorem Formatting.fills_iff {ms formatted : List Message} (h : Formatting ms formatted)
    (followed : Bool) : Fills unmarshal followed formatted ↔ Fills unmarshal followed ms := by
  induction h generalizing followed with
  | nil => rfl
  | added _ hn ih => simp only [Fills, ih, (formats_filled hn).role, isHollow_filled]
  | @joined message _ _ _ _ _ _ _ _ _ hr hto hte _ _ hc ih =>
    have hm : ∀ text, (message.formatted.setStringContent text).isHollow unmarshal = false :=
      fun _ => isHollow_text unmarshal rfl
    rw [Fills, Fills]
    simp only [setStringContent_role, hto, if_false, isHollow_text unmarshal hc, hm, ← ih]
    simp only [Fills, hr, hto, if_false, isHollow_text unmarshal hte, Bool.false_eq_true,
      false_imp_iff, true_and]
    split <;> rfl

end

section

variable (unmarshal : String → Option (List (String × Json)))

def ClaudeContent.isEmpty : ClaudeContent → Bool
  | .text content => content = ""
  | .media messages => messages.isEmpty

def dots : ClaudeMessage := ⟨"user", .media [.text "..."]⟩

def Starts (message : Message) (state : Converted) (start : List ClaudeMessage) : Prop :=
  start = state.messages ∧ (state.messages ≠ [] ∨ message.role = "user") ∨
    state.messages = [] ∧ start = [dots]

/-- The formatted messages, the last one first, and what they are converted to. -/
inductive Conversion : List Message → Converted → Prop
  | nil : Conversion [] {}
  | system {message : Message} {earlier : List Message} {state : Converted}
      (h : Conversion earlier state) (hr : message.role = "system") :
      Conversion (message :: earlier)
        { state with system := state.system ++ message.content.nonEmptyTexts }
  | added {message : Message} {earlier : List Message} {state : Converted} {last : ClaudeMessage}
      {older : List ClaudeMessage} (h : Conversion earlier state) (hr : message.role = "tool")
      (hs : Starts message state (last :: older)) (hu : last.role = "user") :
      Conversion (message :: earlier)
        { state with messages := { last with content := .media (last.content.toMedia ++
          [.toolResult message.toolCallId message.content]) } :: older }
  | result {message : Message} {earlier : List Message} {state : Converted}
      {start : List ClaudeMessage} (h : Conversion earlier state) (hr : message.role = "tool")
      (hs : Starts message state start) (ho : ∀ last ∈ start.head?, last.role ≠ "user") :
      Conversion (message :: earlier)
        { state with messages :=
          ⟨"user", .media [.toolResult message.toolCallId message.content]⟩ :: start }
  | message {message : Message} {earlier : List Message} {state : Converted}
      {start : List ClaudeMessage} (h : Conversion earlier state) (hsy : message.role ≠ "system")
      (ht : message.role ≠ "tool") (hs : Starts message state start) :
      Conversion (message :: earlier)
        { state with messages := message.toClaude unmarshal :: start }

theorem Conversion.step {element : List Message} {state : Converted}
    (h : Conversion unmarshal element state) (m : Message) :
    Conversion unmarshal (m :: element) (convertStep unmarshal m state) := by
  rw [convertStep]
  split
  · exact .system h ‹_›
  rename_i hsy
  have hs : Starts m state (if state.messages.isEmpty ∧ m.role ≠ "user" then
      [⟨"user", .media [.text "..."]⟩] else state.messages) := by
    split
    · rename_i hn
      exact .inr ⟨isEmpty_iff.mp hn.1, rfl⟩
    · rename_i ho
      refine .inl ⟨rfl, or_iff_not_imp_left.mpr fun he => ?_⟩
      simpa [not_not.mp he] using ho
  generalize (if state.messages.isEmpty ∧ m.role ≠ "user" then
    [⟨"user", .media [.text "..."]⟩] else state.messages) = start at hs ⊢
  simp only
  split
  · cases start with
    | nil => exact .result h ‹_› hs nofun
    | cons last older =>
      rw [addResult]
      split
      · exact .added h ‹_› hs ‹_›
      · exact .result h ‹_› hs (by simpa using ‹_›)
  · exact .message h hsy ‹_› hs

theorem convertMessages_conversion (messages : List Message) :
    Conversion unmarshal messages (convertMessages unmarshal messages) := by
  induction messages with
  | nil => exact .nil
  | cons message earlier ih => exact ih.step unmarshal message

def ValidRole (role : String) : Prop := role = "user" ∨ role = "assistant"

theorem Starts.forall_iff {P : ClaudeMessage → Prop} (hd : P dots) {message : Message}
    {state : Converted} {start : List ClaudeMessage} (h : Starts message state start) :
    (∀ m ∈ start, P m) ↔ ∀ m ∈ state.messages, P m := by
  obtain ⟨rfl, -⟩ | ⟨he, rfl⟩ := h
  · rfl
  · simp [he, hd]

section

variable {unmarshal} {ms : List Message} {converted : Converted}

theorem Conversion.system_eq (h : Conversion unmarshal ms converted) :
    converted.system = textBlocks "system" ms := by
  induction h with
  | nil => rfl
  | system _ hr ih => rw [textBlocks, if_pos hr, ← ih]
  | added _ hr _ _ ih | result _ hr _ _ ih =>
    rw [textBlocks, ← ih, hr, if_neg (by decide), append_nil]
  | message _ hs _ _ ih => rw [textBlocks, ← ih, if_neg hs, append_nil]

theorem Conversion.validRole_iff (h : Conversion unmarshal ms converted) :
    (∀ m ∈ converted.messages, ValidRole m.role) ↔
      ∀ message ∈ ms, message.role ∈ ["system", "user", "assistant", "tool"] := by
  induction h with
  | nil => exact iff_of_true nofun nofun
  | system _ hr ih => simpa [hr] using ih
  | added _ hr hst hu ih =>
    have hst := hst.forall_iff (P := fun m => ValidRole m.role) (.inl rfl)
    rw [forall_mem_cons] at hst
    rw [forall_mem_cons, forall_mem_cons, ← ih, ← hst]
    simp [hr, hu, ValidRole]
  | result _ hr hst _ ih =>
    have hst := hst.forall_iff (P := fun m => ValidRole m.role) (.inl rfl)
    rw [forall_mem_cons, forall_mem_cons, ← ih, hst]
    simp [hr, ValidRole]
  | message _ hs ht hst ih =>
    have hst := hst.forall_iff (P := fun m => ValidRole m.role) (.inl rfl)
    rw [forall_mem_cons, forall_mem_cons, ← ih, hst]
    simp [hs, ht, ValidRole, toClaude]

theorem first_cons {m : ClaudeMessage} {start : List ClaudeMessage}
    (hs : ∀ first ∈ start.getLast?, first.role = "user") (hn : start = [] → m.role = "user") :
    ∀ first ∈ (m :: start).getLast?, first.role = "user" := by
  cases start with
  | nil => simpa using hn rfl
  | cons last older => simpa using hs

theorem Starts.first {message : Message} {state : Converted} {start : List ClaudeMessage}
    (h : Starts message state start)
    (hf : ∀ first ∈ state.messages.getLast?, first.role = "user") :
    (∀ first ∈ start.getLast?, first.role = "user") ∧ (start = [] → message.role = "user") := by
  obtain ⟨rfl, ho⟩ | ⟨-, rfl⟩ := h
  · exact ⟨hf, fun h => ho.resolve_left (absurd h)⟩
  · exact ⟨by simp [dots], nofun⟩

theorem Conversion.first (h : Conversion unmarshal ms converted) :
    (converted.messages = [] ↔ ∀ message ∈ ms, message.role = "system") ∧
    ∀ first ∈ converted.messages.getLast?, first.role = "user" := by
  induction h with
  | nil => exact ⟨iff_of_true rfl nofun, nofun⟩
  | system _ hr ih => simpa [hr, ← ih.1] using ih.2
  | @added _ _ _ last older _ hr hst hu ih =>
    refine ⟨by simp [hr], first_cons (fun first h => ?_) fun _ => hu⟩
    exact (hst.first ih.2).1 first (by cases older <;> simp_all)
  | result _ hr hst _ ih => exact ⟨by simp [hr], first_cons (hst.first ih.2).1 fun _ => rfl⟩
  | message _ hs _ hst ih =>
    exact ⟨by simp [hs], first_cons (hst.first ih.2).1 (hst.first ih.2).2⟩

def NonEmpty (followed : Bool) : List ClaudeMessage → Prop
  | [] => True
  | last :: older => (last.content.isEmpty → followed ∧ last.role = "user") ∧
      ∀ message ∈ older, message.content.isEmpty = false

theorem nonEmpty_false (ms : List ClaudeMessage) :
    NonEmpty false ms ↔ ∀ message ∈ ms, message.content.isEmpty = false := by
  cases ms <;> simp [NonEmpty]

theorem Starts.nonEmpty {m : Message} {state : Converted} {start : List ClaudeMessage}
    (h : Starts m state start) (followed : Bool) :
    NonEmpty followed start ↔ NonEmpty followed state.messages := by
  obtain ⟨rfl, -⟩ | ⟨he, rfl⟩ := h
  · rfl
  · simp [he, NonEmpty, dots, ClaudeContent.isEmpty]

theorem isEmpty_toClaude {m : Message} (h : m.Ready) :
    (m.toClaude unmarshal).content.isEmpty = m.isHollow unmarshal := by
  rcases h.content with ⟨texts, hco⟩ | ⟨text, hco, ht⟩
  · rw [Bool.eq_iff_iff]
    simp [toClaude, isHollow, hco, ClaudeContent.isEmpty, h.toolCalls, MessageContent.isParts]
  · rw [isHollow_text unmarshal hco]
    cases hc : m.toolCalls <;>
      simp [toClaude, hco, hc, ClaudeContent.isEmpty, nonEmptyTexts_text, ht]

theorem Conversion.nonEmpty_iff (h : Conversion unmarshal ms converted)
    (hr : ∀ message ∈ ms, message.Ready) (followed : Bool) :
    NonEmpty followed converted.messages ↔ Fills unmarshal followed ms := by
  induction h generalizing followed with
  | nil => exact Iff.rfl
  | system _ hro ih =>
    rw [Fills, if_pos hro]
    exact ih (forall_mem_cons.mp hr).2 followed
  | added _ hro hst hu ih =>
    rw [Fills, hro, if_neg (by decide), if_pos rfl, ← ih (forall_mem_cons.mp hr).2, ← hst.nonEmpty]
    simp [NonEmpty, hu, ClaudeContent.isEmpty]
  | @result _ _ _ start _ hro hst ho ih =>
    rw [Fills, hro, if_neg (by decide), if_pos rfl, ← ih (forall_mem_cons.mp hr).2, ← hst.nonEmpty]
    cases start with
    | nil => simp [NonEmpty, ClaudeContent.isEmpty]
    | cons last older =>
      have hl : last.role ≠ "user" := ho last rfl
      simp [NonEmpty, ClaudeContent.isEmpty, hl]
  | message _ hs ht hst ih =>
    obtain ⟨hm, he⟩ := forall_mem_cons.mp hr
    rw [Fills, if_neg hs, if_neg ht, ← ih he, ← hst.nonEmpty, nonEmpty_false, NonEmpty,
      isEmpty_toClaude hm]
    rfl

end

structure Valid (messages : List Message) (converted : Converted) : Prop where
  roles : ∀ message ∈ converted.messages, ValidRole message.role
  first : converted.messages.head?.map (·.role) = some "user"
  content : ∀ message ∈ converted.messages, message.content.isEmpty = false
  system : InOrder (messages.flatMap fun message =>
    if message.role = "system" ∨ message.role = "developer" then message.content.nonEmptyTexts
    else []) converted.system

theorem textBlocks_reverse (role : String) (ms : List Message) :
    textBlocks role ms.reverse = ms.flatMap fun message =>
      if message.role = role then message.content.nonEmptyTexts else [] := by
  have hr : ∀ l, textBlocks role l = l.reverse.flatMap fun message =>
      if message.role = role then message.content.nonEmptyTexts else [] := by
    intro l
    induction l with
    | nil => rfl
    | cons message earlier ih => rw [textBlocks, ih, reverse_cons, flatMap_append]; simp
  rw [hr, reverse_reverse]

/-- A role that is empty or the developer's stays, and a quotation mark is lost when system messages
are merged. -/
theorem converted_request_valid_iff {messages : List Message}
    (hMessages : ∃ message ∈ messages, message.role ≠ "system") :
    Valid messages (requestOpenAI2ClaudeMessage unmarshal messages) ↔
      (∀ message ∈ messages, message.role ∈ ["system", "user", "assistant", "tool"]) ∧
        Fills unmarshal false messages.reverse ∧ KeepsQuotes "system" messages.reverse := by
  have hfo := formatMessages_formatting messages.reverse
  have hco := convertMessages_conversion unmarshal (formatMessages messages.reverse)
  obtain ⟨he, hfs⟩ := hco.first
  have hr := hco.validRole_iff
  rw [hfo.forall_role_iff (· ∈ ["system", "user", "assistant", "tool"])] at hr
  rw [hfo.forall_role_iff (· = "system")] at he
  simp only [mem_reverse] at hr he
  have hc := (hco.nonEmpty_iff hfo.ready false).trans (hfo.fills_iff unmarshal false)
  have ho := inOrder_textBlocks_iff "system" messages.reverse
  rw [← hco.system_eq] at ho
  have ht : (∀ message ∈ messages, message.role ∈ ["system", "user", "assistant", "tool"]) →
      (messages.flatMap fun message => if message.role = "system" ∨ message.role = "developer" then
        message.content.nonEmptyTexts else []) = textBlocks "system" messages.reverse := by
    intro h
    rw [textBlocks_reverse]
    refine flatMap_congr fun message hm => ?_
    have hd : message.role ≠ "developer" := fun hro => by simpa [hro] using h _ hm
    simp only [hd, or_false]
  constructor
  · rintro ⟨hv, -, hn, hs⟩
    have hv := hr.mp fun message h => hv message (mem_reverse.mpr h)
    rw [ht hv] at hs
    refine ⟨hv, hc.mp ((nonEmpty_false _).mpr fun message h => ?_), ho.mp hs⟩
    exact hn message (mem_reverse.mpr h)
  · rintro ⟨hv, hf, hq⟩
    refine ⟨fun message h => hr.mpr hv message (mem_reverse.mp h), ?_, fun message h =>
      (nonEmpty_false _).mp (hc.mpr hf) message (mem_reverse.mp h), ?_⟩
    · rw [requestOpenAI2ClaudeMessage, head?_reverse]
      cases hl : (convertMessages unmarshal (formatMessages messages.reverse)).messages.getLast? with
      | none =>
        obtain ⟨message, hm, hro⟩ := hMessages
        exact absurd (he.mp (getLast?_eq_none_iff.mp hl) message hm) hro
      | some first => exact congrArg some (hfs first hl)
    · rw [ht hv]
      exact ho.mpr hq

theorem merged_system_valid :
    let messages : List Message := [⟨"system", .text "a", "", none⟩, ⟨"system", .text "b", "", none⟩,
      ⟨"assistant", .null, "", none⟩]
    Valid messages (requestOpenAI2ClaudeMessage (fun _ => none) messages) := by
  refine (converted_request_valid_iff _ (by decide)).mpr ⟨by decide, ?_, ?_⟩
  · simp [Fills, isHollow, MessageContent.isParts]
  · simp [KeepsQuotes, joinsLast, startsQuoted, quote]

theorem other_roles_invalid :
    let unnamed : List Message := [⟨"", .text "a", "", none⟩]
    let developer : List Message := [⟨"developer", .text "a", "", none⟩, ⟨"user", .text "b", "", none⟩]
    ¬ Valid unnamed (requestOpenAI2ClaudeMessage (fun _ => none) unnamed) ∧
      ¬ Valid developer (requestOpenAI2ClaudeMessage (fun _ => none) developer) := by
  constructor
  · intro h
    have hr := h.roles ⟨"", .text "a"⟩ (.tail _ (.head _))
    simp [ValidRole] at hr
  · intro h
    have hr := h.roles ⟨"developer", .text "a"⟩ (.tail _ (.head _))
    simp [ValidRole] at hr

end

/-! ## Content -/

def ClaudeMediaMessage.text? : ClaudeMediaMessage → Option String
  | .text content => some content
  | _ => none

def callBlocks (messages : List ClaudeMessage) : List ClaudeMediaMessage :=
  (messages.flatMap (·.content.toMedia)).filter (·.text?.isNone)

def roleTexts (role : String) (messages : List ClaudeMessage) : List String :=
  messages.flatMap fun message =>
    if message.role = role then message.content.toMedia.filterMap (·.text?) else []

section

variable (unmarshal : String → Option (List (String × Json)))

def Message.blocks (message : Message) : List ClaudeMediaMessage :=
  if message.role = "tool" then [.toolResult message.toolCallId message.filled.content]
  else if message.role = "assistant" then toolUses unmarshal message.toolCalls
  else []

def KeepsCalls : List Message → Prop
  | [] => True
  | message :: earlier =>
    (joinsLast message earlier → ∀ previous ∈ earlier.head?, previous.blocks unmarshal = []) ∧
      KeepsCalls earlier

theorem blocks_of_ne_tool {m : Message} (h : m.role ≠ "tool") :
    m.blocks unmarshal = toolUses unmarshal m.formatted.toolCalls := by
  rw [blocks, if_neg h, formatted]
  split <;> rfl

theorem Message.Ready.filled_eq {message : Message} (h : message.Ready) :
    message.filled = message := by
  rcases h.content with ⟨texts, hc⟩ | ⟨text, hc, ht⟩
  · rw [filled, hc]
  · exact filled_text hc ht

theorem Formats.blocks_eq {m last : Message} {element : List Message}
    (h : Formats m element last) (ht : m.role ≠ "tool") :
    last.blocks unmarshal = m.blocks unmarshal := by
  rw [blocks_of_ne_tool unmarshal ht, blocks_of_ne_tool unmarshal (h.role ▸ ht), h.ready.toolCalls,
    h.toolCalls]

theorem blocks_filled (m : Message) : m.formatted.filled.blocks unmarshal = m.blocks unmarshal := by
  have hf : Formats m [] m.formatted.filled := formats_filled rfl
  by_cases hr : m.role = "tool"
  · have hc : m.formatted.filled.content = m.filled.content := by
      dsimp only [filled, formatted]
      split <;> rfl
    rw [blocks, blocks, hf.role, if_pos hr, if_pos hr, hf.ready.filled_eq, hc, hf.toolCallId,
      formatted, if_pos hr]
  · exact hf.blocks_eq unmarshal hr

theorem Formatting.blocks {ms formatted : List Message} (h : Formatting ms formatted) :
    (formatted.reverse.flatMap (·.blocks unmarshal)).Sublist
      (ms.reverse.flatMap (·.blocks unmarshal)) ∧
    (formatted.reverse.flatMap (·.blocks unmarshal) = ms.reverse.flatMap (·.blocks unmarshal) ↔
      KeepsCalls unmarshal ms) := by
  induction h with
  | nil => exact ⟨.slnil, iff_of_true rfl trivial⟩
  | added _ hn ih =>
    simp only [reverse_cons, flatMap_append, flatMap_singleton, blocks_filled,
      append_cancel_right_eq, ih.2, KeepsCalls, hn]
    exact ⟨ih.1.append_right _, by simp⟩
  | @joined message previous last rest older text content _ hj hl hr hto _ _ _ _ ih =>
    obtain ⟨hs, he⟩ := ih
    have hp := hl.blocks_eq unmarshal (hl.role ▸ hr ▸ hto)
    have hm := (formats_joined hj text content).blocks_eq unmarshal hto
    have hea : (previous :: rest).head? = some previous := rfl
    generalize previous :: rest = earlier at hj hea hs he ⊢
    rw [reverse_cons, flatMap_append, flatMap_singleton, hp] at hs he
    have ho := (sublist_append_left _ _).trans hs
    simp only [reverse_cons, flatMap_append, flatMap_singleton, hm, append_cancel_right_eq,
      KeepsCalls, hj, forall_true_left, hea, Option.mem_some, forall_eq']
    refine ⟨ho.append_right _, fun h => ?_, fun ⟨hno, hk⟩ => ?_⟩
    · -- Nothing was dropped before, and the blocks of the replaced message would be.
      rw [← h] at hs
      have hle := hs.length_le
      rw [length_append] at hle
      have hno : previous.blocks unmarshal = [] := eq_nil_of_length_eq_zero (by omega)
      exact ⟨hno, he.mp (by rw [hno, append_nil, h])⟩
    · rw [← he.mpr hk, hno, append_nil]

theorem toMedia_toClaude {m : Message} (h : m.Ready) :
    (m.toClaude unmarshal).content.toMedia =
      m.content.nonEmptyTexts.map .text ++ toolUses unmarshal m.toolCalls := by
  rcases h.content with ⟨texts, hco⟩ | ⟨text, hco, ht⟩
  · simp [toClaude, hco, toMedia]
  · cases hc : m.toolCalls <;>
      simp [toClaude, hco, hc, toMedia, nonEmptyTexts_text, ht, toolUses]

theorem toolUses_text? (calls : Option (List ToolCallRequest)) :
    ∀ block ∈ toolUses unmarshal calls, block.text? = none := by
  intro block hb
  obtain ⟨call, -, hc⟩ := mem_filterMap.mp hb
  obtain ⟨input, -, rfl⟩ := Option.map_eq_some_iff.mp hc
  rfl

theorem callBlocks_reverse_cons (last : ClaudeMessage) (older : List ClaudeMessage) :
    callBlocks (last :: older).reverse =
      callBlocks older.reverse ++ last.content.toMedia.filter (·.text?.isNone) := by
  simp [callBlocks]

theorem Starts.callBlocks_eq {m : Message} {state : Converted} {start : List ClaudeMessage}
    (h : Starts m state start) : callBlocks start.reverse = callBlocks state.messages.reverse := by
  obtain ⟨rfl, -⟩ | ⟨he, rfl⟩ := h
  · rfl
  · rw [he]
    rfl

theorem Conversion.callBlocks_eq {ms : List Message} {converted : Converted}
    (h : Conversion unmarshal ms converted) (hr : ∀ message ∈ ms, message.Ready) :
    callBlocks converted.messages.reverse = ms.reverse.flatMap (·.blocks unmarshal) := by
  induction h with
  | nil => rfl
  | system _ hro ih => simp [ih (forall_mem_cons.mp hr).2, blocks, hro]
  | added _ hro hst hu ih =>
    obtain ⟨hm, he⟩ := forall_mem_cons.mp hr
    rw [callBlocks_reverse_cons, reverse_cons, flatMap_append, flatMap_singleton, ← ih he,
      ← hst.callBlocks_eq, callBlocks_reverse_cons, blocks, if_pos hro, hm.filled_eq, append_assoc]
    simp [toMedia, ClaudeMediaMessage.text?]
  | result _ hro hst _ ih =>
    obtain ⟨hm, he⟩ := forall_mem_cons.mp hr
    rw [callBlocks_reverse_cons, reverse_cons, flatMap_append, flatMap_singleton, ← ih he,
      hst.callBlocks_eq, blocks, if_pos hro, hm.filled_eq]
    rfl
  | @message message _ _ _ _ hs ht hst ih =>
    obtain ⟨hm, he⟩ := forall_mem_cons.mp hr
    have htx : (message.content.nonEmptyTexts.map ClaudeMediaMessage.text).filter
        (·.text?.isNone) = [] := by
      simp [ClaudeMediaMessage.text?]
    have hca := toolUses_text? unmarshal message.toolCalls
    rw [callBlocks_reverse_cons, reverse_cons, flatMap_append, flatMap_singleton, ← ih he,
      hst.callBlocks_eq, toMedia_toClaude unmarshal hm, filter_append, htx, nil_append,
      blocks_of_ne_tool unmarshal ht, hm.toolCalls,
      filter_eq_self.mpr fun block h => by simp [hca block h]]

def Tells (role : String) (messages : List ClaudeMessage) (texts : List String) : Prop :=
  ∃ first ∈ [[], ["..."]], roleTexts role messages.reverse = first ++ texts

theorem roleTexts_reverse_cons (role : String) (last : ClaudeMessage) (older : List ClaudeMessage) :
    roleTexts role (last :: older).reverse = roleTexts role older.reverse ++
      if last.role = role then last.content.toMedia.filterMap (·.text?) else [] := by
  simp [roleTexts]

theorem Tells.cons {role : String} {last : ClaudeMessage} {older : List ClaudeMessage}
    {texts more : List String} (h : Tells role older texts)
    (hl : (if last.role = role then last.content.toMedia.filterMap (·.text?) else []) = more) :
    Tells role (last :: older) (texts ++ more) := by
  obtain ⟨first, hf, ht⟩ := h
  refine ⟨first, hf, ?_⟩
  rw [roleTexts_reverse_cons, ht, hl, append_assoc]

theorem Starts.tells {m : Message} {state : Converted} {start : List ClaudeMessage}
    {role : String} {texts : List String} (h : Starts m state start)
    (ht : Tells role state.messages texts) : Tells role start texts := by
  obtain ⟨rfl, -⟩ | ⟨he, rfl⟩ := h
  · exact ht
  obtain ⟨first, -, ht⟩ := ht
  rw [he] at ht
  obtain ⟨rfl, rfl⟩ := append_eq_nil_iff.mp ht.symm
  by_cases hr : role = "user"
  · exact ⟨["..."], by simp, by rw [hr]; rfl⟩
  · exact ⟨[], by simp, by simp [roleTexts, dots, Ne.symm hr]⟩

theorem Conversion.tells {role : String} (hs : role ≠ "system") (hto : role ≠ "tool")
    {ms : List Message} {converted : Converted} (h : Conversion unmarshal ms converted)
    (hr : ∀ message ∈ ms, message.Ready) : Tells role converted.messages (textBlocks role ms) := by
  induction h with
  | nil => exact ⟨[], by simp, rfl⟩
  | system _ hro ih =>
    rw [textBlocks, hro, if_neg hs.symm, append_nil]
    exact ih (forall_mem_cons.mp hr).2
  | added _ hro hst hu ih =>
    obtain ⟨first, hf, ht⟩ := hst.tells (ih (forall_mem_cons.mp hr).2)
    rw [textBlocks, hro, if_neg hto.symm, append_nil]
    refine ⟨first, hf, ?_⟩
    rw [← ht, roleTexts_reverse_cons, roleTexts_reverse_cons]
    simp [toMedia, ClaudeMediaMessage.text?]
  | result _ hro hst _ ih =>
    rw [textBlocks, hro, if_neg hto.symm]
    exact (hst.tells (ih (forall_mem_cons.mp hr).2)).cons (by simp [toMedia, ClaudeMediaMessage.text?])
  | @message message _ _ _ _ _ _ hst ih =>
    obtain ⟨hm, he⟩ := forall_mem_cons.mp hr
    refine (hst.tells (ih he)).cons (if_congr Iff.rfl ?_ rfl)
    rw [toMedia_toClaude unmarshal hm, filterMap_append,
      filterMap_eq_nil_iff.mpr (toolUses_text? unmarshal message.toolCalls), append_nil]
    simp [filterMap_map, ClaudeMediaMessage.text?]

structure KeepsContent (messages : List Message) (converted : Converted) : Prop where
  calls : callBlocks converted.messages = messages.flatMap (·.blocks unmarshal)
  texts : ∀ role ∈ ["user", "assistant"], InOrder (messages.flatMap fun message =>
    if message.role = role then message.content.nonEmptyTexts else [])
      (roleTexts role converted.messages)

theorem inOrder_roleTexts_iff {role : String} (hs : role ≠ "system") (ht : role ≠ "tool")
    (messages : List Message) :
    InOrder (textBlocks role messages) (roleTexts role
      (convertMessages unmarshal (formatMessages messages)).messages.reverse) ↔
        KeepsQuotes role messages := by
  have hfo := formatMessages_formatting messages
  obtain ⟨first, hf, htx⟩ :=
    (convertMessages_conversion unmarshal (formatMessages messages)).tells unmarshal hs ht hfo.ready
  obtain ⟨hl, hk, ho⟩ := hfo.keepsQuotes role
  rw [htx]
  -- The dots in front have no quotation mark, so none can stand for one that was trimmed.
  have hz : ∀ dots ∈ [[], ["..."]], quotes dots = 0 := by decide
  refine ⟨fun h => hk (hl.antisymm ?_), fun h => ?_⟩
  · have hq := h.quotes_le
    rwa [quotes_append, hz first hf, Nat.zero_add] at hq
  · obtain rfl | rfl : first = [] ∨ first = ["..."] := by simpa using hf
    · exact ho h
    · exact (ho h).cons _

/-- A message with calls that is merged with the next one loses them, and merging loses quotation
marks. -/
theorem converted_content_kept_iff (messages : List Message) :
    KeepsContent unmarshal messages (requestOpenAI2ClaudeMessage unmarshal messages) ↔
      KeepsCalls unmarshal messages.reverse ∧
        ∀ role ∈ ["user", "assistant"], KeepsQuotes role messages.reverse := by
  have hfo := formatMessages_formatting messages.reverse
  have hc := (hfo.blocks unmarshal).2
  rw [← (convertMessages_conversion unmarshal _).callBlocks_eq unmarshal hfo.ready,
    reverse_reverse] at hc
  have ht : ∀ role ∈ ["user", "assistant"], (InOrder (messages.flatMap fun message =>
      if message.role = role then message.content.nonEmptyTexts else [])
        (roleTexts role (requestOpenAI2ClaudeMessage unmarshal messages).messages) ↔
          KeepsQuotes role messages.reverse) := by
    intro role hr
    rw [← textBlocks_reverse]
    obtain rfl | rfl : role = "user" ∨ role = "assistant" := by simpa using hr
    · exact inOrder_roleTexts_iff unmarshal (by decide) (by decide) _
    · exact inOrder_roleTexts_iff unmarshal (by decide) (by decide) _
  constructor
  · rintro ⟨hk, ho⟩
    exact ⟨hc.mp hk, fun role hr => (ht role hr).mp (ho role hr)⟩
  · rintro ⟨hk, ho⟩
    exact ⟨hc.mpr hk, fun role hr => (ht role hr).mpr (ho role hr)⟩

theorem merged_messages_lose_content :
    let calling : List Message := [⟨"assistant", .text "a", "", some [⟨"1", "f", "\x7b\x7d"⟩]⟩,
      ⟨"assistant", .text "b", "", none⟩]
    let quoted : List Message := [⟨"user", .text "\"a\"", "", none⟩, ⟨"user", .text "b", "", none⟩]
    ¬ KeepsContent (fun _ => some []) calling
        (requestOpenAI2ClaudeMessage (fun _ => some []) calling) ∧
      ¬ KeepsContent (fun _ => none) quoted (requestOpenAI2ClaudeMessage (fun _ => none) quoted) := by
  constructor
  · intro h
    exact absurd (congrArg List.length h.calls) (by decide)
  · intro h
    exact absurd (h.texts "user" (.head _)).quotes_le (by decide)

end

end DeepRouter.Relay.ToClaude

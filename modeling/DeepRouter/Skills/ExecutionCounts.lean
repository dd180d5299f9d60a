import DeepRouter.Skills.DisplayedEntitlement
import DeepRouter.Skills.EventProducers

/-! # Usage events as a count of executions

A successful execution writes its events in one transaction. The unique index on `first_use_key`
lets one first use in, and every later execution is numbered by the events counted so far. -/

namespace DeepRouter.Skills

open GoStrings Atomic Runs List

/-- A call and the error of the statement that fails in it. Whichever statement it is, the
transaction is rolled back. -/
structure Execution where
  call : ExecutionCall
  fault : Option String := none

namespace Execution

def emit (events : List SkillUsageEvent) (execution : Execution) :
    Except String Unit × List SkillUsageEvent :=
  transaction events ((emitSuccessfulExecution execution.call events).map fun rows =>
    ((), events ++ rows)) execution.fault

def step (events : List SkillUsageEvent) (execution : Execution) : List SkillUsageEvent :=
  (execution.emit events).2

def succeeds (events : List SkillUsageEvent) (execution : Execution) : Bool :=
  (execution.emit events).1.isOk

end Execution

/-! ## What one execution writes -/

def firstUseRow (call : ExecutionCall) (context : SkillRelayContext) : SkillUsageEvent :=
  { buildSuccessfulExecutionEvent call context .firstUse none with
    firstUseKey := some (firstUseKeyOf context.userID context.skillID) }

def hasFirstUse (userID : Int) (skillID : String) (events : List SkillUsageEvent) : Bool :=
  events.any fun event => event.firstUseKey = some (firstUseKeyOf userID skillID)

def executionRows (call : ExecutionCall) (context : SkillRelayContext)
    (events : List SkillUsageEvent) : List SkillUsageEvent :=
  let used := buildSuccessfulExecutionEvent call context .used none
  [used, if hasFirstUse context.userID context.skillID (events ++ [used]) then
      buildSuccessfulExecutionEvent call context .repeatUse
        (some (successfulUseCount context (events ++ [used])))
    else firstUseRow call context]

section

variable {call : ExecutionCall} {context : SkillRelayContext} {event row : SkillUsageEvent}
  {events rows : List SkillUsageEvent} {eventType : UsageEventType} {repeatIndex : Option Nat}

theorem beforeCreate_stamped {fields : List (String × Json)}
    (hm : event.metadata = some (.obj fields))
    (hv : fields.lookup "schema_version" = some (.str skillEventSchemaVersion))
    (h : beforeCreate event = .ok row) : row = event.withFirstUseKey := by
  have hk : event.withFirstUseKey.metadata = event.metadata := by
    rw [SkillUsageEvent.withFirstUseKey]
    split <;> rfl
  simp only [beforeCreate, bind_eq_ok, hk, hm, Option.getD_some] at h
  obtain ⟨found, hf, stamped, hs, _, _, hr⟩ := h
  cases (validateEventMetadata_ok hf).1
  simp only [ensureMetadataSchemaVersion, hv, if_true] at hs
  cases hs
  cases hr
  rw [← hm, ← hk]

theorem emitSkillUsageEvent_build (ht : eventType ≠ .firstUse)
    (h : emitSkillUsageEvent (buildSuccessfulExecutionEvent call context eventType repeatIndex) =
      .ok row) : row = buildSuccessfulExecutionEvent call context eventType repeatIndex := by
  refine (beforeCreate_stamped rfl rfl (emitSkillUsageEvent_ok h)).trans ?_
  cases eventType <;> first | rfl | exact absurd rfl ht

theorem emitSuccessfulExecution_rows (h : emitSuccessfulExecution call events = .ok rows) :
    ∃ context, call.context = some context ∧ rows = executionRows call context events := by
  simp only [emitSuccessfulExecution, tryInsertFirstUse, bind_eq_ok, require_eq_ok] at h
  obtain ⟨_, _, context, hc, _, _, _, _, _, _, used, hu, firstUse, ⟨row, hb, hf⟩, h⟩ := h
  obtain rfl := emitSkillUsageEvent_build (by decide) hu
  obtain rfl := beforeCreate_stamped rfl rfl hb
  refine ⟨context, hc, ?_⟩
  change (if hasFirstUse context.userID context.skillID (events ++ _) then _ else _) = _ at hf
  rw [executionRows]
  split at hf
  · rename_i hk
    cases hf
    obtain ⟨row, hr, h⟩ := bind_eq_ok.mp h
    obtain rfl := emitSkillUsageEvent_build (by decide) hr
    cases h
    rw [if_pos hk]
  · rename_i hk
    cases hf
    cases h
    rw [if_neg hk]
    rfl

/-- A call writes its two rows or nothing. -/
theorem emit_cases (events : List SkillUsageEvent) (execution : Execution) :
    (execution.succeeds events = false ∧ execution.step events = events) ∨
      execution.succeeds events = true ∧ ∃ context, execution.call.context = some context ∧
        execution.step events = events ++ executionRows execution.call context events := by
  rw [Execution.succeeds, Execution.step, Execution.emit]
  cases hr : emitSuccessfulExecution execution.call events with
  | error e => exact .inl ⟨rfl, rfl⟩
  | ok rows =>
    obtain ⟨context, hc, rfl⟩ := emitSuccessfulExecution_rows hr
    cases execution.fault with
    | none => exact .inr ⟨rfl, context, hc, rfl⟩
    | some e => exact .inl ⟨rfl, rfl⟩

end

/-! ## The counts of a user and a skill -/

section

variable (userID : Int) (skillID : String)

def Execution.isFor (execution : Execution) : Bool :=
  execution.call.context.any fun context =>
    decide (context.userID = userID ∧ context.skillID = skillID)

def eventsOf (eventType : UsageEventType) (events : List SkillUsageEvent) : List SkillUsageEvent :=
  events.filter fun event => decide (event.eventType = eventType ∧ event.userID = some userID ∧
    event.skillID = some skillID)

def SkillUsageEvent.repeatIndex (event : SkillUsageEvent) : Option Json :=
  event.metadata.bind (Json.field "repeat_index")

structure Counted (n : Nat) (events : List SkillUsageEvent) : Prop where
  used : (eventsOf userID skillID .used events).map SkillUsageEvent.success =
    replicate n (some true)
  firstUse : (eventsOf userID skillID .firstUse events).length = min 1 n
  repeats : (eventsOf userID skillID .repeatUse events).map SkillUsageEvent.repeatIndex =
    (range' 2 (n - 1)).map fun index => some (.num index)
  key : hasFirstUse userID skillID events = decide (0 < n)

def successes (events : List SkillUsageEvent) (history : List Execution) : Nat :=
  tally Execution.step (fun events execution =>
    execution.isFor userID skillID && execution.succeeds events) events history

end

section

variable {userID : Int} {skillID : String} {n : Nat} {call : ExecutionCall}
  {context : SkillRelayContext} {events rows : List SkillUsageEvent} {eventType : UsageEventType}

theorem eventsOf_append : eventsOf userID skillID eventType (events ++ rows) =
    eventsOf userID skillID eventType events ++ eventsOf userID skillID eventType rows :=
  filter_append ..

theorem hasFirstUse_append : hasFirstUse userID skillID (events ++ rows) =
    (hasFirstUse userID skillID events || hasFirstUse userID skillID rows) := any_append

theorem Counted.useCount (h : Counted context.userID context.skillID n events) :
    successfulUseCount context events = n := by
  have hc : successfulUseCount context events =
      ((eventsOf context.userID context.skillID .used events).map
        SkillUsageEvent.success).count (some true) := by
    rw [eventsOf, count, countP_map, countP_filter, successfulUseCount]
    congr 1
    funext event
    grind
  rw [hc, h.used, count_replicate_self]

theorem Counted.own (h : Counted context.userID context.skillID n events) :
    Counted context.userID context.skillID (n + 1)
      (events ++ executionRows call context events) := by
  have hrow : executionRows call context events =
      [buildSuccessfulExecutionEvent call context .used none,
        if 0 < n then buildSuccessfulExecutionEvent call context .repeatUse (some (n + 1))
        else firstUseRow call context] := by
    have hu : successfulUseCount context
        (events ++ [buildSuccessfulExecutionEvent call context .used none]) = n + 1 := by
      rw [← h.useCount, successfulUseCount, countP_append]
      simp [buildSuccessfulExecutionEvent, successfulUseCount]
    rw [executionRows, hu, hasFirstUse_append, h.key]
    simp [hasFirstUse, buildSuccessfulExecutionEvent]
  obtain ⟨hu, hf, hr, hk⟩ := h
  constructor
  · rw [eventsOf_append, map_append, hu, hrow, replicate_succ']
    cases n <;> simp [eventsOf, buildSuccessfulExecutionEvent, firstUseRow]
  · rw [eventsOf_append, length_append, hf, hrow]
    cases n <;> simp [eventsOf, buildSuccessfulExecutionEvent, firstUseRow]
  · rw [eventsOf_append, map_append, hr, hrow]
    cases n with
    | zero => simp [eventsOf, buildSuccessfulExecutionEvent, firstUseRow]
    | succ k =>
      have hi : (buildSuccessfulExecutionEvent call context .repeatUse
          (some (k + 1 + 1))).repeatIndex = some (.num (2 + k : Nat)) := by
        rw [Nat.add_comm 2 k]
        rfl
      rw [Nat.add_sub_cancel, Nat.add_sub_cancel, range'_1_concat, map_append, map_singleton, ← hi]
      simp [eventsOf, buildSuccessfulExecutionEvent]
  · rw [hasFirstUse_append, hk, hrow]
    cases n <;> simp [hasFirstUse, firstUseRow]

theorem Counted.other (h : Counted userID skillID n events)
    (ho : ¬(context.userID = userID ∧ context.skillID = skillID)) :
    Counted userID skillID n (events ++ executionRows call context events) := by
  have he (eventType : UsageEventType) : eventsOf userID skillID eventType
      (events ++ executionRows call context events) = eventsOf userID skillID eventType events := by
    rw [eventsOf_append, append_right_eq_self, eventsOf, filter_eq_nil_iff, executionRows]
    intro event hm
    have hi : event.userID = some context.userID ∧ event.skillID = some context.skillID := by
      rcases mem_pair.mp hm with rfl | rfl
      · exact ⟨rfl, rfl⟩
      · split <;> exact ⟨rfl, rfl⟩
    simpa [hi.1, hi.2] using fun _ => ho
  have hk : hasFirstUse userID skillID (events ++ executionRows call context events) =
      hasFirstUse userID skillID events := by
    -- the key tells the users and the skills apart
    have hn : firstUseKeyOf context.userID context.skillID ≠ firstUseKeyOf userID skillID :=
      fun h => ho (decimal_separated_inj (c := ':') (by decide) (by decide) h)
    rw [hasFirstUse_append, executionRows]
    split <;> simp [hasFirstUse, buildSuccessfulExecutionEvent, firstUseRow, hn]
  exact ⟨by rw [he, h.used], by rw [he, h.firstUse], by rw [he, h.repeats], by rw [hk, h.key]⟩

theorem Counted.step (h : Counted userID skillID n events) (execution : Execution) :
    Counted userID skillID
      ((if execution.isFor userID skillID && execution.succeeds events then 1 else 0) + n)
      (execution.step events) := by
  rcases emit_cases events execution with ⟨hs, he⟩ | ⟨hs, context, hc, he⟩
  · rw [he, hs, Bool.and_false, if_neg Bool.false_ne_true, Nat.zero_add]
    exact h
  · rw [he, hs, Bool.and_true, Execution.isFor, hc]
    by_cases ho : context.userID = userID ∧ context.skillID = skillID
    · obtain ⟨rfl, rfl⟩ := ho
      simp only [Option.any_some, and_self, decide_true, if_true, Nat.add_comm 1 n]
      exact h.own
    · simp only [Option.any_some, ho, decide_false, Bool.false_eq_true, if_false, Nat.zero_add]
      exact h.other ho

theorem counted_run (h : Counted userID skillID n events) (history : List Execution) :
    Counted userID skillID (n + successes userID skillID events history)
      (run Execution.step events history) := by
  induction history generalizing n events with
  | nil => exact h
  | cons execution history ih =>
    have hi := ih (h.step execution)
    rw [successes, tally_cons, run_cons, ← Nat.add_assoc, Nat.add_comm n]
    exact hi

end

/-- The events of a user and a skill count their successful executions, whatever other calls stand
between them and wherever those fail. -/
theorem usage_events_count_executions (userID : Int) (skillID : String)
    (start : List SkillUsageEvent) (hk : hasFirstUse userID skillID start = false)
    (hs : ∀ eventType ∈ [.used, .firstUse, .repeatUse],
      eventsOf userID skillID eventType start = [])
    (history : List Execution) (n : Nat) (hn : successes userID skillID start history = n)
    (hp : 1 ≤ n) :
    (eventsOf userID skillID .used (run Execution.step start history)).length = n ∧
      (eventsOf userID skillID .firstUse (run Execution.step start history)).length = 1 ∧
      (eventsOf userID skillID .repeatUse (run Execution.step start history)).length = n - 1 ∧
      (eventsOf userID skillID .repeatUse (run Execution.step start history)).map
          SkillUsageEvent.repeatIndex =
        (List.range' 2 (n - 1)).map (fun index => some (.num index)) ∧
      ∀ (events : List SkillUsageEvent) (execution : Execution),
        execution.succeeds events = false → execution.step events = events := by
  have hc : Counted userID skillID 0 start :=
    ⟨by simp [hs .used], by simp [hs .firstUse], by simp [hs .repeatUse], hk⟩
  have h := counted_run hc history
  rw [Nat.zero_add, hn] at h
  refine ⟨?_, ?_, ?_, h.repeats, fun events execution hf => ?_⟩
  · rw [← length_map SkillUsageEvent.success, h.used, length_replicate]
  · rw [h.firstUse]
    omega
  · rw [← length_map SkillUsageEvent.repeatIndex, h.repeats, length_map, length_range']
  · rcases emit_cases events execution with ⟨-, he⟩ | ⟨ht, -⟩
    · exact he
    · rw [hf] at ht
      cases ht

def storyCall (userID : Int) : ExecutionCall where
  context := some { storyContext false with userID }
  requestID := "r1"
  usage := none
  model := "gpt-4o"
  latencyMS := 20

theorem usage_events_count_executions_story :
    (eventsOf 1 "story" .repeatUse (run Execution.step []
      [⟨storyCall 1, none⟩, ⟨storyCall 11, none⟩, ⟨storyCall 1, some "timeout"⟩,
        ⟨storyCall 1, none⟩])).map SkillUsageEvent.repeatIndex = [some (.num 2)] :=
  (usage_events_count_executions 1 "story" [] rfl (fun _ _ => rfl) _ 2 (by decide +kernel)
    (by decide)).2.2.2.1

end DeepRouter.Skills

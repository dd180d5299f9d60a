import DeepRouter.Skills.EventProducers
import DeepRouter.Skills.PurchaseOnce

/-! # The identity of kids in the usage events -/

namespace DeepRouter.Skills

open Atomic KeyedTable Runs List

structure SkillEnv where
  salt : KidsSalt
  formats : TelemetryFormats
  quotaPerUnit : Rat

inductive SkillAction where
  | telemetry (call : TelemetryCall)
  | purchase (call : PurchaseCall)
  | download (call : DownloadCall)
  | blocked (call : BlockedCall)
  | executed (call : ExecutionCall)
  | enable (skillID source : String)
  | disable (skillID : String)

def PurchaseStore.disableSkillForUser (store : PurchaseStore) (skillID : String) : PurchaseStore :=
  { store with
    enabledSkills := store.enabledSkills.mapRows
      (fun row => if row.skillID = skillID then { row with enabled := false } else row)
      (fun row => by split <;> rfl) }

def PurchaseStore.record (store : PurchaseStore) (rows : List SkillUsageEvent) : PurchaseStore :=
  { store with events := store.events ++ rows }

def SkillEnv.act (env : SkillEnv) (user : User) (store : PurchaseStore) :
    SkillAction → PurchaseStore
  | .telemetry call =>
    match recordRunnerSkillUsage env.formats user.id call with
    | .ok (.recorded row) => store.record [row]
    | _ => store
  | .purchase call =>
    (purchaseMarketplaceSkill env.quotaPerUnit { call with userID := user.id } store).2
  | .download call => sendSkillPackageDownload env.salt user call store
  | .blocked call =>
    match abortSkillRelayBlocked env.salt user.id call with
    | .emitted row => store.record [row]
    | _ => store
  | .executed call =>
    match emitSuccessfulExecution call store.events with
    | .ok rows => store.record rows
    | .error _ => store
  | .enable skillID source => store.enableSkillForUser skillID source
  | .disable skillID => store.disableSkillForUser skillID

def SkillUsageEvent.Anonymous (row : SkillUsageEvent) : Prop :=
  row.userID = none ∧ row.tenantID = none

def SkillUsageEvent.Unrestricted (row : SkillUsageEvent) : Prop :=
  ∃ metadata, row.metadata = some metadata ∧
    ∀ key ∈ restrictedMetadataKeys, ¬metadata.HasKey key

/-- The action writes no event with the identity of the user. -/
def KeepsIdentityOut (user : User) (store : PurchaseStore) : SkillAction → Prop
  | .telemetry call => ∀ consented ∈ call.consent.toOption, consented = false
  | .purchase call => ¬(PurchaseOp.purchase { call with userID := user.id }).PaysAnew store
  | .blocked call =>
    match call.context with
    | some context => context.isKidsSession = true
    | none => call.airbotixUser.any User.kidsMode = true
  | .executed call => ∀ context ∈ call.context, context.isKidsSession = true
  | _ => True

theorem Written.unrestricted {event row : SkillUsageEvent} (h : Written event row) :
    row.Unrestricted := h.metadata

theorem Written.anonymous {event row : SkillUsageEvent} (h : Written event row)
    (he : event.Anonymous) : row.Anonymous :=
  ⟨h.userID.trans he.1, h.tenantID.trans he.2⟩

variable {salt : KidsSalt}

theorem applyKidsSessionAnalyticsIdentity_anonymous {userID tenantID : Int}
    {event event' : SkillUsageEvent}
    (h : event.applyKidsSessionAnalyticsIdentity salt userID tenantID = .ok event') :
    event'.Anonymous := by
  simp only [SkillUsageEvent.applyKidsSessionAnalyticsIdentity, bind_eq_ok] at h
  obtain ⟨sessionID, _, he⟩ := h
  cases he
  exact ⟨rfl, rfl⟩

variable {row : SkillUsageEvent}

theorem recordRunnerSkillUsage_recorded {formats : TelemetryFormats} {userID : Int}
    {call : TelemetryCall} (h : recordRunnerSkillUsage formats userID call = .ok (.recorded row)) :
    call.consent = .ok true ∧ ∃ event, Written event row := by
  simp only [recordRunnerSkillUsage, bind_eq_ok, mapError_eq_ok, refuseIf_eq_ok] at h
  obtain ⟨_, _, consented, hc, _, hy, h⟩ := h
  rw [Bool.not_eq_false] at hy
  refine ⟨hc.trans (congrArg Except.ok hy), ?_⟩
  split at h
  · split at h
    · cases h
    split at h
    · cases h
    split at h
    · cases h
    split at h
    · cases h
    simp only [bind_eq_ok, mapError_eq_ok] at h
    obtain ⟨written, hr, hs⟩ := h
    cases hs
    exact ⟨_, emitSkillUsageEvent_written hr⟩
  · cases h

theorem emitSkillEnabledForDownload_written {user : User} {call : DownloadCall}
    {plan : RequiredPlan} {entryPoint : String}
    (h : emitSkillEnabledForDownload salt user call plan entryPoint = .ok row) :
    ∃ event, Written event row ∧ (user.kidsMode = true → event.Anonymous) := by
  simp only [emitSkillEnabledForDownload, bind_eq_ok] at h
  obtain ⟨isKidsSession, hl, h⟩ := h
  have hk : isKidsSession = user.kidsMode := by
    rw [serverResolvedKidsSession] at hl
    split at hl
    · cases hl
    · cases hl
      rfl
  subst hk
  split at h
  · simp only [bind_eq_ok] at h
    obtain ⟨event, he, hr⟩ := h
    exact ⟨event, emitSkillUsageEvent_written hr,
      fun _ => applyKidsSessionAnalyticsIdentity_anonymous he⟩
  · rename_i hn
    exact ⟨_, emitSkillUsageEvent_written h, fun hk => absurd hk hn⟩

theorem buildBlockedEvent_anonymous {user : User} {store : PurchaseStore}
    {call : BlockedCall} {reason : String} {event : SkillUsageEvent}
    (h : buildBlockedEvent salt user.id call reason = .ok event)
    (ho : KeepsIdentityOut user store (.blocked call)) : event.Anonymous := by
  simp only [KeepsIdentityOut] at ho
  unfold buildBlockedEvent at h
  split at h
  · rename_i context hc
    rw [hc] at ho
    dsimp only at h ho
    split at h
    · exact applyKidsSessionAnalyticsIdentity_anonymous h
    rename_i hno
    cases h
    have hn : ¬0 < context.userID := fun hu => hno ⟨ho, hu⟩
    exact ⟨if_neg hn, if_neg hn⟩
  · rename_i hc
    rw [hc] at ho
    dsimp only at h ho
    split at h
    · exact applyKidsSessionAnalyticsIdentity_anonymous h
    · cases h
      exact ⟨rfl, rfl⟩

theorem abortSkillRelayBlocked_emitted {userID : Int} {call : BlockedCall}
    (h : abortSkillRelayBlocked salt userID call = .emitted row) :
    ∃ reason event, buildBlockedEvent salt userID call reason = .ok event ∧ Written event row := by
  unfold abortSkillRelayBlocked at h
  split at h
  · cases h
  split at h
  · cases h
  split at h
  · cases h
  split at h
  · cases h
  rename_i he
  split at h
  · split at h
    · cases h
    · rename_i hr
      cases h
      exact ⟨_, _, he, emitSkillUsageEvent_written hr⟩
  · cases h

theorem tryInsertFirstUse_written {call : ExecutionCall} {ctx : SkillRelayContext}
    {events : List SkillUsageEvent}
    (h : tryInsertFirstUse call ctx events = .ok (some row)) : ∃ event, Written event row := by
  simp only [tryInsertFirstUse, bind_eq_ok] at h
  obtain ⟨written, hr, h⟩ := h
  split at h
  · cases h
  · cases h
    exact ⟨_, beforeCreate_written hr⟩

theorem emitSuccessfulExecution_written {call : ExecutionCall} {events rows : List SkillUsageEvent}
    (h : emitSuccessfulExecution call events = .ok rows) :
    (∃ ctx ∈ call.context, ctx.isKidsSession = false) ∧
      ∀ row ∈ rows, ∃ event, Written event row := by
  simp only [emitSuccessfulExecution, bind_eq_ok, require_eq_ok, refuseIf_eq_ok] at h
  obtain ⟨_, _, ctx, hc, _, _, _, _, _, hk, used, hus, firstUse, hf, h⟩ := h
  refine ⟨⟨ctx, hc, Bool.not_eq_true _ ▸ hk⟩, ?_⟩
  have hu := emitSkillUsageEvent_written hus
  split at h
  · cases h
    exact forall_mem_cons.mpr ⟨⟨_, hu⟩, forall_mem_singleton.mpr (tryInsertFirstUse_written hf)⟩
  · obtain ⟨repeated, hr, hro⟩ := bind_eq_ok.mp h
    cases hro
    have hw := emitSkillUsageEvent_written hr
    exact forall_mem_cons.mpr ⟨⟨_, hu⟩, forall_mem_singleton.mpr ⟨_, hw⟩⟩

theorem mem_recorded {events : List SkillUsageEvent} {written : SkillUsageEvent}
    {Q : Prop} (h : row ∈ events ++ [written])
    (hw : written.Unrestricted ∧ (Q → written.Anonymous)) :
    row ∈ events ∨ row.Unrestricted ∧ (Q → row.Anonymous) := by
  refine (mem_append.mp h).imp_right fun hn => ?_
  rwa [mem_singleton.mp hn]

theorem SkillEnv.act_events (env : SkillEnv) {user : User} (hk : user.kidsMode = true)
    (store : PurchaseStore) (action : SkillAction) :
    ∀ row ∈ (env.act user store action).events, row ∈ store.events ∨
      row.Unrestricted ∧ (KeepsIdentityOut user store action → row.Anonymous) := by
  intro row hRow
  cases action with
  | enable skillID source => exact .inl hRow
  | disable skillID => exact .inl hRow
  | telemetry call =>
    rw [SkillEnv.act] at hRow
    split at hRow
    · rename_i written hr
      obtain ⟨hc, event, hw⟩ := recordRunnerSkillUsage_recorded hr
      refine mem_recorded hRow ⟨hw.unrestricted, fun hou => ?_⟩
      rw [KeepsIdentityOut, hc] at hou
      exact absurd (hou true rfl) nofun
    · exact .inl hRow
  | purchase call =>
    have hd := purchaseMarketplaceSkill_does env.quotaPerUnit { call with userID := user.id } store
    rw [SkillEnv.act] at hRow
    generalize purchaseMarketplaceSkill env.quotaPerUnit _ store = result at hd hRow
    cases hd with
    | refused e => exact .inl hRow
    | replayed input order hpa hfi => exact .inl hRow
    | recorded input order orders outcome hpa hSt hi => exact .inl hRow
    | paid input skill after outcome hpa hu hsk hp =>
      obtain ⟨event, written, hw, he⟩ := hp.event
      rw [he] at hRow
      refine mem_recorded hRow ⟨hw.unrestricted, fun hou => absurd ⟨input, ?_, hu, hp.fresh⟩ hou⟩
      rw [hpa]
      rfl
  | download call =>
    rw [SkillEnv.act, sendSkillPackageDownload] at hRow
    split at hRow
    · exact .inl hRow
    dsimp only at hRow
    split at hRow
    · rename_i written hem
      obtain ⟨event, hw, ha⟩ := emitSkillEnabledForDownload_written hem
      exact mem_recorded hRow ⟨hw.unrestricted, fun _ => hw.anonymous (ha hk)⟩
    · exact .inl hRow
  | blocked call =>
    rw [SkillEnv.act] at hRow
    split at hRow
    · rename_i written hem
      obtain ⟨reason, event, hEv, hw⟩ := abortSkillRelayBlocked_emitted hem
      exact mem_recorded hRow
        ⟨hw.unrestricted, fun hou => hw.anonymous (buildBlockedEvent_anonymous hEv hou)⟩
    · exact .inl hRow
  | executed call =>
    rw [SkillEnv.act] at hRow
    split at hRow
    · rename_i rows hro
      obtain ⟨⟨context, hco, hs⟩, hw⟩ := emitSuccessfulExecution_written hro
      obtain ho | hn := mem_append.mp hRow
      · exact .inl ho
      obtain ⟨event, hEv⟩ := hw row hn
      refine .inr ⟨hEv.unrestricted, fun hou => ?_⟩
      have hf := hou context hco
      rw [hs] at hf
      cases hf
    · exact .inl hRow

theorem kids_leave_no_identity (env : SkillEnv) (user : User) (hKids : user.kidsMode = true)
    (store : PurchaseStore) (actions : List SkillAction) :
    (∀ row ∈ (run (env.act user) store actions).events, row ∈ store.events ∨ row.Unrestricted) ∧
    (Along (env.act user) (KeepsIdentityOut user) store actions →
      ∀ row ∈ (run (env.act user) store actions).events, row ∈ store.events ∨ row.Anonymous) := by
  constructor
  · refine run_preserves (I := fun after : PurchaseStore =>
      ∀ row ∈ after.events, row ∈ store.events ∨ row.Unrestricted) ?_ (fun _ h => .inl h) actions
    intro before action hb row hr
    obtain hol | ⟨hu, _⟩ := env.act_events hKids before action row hr
    · exact hb row hol
    · exact .inr hu
  · refine run_invariant (I := fun after : PurchaseStore =>
      ∀ row ∈ after.events, row ∈ store.events ∨ row.Anonymous) ?_ (fun _ h => .inl h) actions
    intro before action hb ho row hr
    obtain hol | ⟨_, ha⟩ := env.act_events hKids before action row hr
    · exact hb row hol
    · exact .inr (ha ho)

def kidsUser : User := { id := 7, group := "default", kidsMode := true, status := 1 }

def kidsEnv : SkillEnv :=
  { salt := { version := "1", dailySalt := "salt", digest := fun _ _ => "pseudonym" }
    formats := { isTime := fun _ => true, isUUID := fun _ => true }
    quotaPerUnit := 500000 }

def kidsDownload : SkillAction :=
  .download { skill := publishedSkill, group := "default", apiToken := false, entryPoint := "" }

theorem kids_leave_no_identity_download :
    ((run (kidsEnv.act kidsUser) (walletOf 0) [kidsDownload]).events.map
      fun row => (row.sessionID, row.isKidsSession)) = [(some "pseudonym", true)] ∧
    ∀ row ∈ (run (kidsEnv.act kidsUser) (walletOf 0) [kidsDownload]).events,
      row ∈ (walletOf 0).events ∨ row.Anonymous :=
  ⟨by decide +kernel,
    (kids_leave_no_identity kidsEnv kidsUser rfl (walletOf 0) [kidsDownload]).2 ⟨trivial, trivial⟩⟩

def kidsPurchase : SkillAction :=
  .purchase
    { userID := 7, userGroup := "default", body := some { idempotencyKey := "a" }
      skill := some publishedSkill, orderID := "a" }

def kidsTelemetry : SkillAction :=
  .telemetry
    { consent := .ok true
      body := some (.obj [("skill_id", .str "s1"), ("success", .bool true)]) }

theorem kids_identity_written :
    ((run (kidsEnv.act kidsUser) (walletOf 3000000) [kidsPurchase, kidsTelemetry]).events.map
      fun row => (row.eventType, row.userID, row.tenantID)) =
        [(.purchased, some 7, some 7), (.used, some 7, some 7)] := by
  decide +kernel

end DeepRouter.Skills

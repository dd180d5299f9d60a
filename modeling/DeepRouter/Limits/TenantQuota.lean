import DeepRouter.Limits.RequestWindows

/-! # The quota of a token -/

namespace DeepRouter.Limits

open SlidingWindow WindowKeys

structure RedisCounter where
  value : Int
  expiresAt : Option Int

namespace RedisCounter

def live (now : Int) : Option RedisCounter → Option RedisCounter
  | none => none
  | some counter =>
    match counter.expiresAt with
    | none => some counter
    | some expiresAt => if expiresAt < now then none else some counter

def get (now : Int) (counter : Option RedisCounter) : Int := ((live now counter).map value).getD 0

end RedisCounter

def tpmLua (estimated limit expiry now : Int) (counter : Option RedisCounter) :
    Bool × Option RedisCounter :=
  let current := RedisCounter.get now counter
  if limit < current + estimated then (false, counter)
  else (true, some ⟨current + estimated, some (now + 1000 * expiry)⟩)

def monthlyLua (limit expiry now : Int) (counter : Option RedisCounter) : Bool × Option RedisCounter :=
  let count := RedisCounter.get now counter + 1
  let expiresAt :=
    if count = 1 then some (now + 1000 * expiry)
    else (RedisCounter.live now counter).bind RedisCounter.expiresAt
  if limit < count then (false, some ⟨count - 1, expiresAt⟩) else (true, some ⟨count, expiresAt⟩)

structure TenantState where
  rpm : { keys : WindowKeys // keys.Numbered }
  (tpm monthly : String → Option RedisCounter)
  memRPM : List Int
  (memTPM memMonthly : String → Int)

inductive RedisReply where
  | answered
  | unreachable
  | lost
deriving DecidableEq

def RedisReply.result {σ : Type} (before : σ) (script : Bool × σ) : RedisReply → Option Bool × σ
  | .answered => (some script.1, script.2)
  | .unreachable => (none, before)
  | .lost => (none, script.2)

structure TokenLimits where
  (rpmLimit tpmLimit monthlyLimit : Int)

structure QuotaCall where
  tokenID : Int
  token : Option TokenLimits
  (estimatedTokens contentLength : Int := 0)
  redisEnabled : Bool
  now : Int
  (minuteKey monthKey : String)
  monthExpiry : Int
  (rpmReply tpmReply monthlyReply : RedisReply := .answered)

namespace QuotaCall

def estimated (call : QuotaCall) : Int :=
  if call.estimatedTokens = 0 then
    let fromLength := if 0 < call.contentLength then call.contentLength.tdiv 4 else 0
    if fromLength = 0 then 1 else fromLength
  else call.estimatedTokens

end QuotaCall

namespace TenantState

variable (call : QuotaCall) (s : TenantState)

def checkRPM (limit : Int) : Option Bool × TenantState :=
  if limit ≤ 0 then (some true, s)
  else if call.redisEnabled then
    let checked := TenantQuota.checkRPMRedis limit call.now s.rpm.1
    call.rpmReply.result s (checked.1.allowed,
      { s with rpm := ⟨checked.2, s.rpm.2.checkRPMRedis limit call.now⟩ })
  else
    let checked := TenantQuota.checkRPMMemory limit (call.now / 1000) s.memRPM
    (some checked.1.allowed, { s with memRPM := checked.2 })

def checkTPM (limit estimatedTokens : Int) : Option Bool × TenantState :=
  if limit ≤ 0 then (some true, s)
  else
    let estimated := if estimatedTokens < 0 then 0 else estimatedTokens
    if call.redisEnabled then
      let script := tpmLua estimated limit 120 call.now (s.tpm call.minuteKey)
      call.tpmReply.result s
        (script.1, { s with tpm := Function.update s.tpm call.minuteKey script.2 })
    else
      let current := s.memTPM call.minuteKey
      if limit < current + estimated then (some false, s)
      else (some true,
        { s with memTPM := Function.update s.memTPM call.minuteKey (current + estimated) })

def checkMonthly (limit : Int) : Option Bool × TenantState :=
  if limit ≤ 0 then (some true, s)
  else if call.redisEnabled then
    let script := monthlyLua limit call.monthExpiry call.now (s.monthly call.monthKey)
    call.monthlyReply.result s
      (script.1, { s with monthly := Function.update s.monthly call.monthKey script.2 })
  else
    let count := s.memMonthly call.monthKey
    if limit ≤ count then (some false, s)
    else (some true, { s with memMonthly := Function.update s.memMonthly call.monthKey (count + 1) })

def enforce (limit : Int) (check : Option Bool × TenantState) : Option Bool × TenantState :=
  if 0 < limit then check else (some true, s)

end TenantState

structure QuotaError where
  status : Nat := 429
  message : String
  code : String := "tenant_quota_exceeded"
deriving DecidableEq

def TenantState.checkLimits (call : QuotaCall) (token : TokenLimits) (s : TenantState) :
    Option QuotaError × TenantState :=
  let rpm := s.enforce token.rpmLimit (s.checkRPM call token.rpmLimit)
  if rpm.1 = some false then
    (some { message := "rpm limit reached (" ++ toString token.rpmLimit ++ " req/min)" }, rpm.2)
  else
    let tpm := rpm.2.enforce token.tpmLimit (rpm.2.checkTPM call token.tpmLimit call.estimated)
    if tpm.1 = some false then
      (some { message := "tpm limit reached (" ++ toString token.tpmLimit ++ " tokens/min)" }, tpm.2)
    else
      let monthly := tpm.2.enforce token.monthlyLimit (tpm.2.checkMonthly call token.monthlyLimit)
      if monthly.1 = some false then
        (some { message := "monthly limit reached (" ++ toString token.monthlyLimit ++ " req/month)" },
          monthly.2)
      else (none, monthly.2)

def tenantQuotaCheck (call : QuotaCall) (s : TenantState) : Option QuotaError × TenantState :=
  if call.tokenID = 0 then (none, s)
  else
    match call.token with
    | none => (none, s)
    | some token =>
      if token.rpmLimit = 0 ∧ token.tpmLimit = 0 ∧ token.monthlyLimit = 0 then (none, s)
      else s.checkLimits call token

/-! ## What a check records -/

namespace TenantState

variable (now : Int) (call : QuotaCall) (s s' : TenantState)

def SameRPM : Prop :=
  s'.rpm.1.pruned now = s.rpm.1.pruned now ∧
    recent 60 (now / 1000) s'.memRPM = recent 60 (now / 1000) s.memRPM

def SameTPM : Prop :=
  (∀ key, RedisCounter.get now (s'.tpm key) = RedisCounter.get now (s.tpm key)) ∧
    s'.memTPM = s.memTPM

def SameMonthly : Prop :=
  (∀ key, RedisCounter.get now (s'.monthly key) = RedisCounter.get now (s.monthly key)) ∧
    s'.memMonthly = s.memMonthly

structure SameCounters : Prop where
  rpm : s.SameRPM now s'
  tpm : s.SameTPM now s'
  monthly : s.SameMonthly now s'

def rpmCount : Int :=
  if call.redisEnabled then ((s.rpm.1.pruned call.now).length : Int)
  else ((s.memRPM.dropWhile (· ≤ call.now / 1000 - 60)).length : Int)

def tpmCurrent : Int :=
  if call.redisEnabled then RedisCounter.get call.now (s.tpm call.minuteKey)
  else s.memTPM call.minuteKey

def RPMRecords (limit : Int) : Prop :=
  0 < limit ∧ (call.redisEnabled = true → call.rpmReply ≠ .unreachable) ∧ s.rpmCount call < limit
deriving Decidable

def RPMRefuses (limit : Int) : Prop :=
  0 < limit ∧ (call.redisEnabled = true → call.rpmReply = .answered) ∧ limit ≤ s.rpmCount call
deriving Decidable

def TPMRecords (limit : Int) : Prop :=
  0 < limit ∧ (call.redisEnabled = true → call.tpmReply ≠ .unreachable) ∧ 0 < call.estimated ∧
    s.tpmCurrent call + call.estimated ≤ limit
deriving Decidable

def RecordsNothing : Prop :=
  ∀ token ∈ call.token, s.RPMRefuses call token.rpmLimit ∨
    ¬s.RPMRecords call token.rpmLimit ∧ ¬s.TPMRecords call token.tpmLimit
deriving Decidable

variable {now call s s'}

theorem SameRPM.refl (now : Int) (s : TenantState) : s.SameRPM now s := ⟨rfl, rfl⟩

theorem SameTPM.refl (now : Int) (s : TenantState) : s.SameTPM now s := ⟨fun _ => rfl, rfl⟩

theorem SameMonthly.refl (now : Int) (s : TenantState) : s.SameMonthly now s := ⟨fun _ => rfl, rfl⟩

theorem sameRPM_redis_iff {limit : Int} (hl : 1 ≤ limit) (now : Int) (s : TenantState) :
    (((TenantQuota.checkRPMRedis limit now s.rpm.1).1.allowed = true ↔
        ((s.rpm.1.pruned now).length : Int) < limit)) ∧
      (s.SameRPM now { s with rpm := ⟨_, s.rpm.2.checkRPMRedis limit now⟩ } ↔
        ¬((s.rpm.1.pruned now).length : Int) < limit) := by
  have hp := pruned_slide s.rpm.2 limit now
  simp only [SameRPM, tenant_checkRPMRedis_eq hl, and_true, hp]
  rcases slide_cases s.rpm.2 limit now with ⟨hr, hs⟩ | ⟨hf, hs⟩
  · rw [hs]
    simp [hr]
  · rw [hs]
    simp [Int.not_lt.mpr hf]

theorem sameRPM_memory_iff {limit : Int} (hl : 1 ≤ limit) (now : Int) (s : TenantState) :
    ((TenantQuota.checkRPMMemory limit (now / 1000) s.memRPM).1.allowed = true ↔
        ((s.memRPM.dropWhile (· ≤ now / 1000 - 60)).length : Int) < limit) ∧
      (s.SameRPM now
          { s with memRPM := (TenantQuota.checkRPMMemory limit (now / 1000) s.memRPM).2 } ↔
        ¬((s.memRPM.dropWhile (· ≤ now / 1000 - 60)).length : Int) < limit) := by
  have hd := recent_dropWhile 60 (now / 1000) s.memRPM
  simp only [SameRPM, TenantQuota.checkRPMMemory, if_neg (by omega : ¬limit ≤ 0), slideQueue, true_and]
  split
  · rename_i hf
    simp [hd, Int.not_lt.mpr hf]
  · rename_i hr
    have hn : recent 60 (now / 1000) [now / 1000] = [now / 1000] := recent_cons_new (by omega)
    simp [recent_append, hd, hn, Int.not_le.mp hr]

theorem enforce_rpm (call : QuotaCall) (s : TenantState) (limit : Int) :
    let next := s.enforce limit (s.checkRPM call limit)
    (next.1 = some false ↔ s.RPMRefuses call limit) ∧
      (s.SameRPM call.now next.2 ↔ ¬s.RPMRecords call limit) ∧
      ∃ rpm memRPM, next.2 = { s with rpm, memRPM } := by
  rcases Int.lt_or_le 0 limit with hl | hl
  · simp only [enforce, checkRPM, if_neg (Int.not_le.mpr hl), RPMRefuses, RPMRecords, rpmCount, hl,
      if_true, true_and]
    cases call.redisEnabled with
    | true =>
      obtain ⟨ha, hs⟩ := sameRPM_redis_iff hl call.now s
      simp only [if_true, true_imp_iff]
      cases call.rpmReply with
      | answered =>
        refine ⟨?_, ?_, _, _, rfl⟩
        · rw [RedisReply.result, Option.some.injEq, ← Bool.not_eq_true, ha, Int.not_lt]
          simp
        · rw [RedisReply.result, hs]
          simp
      | unreachable =>
        exact ⟨by simp [RedisReply.result], by simp [RedisReply.result, SameRPM.refl], _, _, rfl⟩
      | lost =>
        refine ⟨by simp [RedisReply.result], ?_, _, _, rfl⟩
        rw [RedisReply.result, hs]
        simp
    | false =>
      obtain ⟨ha, hs⟩ := sameRPM_memory_iff hl call.now s
      refine ⟨?_, ?_, _, _, rfl⟩
      · simp only [Bool.false_eq_true, if_false, false_imp_iff, true_and]
        rw [Option.some.injEq, ← Bool.not_eq_true, ha, Int.not_lt]
      · simp only [Bool.false_eq_true, if_false, false_imp_iff, true_and]
        exact hs
  · simp only [enforce, if_neg (Int.not_lt.mpr hl), RPMRefuses, RPMRecords]
    refine ⟨?_, ?_, _, _, rfl⟩
    · exact iff_of_false (by simp) fun h => absurd h.1 (Int.not_lt.mpr hl)
    · exact iff_of_true (SameRPM.refl _ _) fun h => absurd h.1 (Int.not_lt.mpr hl)

open RedisCounter

theorem get_of_live {now value : Int} {expiresAt : Option Int}
    (h : ∀ time ∈ expiresAt, now ≤ time) : get now (some ⟨value, expiresAt⟩) = value := by
  cases expiresAt with
  | none => rfl
  | some time => simp [RedisCounter.get, RedisCounter.live, Int.not_lt.mpr (h time rfl)]

variable {counter : Option RedisCounter}

theorem get_update {counters : String → Option RedisCounter} {key : String}
    (h : get now counter = get now (counters key)) (other : String) :
    get now (Function.update counters key counter other) = get now (counters other) := by
  rcases eq_or_ne other key with rfl | hn
  · rwa [Function.update_self]
  · rw [Function.update_of_ne hn]

theorem sameTPM_update_iff (key : String) :
    s.SameTPM now { s with tpm := Function.update s.tpm key counter } ↔
      get now counter = get now (s.tpm key) := by
  refine ⟨?_, fun h => ⟨get_update h, rfl⟩⟩
  rintro ⟨ha, -⟩
  simpa using ha key

theorem tpmLua_get_iff {estimated limit now : Int} (he : 0 ≤ estimated)
    (counter : Option RedisCounter) :
    get now (tpmLua estimated limit 120 now counter).2 = get now counter ↔
      ¬(0 < estimated ∧ get now counter + estimated ≤ limit) := by
  rw [tpmLua]
  split
  · rename_i ho
    exact iff_of_true rfl (by omega)
  rename_i hr
  rw [get_of_live fun time ht => by
    obtain rfl := Option.some.inj ht
    omega]
  omega

theorem get_zero (now : Int) (expiresAt : Option Int) : get now (some ⟨0, expiresAt⟩) = 0 := by
  cases expiresAt with
  | none => rfl
  | some expiresAt =>
    simp only [RedisCounter.get, RedisCounter.live]
    split
    · rfl
    · rfl

theorem get_restored (now : Int) (counter : Option RedisCounter) :
    get now (some ⟨get now counter, (live now counter).bind expiresAt⟩) = get now counter := by
  cases counter with
  | none => rfl
  | some counter =>
    obtain ⟨value, _ | time⟩ := counter
    · rfl
    · by_cases he : time < now
      · simp [RedisCounter.get, live, he]
      · simp [RedisCounter.get, live, he]

theorem monthlyLua_refused {limit expiry now : Int}
    (h : (monthlyLua limit expiry now counter).1 = false) :
    get now (monthlyLua limit expiry now counter).2 = get now counter := by
  simp only [monthlyLua] at h ⊢
  split at h
  · rename_i ho
    rw [if_pos ho]
    have hd : get now counter + 1 - 1 = get now counter := by omega
    rw [hd]
    split
    · rename_i hf
      have hz : get now counter = 0 := by omega
      rw [hz, get_zero]
    · exact get_restored now counter
  · cases h

theorem enforce_tpm (call : QuotaCall) (s : TenantState) (limit : Int) :
    let next := s.enforce limit (s.checkTPM call limit call.estimated)
    (s.SameTPM call.now next.2 ↔ ¬s.TPMRecords call limit) ∧
      ∃ tpm memTPM, next.2 = { s with tpm, memTPM } := by
  rcases Int.lt_or_le 0 limit with hl | hl
  · have hc : 0 ≤ (if call.estimated < 0 then 0 else call.estimated) := by
      split <;> omega
    have hr : ∀ cur : Int, (0 < (if call.estimated < 0 then 0 else call.estimated) ∧
          cur + (if call.estimated < 0 then 0 else call.estimated) ≤ limit) ↔
        (0 < call.estimated ∧ cur + call.estimated ≤ limit) := by
      intro cur
      split <;> omega
    simp only [enforce, checkTPM, if_neg (Int.not_le.mpr hl), TPMRecords, tpmCurrent, hl, if_true,
      true_and, ← hr]
    generalize (if call.estimated < 0 then 0 else call.estimated) = estimated at hc
    cases call.redisEnabled with
    | true =>
      have hs := @tpmLua_get_iff estimated limit call.now hc (s.tpm call.minuteKey)
      simp only [if_true, true_imp_iff]
      cases call.tpmReply with
      | answered =>
        refine ⟨?_, _, _, rfl⟩
        rw [RedisReply.result, sameTPM_update_iff, hs]
        simp
      | unreachable => exact ⟨by simp [RedisReply.result, SameTPM.refl], _, _, rfl⟩
      | lost =>
        refine ⟨?_, _, _, rfl⟩
        rw [RedisReply.result, sameTPM_update_iff, hs]
        simp
    | false =>
      simp only [Bool.false_eq_true, if_false, false_imp_iff, true_and]
      split
      · rename_i ho
        exact ⟨iff_of_true (SameTPM.refl _ _) (by omega), _, _, rfl⟩
      rename_i hro
      refine ⟨?_, _, _, rfl⟩
      have hs : Function.update s.memTPM call.minuteKey (s.memTPM call.minuteKey + estimated) =
          s.memTPM ↔ estimated = 0 := by
        rw [Function.update_eq_self_iff]
        omega
      simp only [SameTPM, implies_true, true_and, hs]
      omega
  · simp only [enforce, if_neg (Int.not_lt.mpr hl), TPMRecords]
    refine ⟨?_, _, _, rfl⟩
    exact iff_of_true (SameTPM.refl _ _) fun h => absurd h.1 (Int.not_lt.mpr hl)

theorem enforce_monthly (call : QuotaCall) (s : TenantState) (limit : Int) :
    let next := s.enforce limit (s.checkMonthly call limit)
    (next.1 = some false → s.SameMonthly call.now next.2) ∧
      ∃ monthly memMonthly, next.2 = { s with monthly, memMonthly } := by
  rcases Int.lt_or_le 0 limit with hl | hl
  · simp only [enforce, checkMonthly, if_neg (Int.not_le.mpr hl), hl, if_true]
    cases call.redisEnabled with
    | true =>
      simp only [if_true]
      cases call.monthlyReply with
      | answered =>
        refine ⟨fun hr => ?_, _, _, rfl⟩
        exact ⟨get_update (monthlyLua_refused (Option.some.inj hr)), rfl⟩
      | unreachable => exact ⟨nofun, _, _, rfl⟩
      | lost => exact ⟨nofun, _, _, rfl⟩
    | false =>
      simp only [Bool.false_eq_true, if_false]
      split
      · exact ⟨fun _ => SameMonthly.refl _ _, _, _, rfl⟩
      · exact ⟨nofun, _, _, rfl⟩
  · simp only [enforce, if_neg (Int.not_lt.mpr hl)]
    exact ⟨nofun, _, _, rfl⟩

theorem sameCounters_iff {rpm memRPM tpm memTPM monthly memMonthly} :
    s.SameCounters now ⟨rpm, tpm, monthly, memRPM, memTPM, memMonthly⟩ ↔
      s.SameRPM now { s with rpm, memRPM } ∧ s.SameTPM now { s with tpm, memTPM } ∧
        s.SameMonthly now { s with monthly, memMonthly } :=
  ⟨fun h => ⟨h.rpm, h.tpm, h.monthly⟩, fun h => ⟨h.1, h.2.1, h.2.2⟩⟩

theorem not_rpmRecords_of_refuses {limit : Int} (h : s.RPMRefuses call limit) :
    ¬s.RPMRecords call limit :=
  fun hr => absurd hr.2.2 (Int.not_lt.mpr h.2.2)

theorem checkLimits_refused {token : TokenLimits} (href : (s.checkLimits call token).1.isSome) :
    s.SameCounters call.now (s.checkLimits call token).2 ↔
      s.RPMRefuses call token.rpmLimit ∨
        ¬s.RPMRecords call token.rpmLimit ∧ ¬s.TPMRecords call token.tpmLimit := by
  obtain ⟨hr, hsa, rpm, memRPM, hRPM⟩ := enforce_rpm call s token.rpmLimit
  rw [checkLimits] at href ⊢
  generalize s.enforce token.rpmLimit (s.checkRPM call token.rpmLimit) = first at *
  rw [hRPM] at hsa href ⊢
  dsimp only at href ⊢
  split at href
  · rename_i hfs
    have hf := hr.mp hfs
    rw [if_pos hfs]
    refine iff_of_true (sameCounters_iff.mpr ⟨?_, SameTPM.refl _ _, SameMonthly.refl _ _⟩) (.inl hf)
    exact hsa.mpr (not_rpmRecords_of_refuses hf)
  · rename_i hfs
    have hn : ¬s.RPMRefuses call token.rpmLimit := fun h => hfs (hr.mpr h)
    rw [if_neg hfs, or_iff_right hn, ← hsa]
    obtain ⟨hs, tpm, memTPM, hTPM⟩ := enforce_tpm call { s with rpm, memRPM } token.tpmLimit
    -- the bucket is read as it was before the first check
    have hre : TPMRecords call { s with rpm, memRPM } token.tpmLimit ↔
        s.TPMRecords call token.tpmLimit := Iff.rfl
    rw [hre] at hs
    generalize enforce _ token.tpmLimit _ = second at *
    rw [hTPM] at hs href ⊢
    split at href
    · rename_i hsn
      rw [if_pos hsn, sameCounters_iff]
      refine and_congr_right fun _ => ?_
      exact (and_iff_left (SameMonthly.refl _ _)).trans hs
    · rename_i hsn
      rw [if_neg hsn]
      obtain ⟨hk, monthly, memMonthly, hm⟩ :=
        enforce_monthly call { s with rpm, memRPM, tpm, memTPM } token.monthlyLimit
      generalize enforce _ token.monthlyLimit _ = third at *
      rw [hm] at hk href ⊢
      split at href
      · rename_i ht
        rw [if_pos ht, sameCounters_iff]
        refine and_congr_right fun _ => ?_
        exact (and_iff_left (hk ht)).trans hs
      · cases href

end TenantState

open TenantState in
/-- A refused request leaves the counters exactly when the window refused it or the checks before
recorded nothing. -/
theorem quota_refusal_keeps_counters_iff (call : QuotaCall) (s : TenantState)
    (hRefused : (tenantQuotaCheck call s).1.isSome) :
    s.SameCounters call.now (tenantQuotaCheck call s).2 ↔ s.RecordsNothing call := by
  rw [tenantQuotaCheck, RecordsNothing] at *
  split at hRefused
  · cases hRefused
  rename_i hi
  rw [if_neg hi]
  cases ht : call.token with
  | none =>
    rw [ht] at hRefused
    cases hRefused
  | some token =>
    rw [ht] at hRefused
    dsimp only at hRefused ⊢
    split at hRefused
    · cases hRefused
    · rename_i hl
      rw [if_neg hl, checkLimits_refused hRefused]
      simp

def freshTenant : TenantState where
  rpm := ⟨{}, valid_empty.toNumbered⟩
  tpm := fun _ => none
  monthly := fun _ => none
  memRPM := []
  memTPM := fun _ => 0
  memMonthly := fun _ => 0

def quotaCall (redisEnabled : Bool) (estimatedTokens now : Int) : QuotaCall where
  tokenID := 7
  token := some ⟨2, 10, 1⟩
  estimatedTokens := estimatedTokens
  redisEnabled := redisEnabled
  now := now
  minuteKey := "202601010000"
  monthKey := "202601"
  monthExpiry := 2764800

def spentMonth (redisEnabled : Bool) : TenantState :=
  (tenantQuotaCheck (quotaCall redisEnabled 4 0) freshTenant).2

def spentMinute : TenantState := (tenantQuotaCheck (quotaCall true 4 1000) (spentMonth true)).2

theorem quota_refusal_keeps_counters_spentMinute :
    (tenantQuotaCheck (quotaCall true 4 2000) spentMinute).1.isSome ∧
      spentMinute.SameCounters 2000 (tenantQuotaCheck (quotaCall true 4 2000) spentMinute).2 := by
  have hr : (tenantQuotaCheck (quotaCall true 4 2000) spentMinute).1.isSome := by decide +kernel
  exact ⟨hr, (quota_refusal_keeps_counters_iff _ _ hr).mpr (by decide +kernel)⟩

theorem quota_refusal_consumes :
    ((tenantQuotaCheck (quotaCall true 11 0) freshTenant).1 =
        some { message := "tpm limit reached (10 tokens/min)" } ∧
      freshTenant.rpm.1.pruned 0 = [] ∧
      (tenantQuotaCheck (quotaCall true 11 0) freshTenant).2.rpm.1.pruned 0 = [(1, 0)]) ∧
    ((tenantQuotaCheck (quotaCall false 4 1000) (spentMonth false)).1 =
        some { message := "monthly limit reached (1 req/month)" } ∧
      (spentMonth false).memRPM = [0] ∧ (spentMonth false).memTPM "202601010000" = 4 ∧
      (tenantQuotaCheck (quotaCall false 4 1000) (spentMonth false)).2.memRPM = [0, 1] ∧
      (tenantQuotaCheck (quotaCall false 4 1000) (spentMonth false)).2.memTPM "202601010000" = 8) := by
  decide +kernel

end DeepRouter.Limits

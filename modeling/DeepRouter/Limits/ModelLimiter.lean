import DeepRouter.Limits.MemoryLimiter
import DeepRouter.Limits.TokenBucket

/-! # The limit on successful model requests -/

namespace DeepRouter.Limits

open Runs SlidingWindow List

structure ModelRequest where
  (arrival finish : Int)
  status : Nat

structure ModelLimits where
  duration : Int
  (totalMaxCount successMaxCount : Nat)

def unixSeconds (time : Int) : Int := time / 1000

def checkKey (userId : String) : String := "MRRLS" ++ userId ++ "_check"

def memoryRateLimitHandler (limits : ModelLimits) (userId : String) (l : InMemoryRateLimiter)
    (r : ModelRequest) : Bool × InMemoryRateLimiter :=
  let total :=
    if 0 < limits.totalMaxCount then
      l.request ("MRRL" ++ userId) limits.totalMaxCount limits.duration (unixSeconds r.arrival)
    else (true, l)
  if total.1 then
    let checked := total.2.request (checkKey userId) limits.successMaxCount limits.duration
      (unixSeconds r.arrival)
    if checked.1 then
      (true,
        if r.status < 400 then
          (checked.2.request ("MRRLS" ++ userId) limits.successMaxCount limits.duration
            (unixSeconds r.finish)).2
        else checked.2)
    else (false, checked.2)
  else (false, total.2)

structure RedisList where
  items : List Int
  expiresAt : Int

def RedisList.live (now : Int) : Option RedisList → List Int
  | none => []
  | some list => if list.expiresAt < now then [] else list.items

open RedisList

def checkRedisRateLimit (maxCount : Nat) (duration now : Int) (list : Option RedisList) :
    Bool × Option RedisList :=
  if maxCount = 0 then (true, list)
  else if (live now list).length < maxCount then (true, list)
  else
    match (live now list).getLast? with
    -- an empty answer does not parse as a time, and the request ends with an error
    | none => (false, list)
    | some oldTime =>
      if (now - oldTime).tdiv 1000 < duration then
        (false, some ⟨live now list, now + 1000 * duration⟩)
      else (true, list)

def recordRedisRequest (maxCount : Nat) (duration now : Int) (list : Option RedisList) :
    Option RedisList :=
  if maxCount = 0 then list
  else some ⟨(now :: live now list).take maxCount, now + 1000 * duration⟩

structure RedisLimits where
  success : Option RedisList := none
  total : Option TokenBucket := none

def redisRateLimitHandler (limits : ModelLimits) (keys : RedisLimits) (r : ModelRequest) :
    Bool × RedisLimits :=
  let checked := checkRedisRateLimit limits.successMaxCount limits.duration r.arrival keys.success
  if checked.1 then
    let total :=
      if 0 < limits.totalMaxCount then
        let taken := TokenBucket.allowRequest limits.totalMaxCount limits.duration
          (unixSeconds r.arrival) keys.total
        (taken.1, some taken.2)
      else (true, keys.total)
    -- the handler goes on after the abort, but its status is then that of the refusal
    let status := if total.1 then r.status else 429
    (total.1,
      { total := total.2
        success :=
          if status < 400 then
            recordRedisRequest limits.successMaxCount limits.duration r.finish checked.2
          else checked.2 })
  else (false, { keys with success := checked.2 })

structure ModelUsage where
  clock : Int
  admitted : List ModelRequest := []

namespace ModelUsage

variable (maxCount : Nat) (d : Int)

def successes (u : ModelUsage) : List ModelRequest := u.admitted.filter (·.status < 400)

def admits (u : ModelUsage) (r : ModelRequest) : Bool :=
  maxCount = 0 ∨ (recent (1000 * d) r.arrival (u.successes.map (·.arrival))).length < maxCount

def step (u : ModelUsage) (r : ModelRequest) : ModelUsage where
  clock := r.finish
  admitted := if u.admits maxCount d r then u.admitted ++ [r] else u.admitted

def Ordered (u : ModelUsage) (r : ModelRequest) : Prop := u.clock ≤ r.arrival ∧ r.arrival ≤ r.finish
deriving Decidable

def CountsAll (u : ModelUsage) (r : ModelRequest) : Prop :=
  (recent d (unixSeconds r.arrival) (u.admitted.map (unixSeconds ·.arrival))).length < max maxCount 1 ↔
    u.admits maxCount d r = true
deriving Decidable

def CountsFinished (u : ModelUsage) (r : ModelRequest) : Prop :=
  0 < maxCount →
    ((recent (1000 * d) r.arrival (u.successes.map (·.finish))).length < maxCount ↔
      u.admits maxCount d r = true)
deriving Decidable

end ModelUsage

def successLimits (maxCount : Nat) (d : Int) : ModelLimits := ⟨d, 0, maxCount⟩

def memoryAnswers (limits : ModelLimits) (userId : String) (requests : List ModelRequest) : List Bool :=
  outputs (fun l r => (memoryRateLimitHandler limits userId l r).2)
    (fun l r => (memoryRateLimitHandler limits userId l r).1) InMemoryRateLimiter.empty requests

def redisAnswers (limits : ModelLimits) (requests : List ModelRequest) : List Bool :=
  outputs (fun keys r => (redisRateLimitHandler limits keys r).2)
    (fun keys r => (redisRateLimitHandler limits keys r).1) {} requests

def limitAnswers (maxCount : Nat) (d start : Int) (requests : List ModelRequest) : List Bool :=
  outputs (ModelUsage.step maxCount d) (ModelUsage.admits maxCount d) ⟨start, []⟩ requests

/-! ## The handler in memory -/

namespace InMemoryRateLimiter

theorem length_request_le (l : InMemoryRateLimiter) (key : String) {maxRequestNum : Nat} (d now : Int)
    (h : (l.times key).length ≤ max maxRequestNum 1) :
    ((l.request key maxRequestNum d now).2.times key).length ≤ max maxRequestNum 1 := by
  rw [(l.request_eq key maxRequestNum d now).2]
  rcases LimiterRun.enqueue_cases maxRequestNum d now (l.times key) with
    ⟨ha, hr⟩ | ⟨oldest, rest, hq, -, -, ha⟩ | ⟨oldest, rest, hq, -, -, ha⟩
  · rw [ha, Option.getD_some, length_append, length_singleton]
    rcases hr with hn | hr
    · rw [hn]
      exact Nat.le_max_right _ _
    · omega
  · rw [hq] at h
    rw [ha, Option.getD_some, length_append, length_singleton]
    exact h
  · rw [ha]
    exact h

end InMemoryRateLimiter

namespace LimiterRun.Remembers

variable {key : String} {d : Int} {s : LimiterRun} {maxRequestNum : Nat} {now : Int}

theorem request_iff (h : s.Remembers key d) (hsh : (s.limiter.times key).length ≤ max maxRequestNum 1)
    (hn : s.clock ≤ now) :
    (s.limiter.request key maxRequestNum d now).1 = true ↔
      (recent d now s.admitted).length < max maxRequestNum 1 := by
  rw [(s.limiter.request_eq key maxRequestNum d now).1, h.agree now hn]
  have hl := length_recent_le d now (s.limiter.times key)
  rcases enqueue_cases maxRequestNum d now (s.limiter.times key) with
    ⟨had, hr⟩ | ⟨oldest, rest, hq, hf, ho, had⟩ | ⟨oldest, rest, hq, hf, hne, had⟩
  · refine iff_of_true (by rw [had]; rfl) ?_
    rcases hr with hni | hr
    · rw [hni]
      exact Nat.lt_of_lt_of_le Nat.zero_lt_one (Nat.le_max_right _ _)
    · omega
  · refine iff_of_true (by rw [had]; rfl) ?_
    rw [hq] at hsh ⊢
    rw [recent_cons_old ho]
    have hre := length_recent_le d now rest
    rw [length_cons] at hsh
    omega
  · refine iff_of_false (by rw [had]; simp) ?_
    have hs := h.sorted
    rw [hq] at hs ⊢
    have ha : recent d now (oldest :: rest) = oldest :: rest := by
      refine recent_eq_self fun x hx => ?_
      rcases mem_cons.mp hx with rfl | hx
      · exact hne
      · exact Int.lt_of_lt_of_le hne ((pairwise_cons.mp hs).1 x hx)
    rw [ha, length_cons]
    omega

end LimiterRun.Remembers

def ModelUsage.limiterRun (u : ModelUsage) (l : InMemoryRateLimiter) : LimiterRun :=
  ⟨l, unixSeconds u.clock, u.admitted.map (unixSeconds ·.arrival)⟩

structure MemoryFollows (maxCount : Nat) (d : Int) (userId : String) (u : ModelUsage)
    (l : InMemoryRateLimiter) : Prop where
  remembers : (u.limiterRun l).Remembers (checkKey userId) d
  short : (l.times (checkKey userId)).length ≤ max maxCount 1

theorem unixSeconds_mono {x y : Int} (h : x ≤ y) : unixSeconds x ≤ unixSeconds y := by
  unfold unixSeconds
  omega

theorem checkKey_ne (userId : String) : "MRRLS" ++ userId ≠ checkKey userId := by
  intro h
  have hl := congrArg String.length h
  simp [checkKey] at hl

theorem memoryRateLimitHandler_eq (maxCount : Nat) (d : Int) (userId : String)
    (l : InMemoryRateLimiter) (r : ModelRequest) :
    (memoryRateLimitHandler (successLimits maxCount d) userId l r).1 =
        (l.request (checkKey userId) maxCount d (unixSeconds r.arrival)).1 ∧
      (memoryRateLimitHandler (successLimits maxCount d) userId l r).2.times (checkKey userId) =
        (l.request (checkKey userId) maxCount d (unixSeconds r.arrival)).2.times (checkKey userId) := by
  simp only [memoryRateLimitHandler, successLimits, Nat.lt_irrefl, if_false, if_true]
  split
  · rename_i hc
    refine ⟨hc.symm, ?_⟩
    split
    · exact InMemoryRateLimiter.times_congr
        (InMemoryRateLimiter.request_other (checkKey_ne userId).symm)
    · rfl
  · rename_i hc
    exact ⟨(Bool.not_eq_true _ ▸ hc).symm, rfl⟩

namespace MemoryFollows

variable {maxCount : Nat} {d : Int} {userId : String} {u : ModelUsage} {l : InMemoryRateLimiter}
  {r : ModelRequest}

theorem answer_iff (h : MemoryFollows maxCount d userId u l) (ho : u.Ordered r) :
    (memoryRateLimitHandler (successLimits maxCount d) userId l r).1 = u.admits maxCount d r ↔
      u.CountsAll maxCount d r := by
  rw [(memoryRateLimitHandler_eq maxCount d userId l r).1, Bool.eq_iff_iff]
  exact iff_congr (h.remembers.request_iff h.short (unixSeconds_mono ho.1)) Iff.rfl

theorem step (h : MemoryFollows maxCount d userId u l) (ho : u.Ordered r)
    (ha : (memoryRateLimitHandler (successLimits maxCount d) userId l r).1 =
      u.admits maxCount d r) :
    MemoryFollows maxCount d userId (u.step maxCount d r)
      (memoryRateLimitHandler (successLimits maxCount d) userId l r).2 := by
  obtain ⟨hc, hn⟩ := memoryRateLimitHandler_eq maxCount d userId l r
  rw [hc] at ha
  have hr : ((u.limiterRun l).step (checkKey userId)
      (.request (checkKey userId) maxCount d (unixSeconds r.arrival))).Remembers (checkKey userId) d :=
    h.remembers.request (unixSeconds_mono ho.1)
  have had : ((u.limiterRun l).step (checkKey userId)
      (.request (checkKey userId) maxCount d (unixSeconds r.arrival))).admitted =
        (u.step maxCount d r).admitted.map (unixSeconds ·.arrival) := by
    simp only [LimiterRun.step, ModelUsage.limiterRun, ModelUsage.step, ha, true_and]
    split
    · rw [map_append, map_singleton]
    · rfl
  have hk := Tracks.later hr (unixSeconds_mono ho.2)
  rw [had] at hk
  refine ⟨?_, hn ▸ l.length_request_le (checkKey userId) d (unixSeconds r.arrival) h.short⟩
  rw [LimiterRun.Remembers, ModelUsage.limiterRun, hn]
  exact hk

end MemoryFollows

/-! ## The handler over Redis -/

structure Recorded (k : Nat) (d now : Int) (times : List Int) (list : Option RedisList) : Prop where
  holds : Holds k d now times (live now list)
  short : (live now list).length ≤ k
  expiry : ∀ x ∈ live now list, ∀ stored ∈ list, x + d ≤ stored.expiresAt

namespace Recorded

variable {k : Nat} {d now : Int} {times items : List Int} {list : Option RedisList}

theorem of_items (hk : 0 < k) (hh : Holds k d now times items) (hsh : items.length ≤ k)
    {expiresAt : Int} (he : ∀ x ∈ items, x + d ≤ expiresAt) :
    Recorded k d now times (some ⟨items, expiresAt⟩) := by
  rcases Int.lt_or_le expiresAt now with hg | hl
  · have hi : live now (some ⟨items, expiresAt⟩) = [] := if_pos hg
    have ho : ∀ x ∈ items, x ≤ now - d := by
      intro x hx
      have := he x hx
      omega
    refine ⟨hi ▸ hh.clear hk ho, hi ▸ Nat.zero_le k, fun x hx => ?_⟩
    exact absurd (hi ▸ hx) not_mem_nil
  · have hi : live now (some ⟨items, expiresAt⟩) = items := if_neg (Int.not_lt.mpr hl)
    rw [← hi] at hh hsh he
    refine ⟨hh, hsh, fun x hx stored hs => ?_⟩
    obtain rfl := Option.some.inj hs
    exact he x hx

theorem later (h : Recorded k d now times list) (hk : 0 < k) {now' : Int} (hn : now ≤ now') :
    Recorded k d now' times list := by
  have hh := h.holds.later hn
  cases list with
  | none => exact ⟨hh, h.short, h.expiry⟩
  | some stored =>
    rcases Int.lt_or_le stored.expiresAt now with hg | hl
    · have hno : live now (some stored) = [] := if_pos hg
      have hs : live now' (some stored) = [] := if_pos (Int.lt_of_lt_of_le hg hn)
      rw [hno] at hh
      refine ⟨hs ▸ hh, hs ▸ Nat.zero_le k, fun x hx => ?_⟩
      exact absurd (hs ▸ hx) not_mem_nil
    · have hi : live now (some stored) = stored.items := if_neg (Int.not_lt.mpr hl)
      refine of_items hk (hi ▸ hh) (hi ▸ h.short) fun x hx => ?_
      exact h.expiry x (hi.symm ▸ hx) stored rfl

theorem check {dur : Int} (h : Recorded k (1000 * dur) now times list) (hk : 0 < k) :
    ((checkRedisRateLimit k dur now list).1 = true ↔
        (recent (1000 * dur) now times).length < k) ∧
      Recorded k (1000 * dur) now times (checkRedisRateLimit k dur now list).2 := by
  have hr := h.holds.hasRoom_of_recent hk (Int.le_refl now)
  have hof := h.holds.recent_of_hasRoom hk (Int.le_refl now) h.short
  rw [checkRedisRateLimit, if_neg (Nat.pos_iff_ne_zero.mp hk)]
  rcases Nat.lt_or_ge (live now list).length k with hs | hf
  · rw [if_pos hs]
    exact ⟨iff_of_true rfl (hof (.inl hs)), h⟩
  rw [if_neg (Nat.not_lt.mpr hf)]
  cases hla : (live now list).getLast? with
  | none =>
    rw [getLast?_eq_none_iff] at hla
    rw [hla] at hf
    exact absurd hf (Nat.not_le.mpr hk)
  | some oldTime =>
    have hp := h.holds.le_now (mem_of_getLast? hla)
    have he := elapsed_lt_iff dur hp
    dsimp only
    split
    · rename_i hi
      refine ⟨iff_of_false Bool.false_ne_true fun hc => ?_, ?_⟩
      · rcases hr hc with hl | ⟨oldest, ho, hol⟩
        · omega
        · rw [hla] at ho
          obtain rfl := Option.some.inj ho
          omega
      · refine of_items hk h.holds h.short fun x hx => ?_
        have := h.holds.le_now hx
        omega
    · rename_i hou
      exact ⟨iff_of_true rfl (hof (.inr ⟨oldTime, hla, by omega⟩)), h⟩

theorem record {dur : Int} (h : Recorded k (1000 * dur) now times list) (hk : 0 < k) :
    Recorded k (1000 * dur) now (times ++ [now]) (recordRedisRequest k dur now list) := by
  rw [recordRedisRequest, if_neg (Nat.pos_iff_ne_zero.mp hk)]
  have ht := h.holds.push.trim
  refine of_items hk ht (length_take_le _ _) fun x hx => ?_
  have := ht.le_now hx
  omega

end Recorded

def RedisFollows (maxCount : Nat) (d : Int) (u : ModelUsage) (keys : RedisLimits) : Prop :=
  0 < maxCount → Recorded maxCount (1000 * d) u.clock (u.successes.map (·.finish)) keys.success

theorem redisRateLimitHandler_eq (maxCount : Nat) (d : Int) (keys : RedisLimits) (r : ModelRequest) :
    (redisRateLimitHandler (successLimits maxCount d) keys r).1 =
        (checkRedisRateLimit maxCount d r.arrival keys.success).1 ∧
      (redisRateLimitHandler (successLimits maxCount d) keys r).2.success =
        if (checkRedisRateLimit maxCount d r.arrival keys.success).1 ∧ r.status < 400 then
          recordRedisRequest maxCount d r.finish (checkRedisRateLimit maxCount d r.arrival keys.success).2
        else (checkRedisRateLimit maxCount d r.arrival keys.success).2 := by
  simp only [redisRateLimitHandler, successLimits, Nat.lt_irrefl, if_false, if_true]
  split
  · rename_i hc
    simp [hc]
  · rename_i hc
    simp [hc]

namespace RedisFollows

variable {maxCount : Nat} {d : Int} {u : ModelUsage} {keys : RedisLimits} {r : ModelRequest}

theorem answer_iff (h : RedisFollows maxCount d u keys) (ho : u.Ordered r) :
    (redisRateLimitHandler (successLimits maxCount d) keys r).1 = u.admits maxCount d r ↔
      u.CountsFinished maxCount d r := by
  rw [(redisRateLimitHandler_eq maxCount d keys r).1]
  rcases Nat.eq_zero_or_pos maxCount with rfl | hp
  · refine iff_of_true ?_ fun hp => absurd hp (Nat.lt_irrefl 0)
    simp [checkRedisRateLimit, ModelUsage.admits]
  · have hc := (((h hp).later hp ho.1).check hp).1
    rw [Bool.eq_iff_iff, hc]
    exact ⟨fun hs _ => hs, fun hs => hs hp⟩

theorem step (h : RedisFollows maxCount d u keys) (ho : u.Ordered r)
    (ha : (redisRateLimitHandler (successLimits maxCount d) keys r).1 = u.admits maxCount d r) :
    RedisFollows maxCount d (u.step maxCount d r)
      (redisRateLimitHandler (successLimits maxCount d) keys r).2 := by
  intro hp
  obtain ⟨hc, hn⟩ := redisRateLimitHandler_eq maxCount d keys r
  rw [hc] at ha
  have hl := (((h hp).later hp ho.1).check hp).2.later hp ho.2
  rw [hn, ha]
  cases had : u.admits maxCount d r with
  | false => simpa [ModelUsage.step, ModelUsage.successes, had] using hl
  | true =>
    rcases Nat.lt_or_ge r.status 400 with hOk | hf
    · have hr := hl.record hp
      simpa [ModelUsage.step, ModelUsage.successes, had, hOk] using hr
    · simpa [ModelUsage.step, ModelUsage.successes, had, Nat.not_lt.mpr hf] using hl

end RedisFollows

/-! ## Both against the limit -/

theorem memory_answers_iff {maxCount : Nat} {d start : Int} (userId : String)
    {requests : List ModelRequest}
    (ho : Along (ModelUsage.step maxCount d) ModelUsage.Ordered ⟨start, []⟩ requests) :
    memoryAnswers (successLimits maxCount d) userId requests = limitAnswers maxCount d start requests ↔
      Along (ModelUsage.step maxCount d) (ModelUsage.CountsAll maxCount d) ⟨start, []⟩ requests := by
  have hs : MemoryFollows maxCount d userId ⟨start, []⟩ InMemoryRateLimiter.empty :=
    ⟨Tracks.nil d _, Nat.zero_le _⟩
  exact outputs_eq_iff (R := MemoryFollows maxCount d userId) (D := ModelUsage.Ordered)
    (fun _ _ _ => MemoryFollows.step) (fun _ _ _ => MemoryFollows.answer_iff) hs ho

theorem redis_answers_iff {maxCount : Nat} {d start : Int} {requests : List ModelRequest}
    (ho : Along (ModelUsage.step maxCount d) ModelUsage.Ordered ⟨start, []⟩ requests) :
    redisAnswers (successLimits maxCount d) requests = limitAnswers maxCount d start requests ↔
      Along (ModelUsage.step maxCount d) (ModelUsage.CountsFinished maxCount d) ⟨start, []⟩ requests := by
  have hs : RedisFollows maxCount d ⟨start, []⟩ {} := fun _ =>
    ⟨Holds.nil _ _ _, Nat.zero_le _, fun _ h => absurd h not_mem_nil⟩
  exact outputs_eq_iff (R := RedisFollows maxCount d) (D := ModelUsage.Ordered)
    (fun _ _ _ => RedisFollows.step) (fun _ _ _ => RedisFollows.answer_iff) hs ho

/-- The two handlers give the answers of the limit exactly when the counts that they keep use it up
alike. -/
theorem model_limiters_agree_iff {maxCount : Nat} {d start : Int} (userId : String)
    {requests : List ModelRequest}
    (hOrdered : Along (ModelUsage.step maxCount d) ModelUsage.Ordered ⟨start, []⟩ requests) :
    memoryAnswers (successLimits maxCount d) userId requests = limitAnswers maxCount d start requests ∧
        redisAnswers (successLimits maxCount d) requests = limitAnswers maxCount d start requests ↔
      Along (ModelUsage.step maxCount d)
        (fun u r => u.CountsAll maxCount d r ∧ u.CountsFinished maxCount d r) ⟨start, []⟩ requests := by
  rw [memory_answers_iff userId hOrdered, redis_answers_iff hOrdered]
  constructor
  · rintro ⟨ha, hf⟩
    exact along_and ha hf
  · intro hb
    exact ⟨along_mono (fun _ _ h => h.1) hb, along_mono (fun _ _ h => h.2) hb⟩

def fullMinute : List ModelRequest :=
  [⟨0, 100, 200⟩, ⟨1000, 1500, 200⟩, ⟨2000, 2100, 200⟩, ⟨70000, 70500, 200⟩]

theorem model_limiters_agree_fullMinute :
    Along (ModelUsage.step 2 60) ModelUsage.Ordered ⟨0, []⟩ fullMinute ∧
      memoryAnswers (successLimits 2 60) "7" fullMinute = [true, true, false, true] ∧
      redisAnswers (successLimits 2 60) fullMinute = [true, true, false, true] := by
  have ho : Along (ModelUsage.step 2 60) ModelUsage.Ordered ⟨0, []⟩ fullMinute := by
    decide +kernel
  have hl : limitAnswers 2 60 0 fullMinute = [true, true, false, true] := by decide +kernel
  have ha := (model_limiters_agree_iff "7" ho).mpr (by decide +kernel)
  rw [hl] at ha
  exact ⟨ho, ha⟩

theorem model_limiters_disagree :
    (memoryAnswers (successLimits 0 60) "7" [⟨0, 0, 200⟩, ⟨1000, 1000, 200⟩] = [true, false] ∧
      redisAnswers (successLimits 0 60) [⟨0, 0, 200⟩, ⟨1000, 1000, 200⟩] = [true, true] ∧
      limitAnswers 0 60 0 [⟨0, 0, 200⟩, ⟨1000, 1000, 200⟩] = [true, true]) ∧
    (memoryAnswers (successLimits 1 60) "7" [⟨0, 0, 500⟩, ⟨1000, 1000, 200⟩] = [true, false] ∧
      redisAnswers (successLimits 1 60) [⟨0, 0, 500⟩, ⟨1000, 1000, 200⟩] = [true, true] ∧
      limitAnswers 1 60 0 [⟨0, 0, 500⟩, ⟨1000, 1000, 200⟩] = [true, true]) := by
  decide +kernel

end DeepRouter.Limits

import DeepRouter.Library.Runs
import DeepRouter.Library.SlidingWindow

/-! # Requests per minute

Over Redis a script keeps the admitted times in a sorted set; in memory they are a queue. -/

namespace DeepRouter.Limits

open Runs SlidingWindow List

structure WindowKeys where
  set : List (Nat × Int) := []
  setExpiresAt : Int := 0
  seq : Nat := 0
  seqExpiresAt : Int := 0

namespace WindowKeys

def liveSet (keys : WindowKeys) (now : Int) : List (Nat × Int) :=
  if keys.setExpiresAt < now then [] else keys.set

def liveSeq (keys : WindowKeys) (now : Int) : Nat :=
  if keys.seqExpiresAt < now then 0 else keys.seq

def zremrangebyscore (max : Int) (set : List (Nat × Int)) : List (Nat × Int) :=
  set.filter fun entry => max < entry.2

def zadd (score : Int) (member : Nat) (set : List (Nat × Int)) : List (Nat × Int) :=
  set.filter (fun entry => entry.1 ≠ member) ++ [(member, score)]

def scores (set : List (Nat × Int)) : List Int := set.map (·.2)

def slide (limit now : Int) (keys : WindowKeys) : Bool × WindowKeys :=
  let set := zremrangebyscore (now - 60000) (keys.liveSet now)
  if limit ≤ set.length then (false, { keys with set := set })
  else
    let seq := keys.liveSeq now + 1
    (true, ⟨zadd now seq set, now + (60000 + 5000), seq, now + 120 * 1000⟩)

end WindowKeys

open WindowKeys

def rpmLua (limit now : Int) (keys : WindowKeys) : Nat × WindowKeys :=
  let result := slide limit now keys
  (if result.1 then 1 else 0, result.2)

def scriptRetryAfter (now : Int) : Option Int → Int
  | some oldest => max 1 (-(-(60000 - (now - oldest)) / 1000))
  | none => 60

def publicRoutingRPMLua (limit now : Int) (keys : WindowKeys) : (Nat × Int) × WindowKeys :=
  let result := slide limit now keys
  (if result.1 then (1, 0) else (0, scriptRetryAfter now (scores result.2.set).min?), result.2)

def slideQueue (limit now : Int) (q : List Int) : Bool × List Int :=
  let q := q.dropWhile (· ≤ now - 60)
  if limit ≤ q.length then (false, q) else (true, q ++ [now])

def cleanupQueue (now : Int) (q : List Int) : List Int :=
  match q.getLast? with
  | none => []
  | some last => if last ≤ now - 60 then [] else q

structure RPMAnswer where
  allowed : Bool
  retryAfter : Option Int := none

namespace TenantQuota

def checkRPMRedis (limit now : Int) (keys : WindowKeys) : RPMAnswer × WindowKeys :=
  if limit ≤ 0 then ({ allowed := true }, keys)
  else
    let result := rpmLua limit now keys
    ({ allowed := result.1 = 1 }, result.2)

def checkRPMMemory (limit now : Int) (q : List Int) : RPMAnswer × List Int :=
  if limit ≤ 0 then ({ allowed := true }, q)
  else
    let result := slideQueue limit now q
    ({ allowed := result.1 }, result.2)

end TenantQuota

namespace PublicRouting

def checkRPMRedis (limit now : Int) (keys : WindowKeys) : RPMAnswer × WindowKeys :=
  let result := publicRoutingRPMLua limit now keys
  (⟨result.1.1 = 1, some result.1.2⟩, result.2)

def memoryRetryAfter (now : Int) : List Int → Int
  | [] => 0
  | oldest :: _ =>
    let retryAfter := 60 - (now - oldest)
    if retryAfter < 1 then 1 else retryAfter

def checkRPMMemory (limit now : Int) (q : List Int) : RPMAnswer × List Int :=
  let result := slideQueue limit now q
  (⟨result.1, some (if result.1 then 0 else memoryRetryAfter now result.2)⟩, result.2)

end PublicRouting

/-! ## Runs of a window -/

structure WindowLimiter (σ : Type) where
  (window second : Int)
  start : σ
  call : Int → Int → σ → RPMAnswer × σ
  cleanup : Int → σ → σ

inductive WindowOp where
  | call (now : Int)
  | cleanup (now : Int)

structure WindowRun (σ : Type) where
  state : σ
  clock : Int
  admitted : List Int := []

namespace WindowLimiter

variable {σ : Type} (L : WindowLimiter σ) (limit : Int)

def step (s : WindowRun σ) : WindowOp → WindowRun σ
  | .call now =>
    let result := L.call limit now s.state
    { state := result.2
      clock := now
      admitted := if result.1.allowed then s.admitted ++ [now] else s.admitted }
  | .cleanup now => { s with state := L.cleanup now s.state, clock := now }

def Timed (s : WindowRun σ) : WindowOp → Prop
  | .call now => s.clock ≤ now
  | .cleanup now => s.clock ≤ now

def Exact (s : WindowRun σ) : WindowOp → Prop
  | .call now => (L.call limit now s.state).1.allowed = true ↔
      ((recent L.window now s.admitted).length : Int) < limit
  | .cleanup _ => True

def RetryAdmitted (s : WindowRun σ) : WindowOp → Prop
  | .call now => (L.call limit now s.state).1.allowed = false →
      ∀ r ∈ (L.call limit now s.state).1.retryAfter,
        (L.call limit (now + L.second * r) (L.call limit now s.state).2).1.allowed = true
  | .cleanup _ => True

def ExactRuns : Prop :=
  ∀ limit, 1 ≤ limit → ∀ start ops, Along (L.step limit) Timed ⟨L.start, start, []⟩ ops →
    Along (L.step limit) (fun s op => L.Exact limit s op ∧ L.RetryAdmitted limit s op)
      ⟨L.start, start, []⟩ ops

end WindowLimiter

def tenantRedis : WindowLimiter WindowKeys where
  window := 60000
  second := 1000
  start := {}
  call := TenantQuota.checkRPMRedis
  cleanup _ keys := keys

def tenantMemory : WindowLimiter (List Int) where
  window := 60
  second := 1
  start := []
  call := TenantQuota.checkRPMMemory
  cleanup := cleanupQueue

def publicRedis : WindowLimiter WindowKeys where
  window := 60000
  second := 1000
  start := {}
  call := PublicRouting.checkRPMRedis
  cleanup _ keys := keys

def publicMemory : WindowLimiter (List Int) where
  window := 60
  second := 1
  start := []
  call := PublicRouting.checkRPMMemory
  cleanup _ q := q

/-! ## Windows that are lists of times -/

structure Views {σ : Type} (L : WindowLimiter σ) (limit : Int) (view : σ → List Int)
    (Valid : σ → Prop) : Prop where
  start : Valid L.start ∧ view L.start = []
  call : ∀ {s now}, Valid s → (view s).Pairwise (· ≤ ·) → (∀ x ∈ view s, x ≤ now) →
    let kept := recent L.window now (view s)
    let result := L.call limit now s
    Valid result.2 ∧ (result.1.allowed = true ↔ (kept.length : Int) < limit) ∧
      view result.2 = if result.1.allowed then kept ++ [now] else kept
  retry : ∀ {s now r}, Valid s → (view s).Pairwise (· ≤ ·) → (∀ x ∈ view s, x ≤ now) →
    (L.call limit now s).1.allowed = false → r ∈ (L.call limit now s).1.retryAfter →
    ∀ oldest rest, recent L.window now (view s) = oldest :: rest →
      0 ≤ L.second * r ∧ L.window - (now - oldest) ≤ L.second * r
  cleanup : ∀ {s now}, Valid s → (view s).Pairwise (· ≤ ·) → Valid (L.cleanup now s) ∧
    (view (L.cleanup now s) = view s ∨
      view (L.cleanup now s) = [] ∧ ∀ x ∈ view s, x ≤ now - L.window)

namespace Views

variable {σ : Type} {L : WindowLimiter σ} {limit : Int} {view : σ → List Int} {Valid : σ → Prop}

structure Inv (L : WindowLimiter σ) (limit : Int) (view : σ → List Int) (Valid : σ → Prop)
    (s : WindowRun σ) : Prop where
  valid : Valid s.state
  tracks : Tracks L.window s.clock s.admitted (view s.state)
  short : ((view s.state).length : Int) ≤ limit

variable {s : WindowRun σ} {now : Int}

open WindowLimiter

theorem inv_call (h : Views L limit view Valid) (hi : Inv L limit view Valid s)
    (hn : s.clock ≤ now) : Inv L limit view Valid (L.step limit s (.call now)) := by
  have ht := hi.tracks.later hn
  obtain ⟨hva, ha, hv⟩ := h.call hi.valid ht.sorted ht.past
  cases han : (L.call limit now s.state).1.allowed with
  | true =>
    rw [han] at hv ha
    have hr := ha.mp rfl
    rw [if_pos rfl] at hv
    refine ⟨hva, ?_, ?_⟩
    · simp only [step, han, if_true, hv]
      exact ht.recent.push
    · simp only [step, hv, length_append, length_singleton]
      omega
  | false =>
    rw [han, if_neg Bool.false_ne_true] at hv
    have hs := length_recent_le L.window now (view s.state)
    have hl := hi.short
    refine ⟨hva, ?_, ?_⟩
    · simp only [step, han, hv]
      exact ht.recent
    · simp only [step, hv]
      omega

theorem inv_cleanup (h : Views L limit view Valid) (hi : Inv L limit view Valid s)
    (hno : s.clock ≤ now) (hl : 1 ≤ limit) :
    Inv L limit view Valid (L.step limit s (.cleanup now)) := by
  obtain ⟨hv, hs | ⟨hn, ho⟩⟩ := @cleanup _ _ _ _ _ h s.state now hi.valid hi.tracks.sorted
  · refine ⟨hv, ?_, ?_⟩
    · simp only [step, hs]
      exact hi.tracks.later hno
    · simp only [step, hs]
      exact hi.short
  · refine ⟨hv, ?_, ?_⟩
    · simp only [step, hn]
      exact (hi.tracks.later hno).clear ho
    · simp only [step, hn, length_nil]
      omega

theorem exact (h : Views L limit view Valid) (hi : Inv L limit view Valid s)
    (hn : s.clock ≤ now) : L.Exact limit s (.call now) := by
  have ht := hi.tracks.later hn
  rw [Exact, hi.tracks.agree now hn]
  exact (h.call hi.valid ht.sorted ht.past).2.1

theorem retryAdmitted (h : Views L limit view Valid) (hi : Inv L limit view Valid s)
    (hn : s.clock ≤ now) (hl : 1 ≤ limit) : L.RetryAdmitted limit s (.call now) := by
  intro hrej r hr
  obtain ⟨hag, hst, hp⟩ := hi.tracks.later hn
  have hal := (h.call hi.valid hst hp).2.1
  have hne := h.inv_call hi hn
  have hf : ¬((recent L.window now (view s.state)).length : Int) < limit := by
    rw [← hal, hrej]
    exact Bool.false_ne_true
  have hsh := length_recent_le L.window now (view s.state)
  have hc := hi.short
  cases hk : recent L.window now (view s.state) with
  | nil =>
    rw [hk, length_nil] at hf
    omega
  | cons oldest rest =>
    obtain ⟨hla, hg⟩ := h.retry hi.valid hst hp hrej hr oldest rest hk
    have ha := h.exact hne (by simp only [step]; omega : _ ≤ now + L.second * r)
    refine ha.mpr ?_
    have hs : (L.step limit s (.call now)).admitted = s.admitted := by
      simp only [step, hrej]
      rfl
    have ho : oldest ≤ now + L.second * r - L.window := by omega
    rw [hs, hag _ (by omega), ← recent_recent (by omega : now ≤ now + L.second * r), hk,
      recent_cons_old ho]
    have hre := length_recent_le L.window (now + L.second * r) rest
    rw [hk, length_cons] at hf hsh
    omega

theorem exactRuns {view : σ → List Int} {Valid : σ → Prop}
    (h : ∀ limit, 1 ≤ limit → Views L limit view Valid) : L.ExactRuns := by
  intro limit hl start ops ht
  have hvi := h limit hl
  have hs : Inv L limit view Valid ⟨L.start, start, []⟩ := by
    obtain ⟨hv, hvie⟩ := hvi.start
    refine ⟨hv, ?_, ?_⟩
    · rw [hvie]
      exact Tracks.nil _ _
    · rw [hvie, length_nil]
      omega
  refine along_imp (I := Inv L limit view Valid) ?_ ?_ hs ht
  · intro s op hi hn
    cases op with
    | call now => exact hvi.inv_call hi hn
    | cleanup now => exact hvi.inv_cleanup hi hn hl
  · intro s op hi hn
    cases op with
    | call now => exact ⟨hvi.exact hi hn, hvi.retryAdmitted hi hn hl⟩
    | cleanup now => exact ⟨trivial, trivial⟩

end Views

/-! ## The sorted set -/

namespace WindowKeys

variable {keys : WindowKeys} {limit now : Int}

structure Numbered (keys : WindowKeys) : Prop where
  members : ∀ entry ∈ keys.set, entry.1 ≤ keys.seq
  expiry : keys.setExpiresAt ≤ keys.seqExpiresAt

structure Valid (keys : WindowKeys) : Prop extends Numbered keys where
  kept : ∀ x ∈ scores keys.set, x + 60000 ≤ keys.setExpiresAt

def pruned (keys : WindowKeys) (now : Int) : List (Nat × Int) :=
  zremrangebyscore (now - 60000) (keys.liveSet now)

theorem mem_pruned {entry : Nat × Int} (h : entry ∈ keys.pruned now) :
    entry ∈ keys.set ∧ now ≤ keys.setExpiresAt := by
  have hl := mem_of_mem_filter h
  rw [liveSet] at hl
  split at hl
  · exact absurd hl not_mem_nil
  · rename_i hn
    exact ⟨hl, Int.not_lt.mp hn⟩

theorem scores_pruned (h : keys.Valid) (now : Int) :
    scores (keys.pruned now) = recent 60000 now (scores keys.set) := by
  rw [pruned, liveSet]
  split
  · rename_i hg
    refine (recent_eq_nil fun x hx => ?_).symm
    have := h.kept x hx
    omega
  · rw [scores, zremrangebyscore, recent, scores, filter_map]
    rfl

theorem pruned_le_liveSeq (h : keys.Numbered) {entry : Nat × Int} (he : entry ∈ keys.pruned now) :
    entry.1 ≤ keys.liveSeq now := by
  obtain ⟨hm, hl⟩ := mem_pruned he
  have hex := h.expiry
  rw [liveSeq, if_neg (by omega)]
  exact h.members entry hm

theorem zadd_pruned (h : keys.Numbered) (now : Int) :
    zadd now (keys.liveSeq now + 1) (keys.pruned now) =
      keys.pruned now ++ [(keys.liveSeq now + 1, now)] := by
  have ha : (keys.pruned now).filter (fun entry => entry.1 ≠ keys.liveSeq now + 1) =
      keys.pruned now := by
    refine filter_eq_self.mpr fun entry he => ?_
    have := pruned_le_liveSeq h he
    simp only [decide_eq_true_eq]
    omega
  rw [zadd, ha]

theorem slide_cases (h : keys.Numbered) (limit now : Int) :
    ((keys.pruned now).length : Int) < limit ∧ slide limit now keys =
        (true, ⟨keys.pruned now ++ [(keys.liveSeq now + 1, now)], now + 65000, keys.liveSeq now + 1,
          now + 120000⟩) ∨
      limit ≤ ((keys.pruned now).length : Int) ∧
        slide limit now keys = (false, { keys with set := keys.pruned now }) := by
  rw [slide, ← pruned]
  rcases Int.lt_or_le ((keys.pruned now).length : Int) limit with hr | hf
  · refine .inl ⟨hr, ?_⟩
    rw [if_neg (Int.not_le.mpr hr)]
    dsimp only
    rw [zadd_pruned h now]
    rfl
  · exact .inr ⟨hf, if_pos hf⟩

theorem Numbered.slide (h : keys.Numbered) (limit now : Int) : (slide limit now keys).2.Numbered := by
  rcases slide_cases h limit now with ⟨-, hs⟩ | ⟨-, hs⟩
  · rw [hs]
    refine ⟨fun entry he => ?_, by dsimp only; omega⟩
    rcases mem_append.mp he with he | he
    · exact Nat.le_succ_of_le (pruned_le_liveSeq h he)
    · obtain rfl := mem_singleton.mp he
      exact Nat.le_refl _
  · rw [hs]
    exact ⟨fun entry he => h.members entry (mem_pruned he).1, h.expiry⟩

theorem pruned_slide (h : keys.Numbered) (limit now : Int) :
    (slide limit now keys).2.pruned now =
      if (slide limit now keys).1 then keys.pruned now ++ [(keys.liveSeq now + 1, now)]
      else keys.pruned now := by
  have ha : zremrangebyscore (now - 60000) (keys.pruned now) = keys.pruned now := by
    rw [pruned, zremrangebyscore, zremrangebyscore, filter_filter]
    simp only [Bool.and_self]
  rcases slide_cases h limit now with ⟨-, hs⟩ | ⟨-, hs⟩
  · rw [hs, if_pos rfl, pruned, liveSet, if_neg (by dsimp only; omega), zremrangebyscore,
      filter_append, ← zremrangebyscore, ha]
    rw [filter_cons_of_pos (by exact decide_eq_true (by dsimp only; omega)), filter_nil]
  rw [hs, if_neg Bool.false_ne_true, pruned, liveSet]
  split
  · rename_i hg
    rw [pruned, liveSet, if_pos hg]
  · exact ha

theorem slide_spec (h : keys.Valid) (hp : ∀ x ∈ scores keys.set, x ≤ now) :
    (slide limit now keys).2.Valid ∧
      ((slide limit now keys).1 = true ↔
        ((recent 60000 now (scores keys.set)).length : Int) < limit) ∧
      scores (slide limit now keys).2.set =
        if (slide limit now keys).1 then recent 60000 now (scores keys.set) ++ [now]
        else recent 60000 now (scores keys.set) := by
  have hs := scores_pruned h now
  have hl : (keys.pruned now).length = (recent 60000 now (scores keys.set)).length := by
    rw [← hs, scores, length_map]
  have hn := h.toNumbered.slide limit now
  rcases slide_cases h.toNumbered limit now with ⟨hr, hsl⟩ | ⟨hf, hsl⟩
  · rw [hl] at hr
    rw [hsl] at hn ⊢
    have ha : scores (keys.pruned now ++ [(keys.liveSeq now + 1, now)]) =
        recent 60000 now (scores keys.set) ++ [now] := by
      rw [← hs, scores, map_append]
      rfl
    refine ⟨⟨hn, ?_⟩, iff_of_true rfl hr, ha⟩
    dsimp only
    rw [ha]
    intro x hx
    have := past_concat (fun y hy => hp y (mem_of_mem_filter hy)) x hx
    omega
  · rw [hl] at hf
    rw [hsl] at hn ⊢
    refine ⟨⟨hn, ?_⟩, iff_of_false Bool.false_ne_true (Int.not_lt.mpr hf), hs⟩
    dsimp only
    rw [hs]
    exact fun x hx => h.kept x (mem_of_mem_filter hx)

theorem valid_empty : Valid {} :=
  ⟨⟨fun _ h => absurd h not_mem_nil, Int.le_refl 0⟩, fun _ h => absurd h not_mem_nil⟩

end WindowKeys

theorem WindowKeys.Numbered.checkRPMRedis {keys : WindowKeys} (h : keys.Numbered) (limit now : Int) :
    (TenantQuota.checkRPMRedis limit now keys).2.Numbered := by
  rw [TenantQuota.checkRPMRedis]
  split
  · exact h
  · exact h.slide limit now

theorem min_of_sorted {oldest : Int} {rest : List Int} (h : (oldest :: rest).Pairwise (· ≤ ·)) :
    (oldest :: rest).min? = some oldest := by
  rw [min?_eq_some_iff]
  refine ⟨mem_cons_self, fun x hx => ?_⟩
  rcases mem_cons.mp hx with rfl | hx
  · exact Int.le_refl _
  · exact (pairwise_cons.mp h).1 x hx

theorem tenant_checkRPMRedis_eq {limit : Int} (hl : 1 ≤ limit) (now : Int) (keys : WindowKeys) :
    TenantQuota.checkRPMRedis limit now keys =
      ({ allowed := (slide limit now keys).1 }, (slide limit now keys).2) := by
  rw [TenantQuota.checkRPMRedis, if_neg (by omega), rpmLua]
  cases (slide limit now keys).1 <;> rfl

theorem public_checkRPMRedis_eq (limit now : Int) (keys : WindowKeys) :
    PublicRouting.checkRPMRedis limit now keys =
      (⟨(slide limit now keys).1, some (if (slide limit now keys).1 then 0
        else scriptRetryAfter now (scores (slide limit now keys).2.set).min?)⟩,
        (slide limit now keys).2) := by
  rw [PublicRouting.checkRPMRedis, publicRoutingRPMLua]
  cases (slide limit now keys).1 <;> rfl

theorem tenantRedis_views {limit : Int} (hl : 1 ≤ limit) :
    Views tenantRedis limit (fun keys => scores keys.set) WindowKeys.Valid where
  start := ⟨valid_empty, rfl⟩
  call {keys now} hv _ hp := by
    simp only [tenantRedis, tenant_checkRPMRedis_eq hl]
    exact slide_spec hv hp
  retry {keys now r} _ _ _ _ hr := by
    simp only [tenantRedis, tenant_checkRPMRedis_eq hl] at hr
    cases hr
  cleanup hv _ := ⟨hv, .inl rfl⟩

theorem publicRedis_views (limit : Int) :
    Views publicRedis limit (fun keys => scores keys.set) WindowKeys.Valid where
  start := ⟨valid_empty, rfl⟩
  call {keys now} hva _ hp := by
    simp only [publicRedis, public_checkRPMRedis_eq]
    exact slide_spec hva hp
  retry {keys now r} hva hs hp hre hr oldest rest hke := by
    simp only [publicRedis, public_checkRPMRedis_eq] at hre hr
    have hv := (@slide_spec keys limit now hva hp).2.2
    have hk : (oldest :: rest).Pairwise (· ≤ ·) := hke ▸ hs.filter _
    change recent 60000 now (scores keys.set) = oldest :: rest at hke
    rw [hre, if_neg Bool.false_ne_true, hke] at hv
    rw [hre, if_neg Bool.false_ne_true, hv, min_of_sorted hk] at hr
    obtain rfl := Option.some.inj hr
    change 0 ≤ 1000 * scriptRetryAfter now (some oldest) ∧
      60000 - (now - oldest) ≤ 1000 * scriptRetryAfter now (some oldest)
    simp only [scriptRetryAfter]
    omega
  cleanup hva _ := ⟨hva, .inl rfl⟩

/-! ## The queue -/

theorem slideQueue_eq {q : List Int} (hs : q.Pairwise (· ≤ ·)) (limit now : Int) :
    slideQueue limit now q =
      if limit ≤ ((recent 60 now q).length : Int) then (false, recent 60 now q)
      else (true, recent 60 now q ++ [now]) := by
  rw [slideQueue, dropWhile_eq_recent hs]

theorem slideQueue_spec {q : List Int} (hs : q.Pairwise (· ≤ ·)) (limit now : Int) :
    ((slideQueue limit now q).1 = true ↔ ((recent 60 now q).length : Int) < limit) ∧
      (slideQueue limit now q).2 =
        if (slideQueue limit now q).1 then recent 60 now q ++ [now] else recent 60 now q := by
  rw [slideQueue_eq hs]
  rcases Int.lt_or_le ((recent 60 now q).length : Int) limit with hr | hf
  · rw [if_neg (Int.not_le.mpr hr)]
    exact ⟨iff_of_true rfl hr, rfl⟩
  · rw [if_pos hf]
    exact ⟨iff_of_false Bool.false_ne_true (Int.not_lt.mpr hf), rfl⟩

theorem cleanupQueue_cases {q : List Int} (hs : q.Pairwise (· ≤ ·)) (now : Int) :
    cleanupQueue now q = q ∨ cleanupQueue now q = [] ∧ ∀ x ∈ q, x ≤ now - 60 := by
  rw [cleanupQueue]
  cases hl : q.getLast? with
  | none => exact .inl (getLast?_eq_none_iff.mp hl).symm
  | some last =>
    rcases Int.lt_or_le (now - 60) last with hn | ho
    · exact .inl (if_neg (Int.not_le.mpr hn))
    refine .inr ⟨if_pos ho, fun x hx => ?_⟩
    obtain ⟨init, rfl⟩ := getLast?_eq_some_iff.mp hl
    rcases mem_append.mp hx with hx | hx
    · have := (pairwise_append.mp hs).2.2 x hx last (mem_singleton_self last)
      exact Int.le_trans this ho
    · rw [mem_singleton.mp hx]
      exact ho

theorem tenantMemory_views {limit : Int} (hl : 1 ≤ limit) :
    Views tenantMemory limit id fun _ => True where
  start := ⟨trivial, rfl⟩
  call {q now} _ hs _ := by
    simp only [tenantMemory, TenantQuota.checkRPMMemory, if_neg (by omega : ¬limit ≤ 0), id_eq]
    exact ⟨trivial, slideQueue_spec hs limit now⟩
  retry {q now r} _ _ _ _ hr := by
    simp only [tenantMemory, TenantQuota.checkRPMMemory, if_neg (by omega : ¬limit ≤ 0)] at hr
    cases hr
  cleanup {q now} _ hs := ⟨trivial, cleanupQueue_cases hs now⟩

theorem publicMemory_views (limit : Int) : Views publicMemory limit id fun _ => True where
  start := ⟨trivial, rfl⟩
  call {q now} _ hs _ := ⟨trivial, slideQueue_spec hs limit now⟩
  retry {q now r} _ hs _ hre hr oldest rest hk := by
    simp only [publicMemory, PublicRouting.checkRPMMemory] at hre hr
    have hv := (@slideQueue_spec q hs limit now).2
    change recent 60 now q = oldest :: rest at hk
    rw [hre, if_neg Bool.false_ne_true, hk] at hv
    rw [hre, if_neg Bool.false_ne_true, hv] at hr
    obtain rfl := Option.some.inj hr
    change 0 ≤ 1 * PublicRouting.memoryRetryAfter now (oldest :: rest) ∧
      60 - (now - oldest) ≤ 1 * PublicRouting.memoryRetryAfter now (oldest :: rest)
    simp only [PublicRouting.memoryRetryAfter]
    omega
  cleanup _ _ := ⟨trivial, .inl rfl⟩

/-- All four windows are exact, and the answered delay of public routing is long enough. -/
theorem rpm_windows_exact : tenantRedis.ExactRuns ∧ tenantMemory.ExactRuns ∧ publicRedis.ExactRuns ∧
    publicMemory.ExactRuns :=
  ⟨Views.exactRuns fun _ => tenantRedis_views, Views.exactRuns fun _ => tenantMemory_views,
    Views.exactRuns fun limit _ => publicRedis_views limit,
    Views.exactRuns fun limit _ => publicMemory_views limit⟩

theorem rpm_windows_exact_four_calls :
    let ops : List WindowOp := [.call 0, .call 30500, .call 59999, .call 60000]
    Along (publicRedis.step 1)
        (fun s op => publicRedis.Exact 1 s op ∧ publicRedis.RetryAdmitted 1 s op) ⟨{}, 0, []⟩ ops ∧
      (run (publicRedis.step 1) ⟨{}, 0, []⟩ ops).admitted = [0, 60000] := by
  intro ops
  have ht : Along (publicRedis.step 1) WindowLimiter.Timed ⟨{}, 0, []⟩ ops := by
    simp only [ops, Along, WindowLimiter.Timed]
    decide +kernel
  exact ⟨rpm_windows_exact.2.2.1 1 (by decide) 0 ops ht, by decide +kernel⟩

end DeepRouter.Limits

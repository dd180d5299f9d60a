import DeepRouter.Library.Runs
import DeepRouter.Library.SlidingWindow

/-! # The limiter in memory -/

namespace DeepRouter.Limits

open Runs SlidingWindow List

structure RequestQueue where
  times : List Int
  nonempty : times ≠ []

namespace RequestQueue

def oldest (queue : RequestQueue) : Int := queue.times.head queue.nonempty

def newest (queue : RequestQueue) : Int := queue.times.getLast queue.nonempty

def start (now : Int) : RequestQueue := ⟨[now], List.cons_ne_nil _ _⟩

def push (queue : RequestQueue) (now : Int) : RequestQueue := ⟨queue.times ++ [now], by simp⟩

def shift (queue : RequestQueue) (now : Int) : RequestQueue := ⟨queue.times.tail ++ [now], by simp⟩

end RequestQueue

structure InMemoryRateLimiter where
  store : String → Option RequestQueue

namespace InMemoryRateLimiter

def empty : InMemoryRateLimiter := ⟨fun _ => none⟩

def set (l : InMemoryRateLimiter) (key : String) (queue : RequestQueue) : InMemoryRateLimiter :=
  ⟨Function.update l.store key (some queue)⟩

def request (l : InMemoryRateLimiter) (key : String) (maxRequestNum : Nat) (duration now : Int) :
    Bool × InMemoryRateLimiter :=
  match l.store key with
  | some queue =>
    if queue.times.length < maxRequestNum then (true, l.set key (queue.push now))
    else if duration ≤ now - queue.oldest then (true, l.set key (queue.shift now))
    else (false, l)
  | none => (true, l.set key (.start now))

def clearExpiredItems (l : InMemoryRateLimiter) (expiration now : Int) : InMemoryRateLimiter :=
  ⟨fun key => (l.store key).filter fun queue => ¬expiration < now - queue.newest⟩

def times (l : InMemoryRateLimiter) (key : String) : List Int :=
  ((l.store key).map RequestQueue.times).getD []

end InMemoryRateLimiter

def enqueue (maxRequestNum : Nat) (duration now : Int) : List Int → Option (List Int)
  | [] => some [now]
  | oldest :: rest =>
    if rest.length + 1 < maxRequestNum then some (oldest :: rest ++ [now])
    else if duration ≤ now - oldest then some (rest ++ [now])
    else none

namespace InMemoryRateLimiter

variable {l : InMemoryRateLimiter} {key key' : String} {maxRequestNum : Nat} {duration now : Int}

@[simp] theorem times_set (l : InMemoryRateLimiter) (key : String) (queue : RequestQueue) :
    (l.set key queue).times key = queue.times := by
  simp [times, set]

theorem store_set_of_ne {queue : RequestQueue} (h : key' ≠ key) :
    (l.set key queue).store key' = l.store key' :=
  Function.update_of_ne h _ _

theorem request_eq (l : InMemoryRateLimiter) (key : String) (maxRequestNum : Nat)
    (duration now : Int) :
    (l.request key maxRequestNum duration now).1 =
        (enqueue maxRequestNum duration now (l.times key)).isSome ∧
      (l.request key maxRequestNum duration now).2.times key =
        (enqueue maxRequestNum duration now (l.times key)).getD (l.times key) := by
  cases hs : l.store key with
  | none => simp [request, hs, times, enqueue, set, RequestQueue.start]
  | some queue =>
    obtain ⟨oldest, rest, ht⟩ := exists_cons_of_ne_nil queue.nonempty
    have ha : l.times key = oldest :: rest := by simp [times, hs, ht]
    have ho : queue.oldest = oldest := by simp [RequestQueue.oldest, ht]
    simp only [request, hs, ha, ho, enqueue, ht, length_cons]
    split
    · simp [RequestQueue.push, ht]
    · split
      · simp [RequestQueue.shift, ht]
      · simp [ha]

theorem request_other (h : key' ≠ key) :
    (l.request key maxRequestNum duration now).2.store key' = l.store key' := by
  rw [request]
  split
  · split
    · exact store_set_of_ne h
    · split
      · exact store_set_of_ne h
      · rfl
  · exact store_set_of_ne h

theorem times_congr {l' : InMemoryRateLimiter} (h : l'.store key = l.store key) :
    l'.times key = l.times key := by
  rw [times, times, h]

end InMemoryRateLimiter

inductive LimiterOp where
  | request (key : String) (maxRequestNum : Nat) (duration now : Int)
  | clear (expiration now : Int)

def LimiterOp.now : LimiterOp → Int
  | .request _ _ _ now => now
  | .clear _ now => now

structure LimiterRun where
  limiter : InMemoryRateLimiter
  clock : Int
  admitted : List Int := []

namespace LimiterRun

variable (key : String) (d : Int)

def step (s : LimiterRun) : LimiterOp → LimiterRun
  | .request key' maxRequestNum duration now =>
    let result := s.limiter.request key' maxRequestNum duration now
    { limiter := result.2
      clock := now
      admitted := if key' = key ∧ result.1 then s.admitted ++ [now] else s.admitted }
  | .clear expiration now => { s with limiter := s.limiter.clearExpiredItems expiration now, clock := now }

def Timed (s : LimiterRun) : LimiterOp → Prop
  | .request key' maxRequestNum duration now =>
    s.clock ≤ now ∧ (key' = key → 1 ≤ maxRequestNum ∧ duration = d)
  | .clear _ now => s.clock ≤ now

def Clean (s : LimiterRun) : LimiterOp → Prop
  | .request _ _ _ _ => True
  | .clear expiration now => ∀ queue ∈ s.limiter.store key,
      expiration < now - queue.newest → d ≤ now - queue.newest

/-- The oldest time that the queue drops leaves fewer than the limit in the window. -/
def FitsQueue (maxRequestNum : Nat) (now : Int) : List Int → Prop
  | [] => True
  | oldest :: rest => rest.length + 1 ≤ maxRequestNum ∨ now - oldest < d ∨
      (recent d now rest).length < maxRequestNum

def Fits (s : LimiterRun) : LimiterOp → Prop
  | .request key' maxRequestNum _ now => key' = key → FitsQueue d maxRequestNum now (s.limiter.times key)
  | .clear _ _ => True

def Enforced (s : LimiterRun) : LimiterOp → Prop
  | .request key' maxRequestNum duration now => key' = key →
      (s.limiter.request key' maxRequestNum duration now).1 = true →
        (recent d now (s.admitted ++ [now])).length ≤ maxRequestNum
  | .clear _ _ => True

instance (s : LimiterRun) : ∀ op, Decidable (s.Timed key d op)
  | .request _ _ _ _ => inferInstanceAs (Decidable (_ ∧ _))
  | .clear _ _ => inferInstanceAs (Decidable (_ ≤ _))

instance (s : LimiterRun) : ∀ op, Decidable (s.Clean key d op)
  | .request _ _ _ _ => inferInstanceAs (Decidable True)
  | .clear _ _ => inferInstanceAs (Decidable (∀ _ ∈ _, _))

instance (maxRequestNum : Nat) (now : Int) : ∀ times, Decidable (FitsQueue d maxRequestNum now times)
  | [] => inferInstanceAs (Decidable True)
  | _ :: _ => inferInstanceAs (Decidable (_ ∨ _))

instance (s : LimiterRun) : ∀ op, Decidable (s.Fits key d op)
  | .request _ _ _ _ => inferInstanceAs (Decidable (_ → _))
  | .clear _ _ => inferInstanceAs (Decidable True)

instance (s : LimiterRun) : ∀ op, Decidable (s.Enforced key d op)
  | .request _ _ _ _ => inferInstanceAs (Decidable (_ → _))
  | .clear _ _ => inferInstanceAs (Decidable True)

def Remembers (s : LimiterRun) : Prop := Tracks d s.clock s.admitted (s.limiter.times key)

variable {key d} {s : LimiterRun}

theorem enqueue_cases (maxRequestNum : Nat) (d now : Int) (times : List Int) :
    (enqueue maxRequestNum d now times = some (times ++ [now]) ∧
      (times = [] ∨ times.length < maxRequestNum)) ∨
    (∃ oldest rest, times = oldest :: rest ∧ maxRequestNum ≤ rest.length + 1 ∧
      oldest ≤ now - d ∧ enqueue maxRequestNum d now times = some (rest ++ [now])) ∨
    (∃ oldest rest, times = oldest :: rest ∧ maxRequestNum ≤ rest.length + 1 ∧
      now - d < oldest ∧ enqueue maxRequestNum d now times = none) := by
  cases times with
  | nil => exact .inl ⟨rfl, .inl rfl⟩
  | cons oldest rest =>
    rw [enqueue]
    split
    · rename_i hr
      exact .inl ⟨rfl, .inr hr⟩
    rename_i hf
    split
    · exact .inr (.inl ⟨oldest, rest, rfl, by omega, by omega, rfl⟩)
    · exact .inr (.inr ⟨oldest, rest, rfl, by omega, by omega, rfl⟩)

variable (key d) in
theorem step_request (s : LimiterRun) (maxRequestNum : Nat) (now : Int) :
    (s.step key (.request key maxRequestNum d now)).clock = now ∧
      (s.step key (.request key maxRequestNum d now)).admitted =
        (if (enqueue maxRequestNum d now (s.limiter.times key)).isSome then s.admitted ++ [now]
          else s.admitted) ∧
      (s.step key (.request key maxRequestNum d now)).limiter.times key =
        (enqueue maxRequestNum d now (s.limiter.times key)).getD (s.limiter.times key) := by
  obtain ⟨ha, ht⟩ := s.limiter.request_eq key maxRequestNum d now
  refine ⟨rfl, ?_, ht⟩
  simp only [step, ha, true_and]

namespace Remembers

theorem request (h : s.Remembers key d) {maxRequestNum : Nat} {now : Int} (hn : s.clock ≤ now) :
    (s.step key (.request key maxRequestNum d now)).Remembers key d := by
  obtain ⟨hc, had, ht⟩ := step_request key d s maxRequestNum now
  have hk := Tracks.later h hn
  rw [Remembers, hc, had, ht]
  rcases enqueue_cases maxRequestNum d now (s.limiter.times key) with
    ⟨ha, _⟩ | ⟨oldest, rest, hq, _, ho, ha⟩ | ⟨oldest, rest, hq, _, _, ha⟩
  · rw [ha]
    exact hk.push
  · rw [ha]
    rw [hq] at hk
    exact (hk.tail ho).push
  · rw [ha]
    exact hk

open InMemoryRateLimiter

theorem other (h : s.Remembers key d) {key' : String} {maxRequestNum : Nat} {duration now : Int}
    (hn : key' ≠ key) (hno : s.clock ≤ now) :
    (s.step key (.request key' maxRequestNum duration now)).Remembers key d := by
  have ht : (s.limiter.request key' maxRequestNum duration now).2.times key = s.limiter.times key :=
    times_congr (request_other (Ne.symm hn))
  have ha : (s.step key (.request key' maxRequestNum duration now)).admitted = s.admitted :=
    if_neg fun hb => hn hb.1
  rw [Remembers, ha]
  exact ht.symm ▸ Tracks.later h hno

theorem newest_ge {queue : RequestQueue} (hs : queue.times.Pairwise (· ≤ ·)) :
    ∀ x ∈ queue.times, x ≤ queue.newest := by
  intro x hx
  have hsp := dropLast_append_getLast queue.nonempty
  rw [← hsp] at hx hs
  rcases mem_append.mp hx with hx | hx
  · exact (pairwise_append.mp hs).2.2 x hx _ mem_cons_self
  · exact Int.le_of_eq (mem_singleton.mp hx)

theorem clear (h : s.Remembers key d) {expiration now : Int} (hn : s.clock ≤ now)
    (hc : s.Clean key d (.clear expiration now)) :
    (s.step key (.clear expiration now)).Remembers key d := by
  have hk := Tracks.later h hn
  change Tracks d now s.admitted ((s.limiter.clearExpiredItems expiration now).times key)
  cases hst : s.limiter.store key with
  | none =>
    rw [times_congr (l := s.limiter) (by simp [clearExpiredItems, hst])]
    exact hk
  | some queue =>
    have ht : s.limiter.times key = queue.times := by
      simp [times, hst]
    rcases Int.lt_or_le expiration (now - queue.newest) with he | hke
    · have hg : (s.limiter.clearExpiredItems expiration now).times key = [] := by
        rw [times, clearExpiredItems]
        dsimp only
        rw [hst, Option.filter_some, if_neg (by exact fun h => of_decide_eq_true h he)]
        rfl
      have hou := hc queue hst he
      rw [ht] at hk
      rw [hg]
      refine hk.clear fun x hx => ?_
      have hne := newest_ge hk.sorted x hx
      omega
    · have hs : (s.limiter.clearExpiredItems expiration now).times key = s.limiter.times key :=
        times_congr (by
          rw [clearExpiredItems]
          dsimp only
          rw [hst, Option.filter_some, if_pos (decide_eq_true (Int.not_lt.mpr hke))])
      rw [hs]
      exact hk

theorem step (h : s.Remembers key d) {op : LimiterOp} (ht : s.Timed key d op)
    (hc : s.Clean key d op) : (s.step key op).Remembers key d := by
  cases op with
  | clear expiration now => exact h.clear ht hc
  | request key' maxRequestNum duration now =>
    rcases eq_or_ne key' key with rfl | hn
    · obtain ⟨_, rfl⟩ := ht.2 rfl
      exact h.request ht.1
    · exact h.other hn ht.1

theorem length_recent_shift {maxRequestNum : Nat} {now : Int} {rest : List Int}
    (hpo : 1 ≤ maxRequestNum) (hp : ∀ x ∈ rest, x ≤ now) :
    (recent d now (rest ++ [now])).length ≤ maxRequestNum ↔
      (recent d now rest).length < maxRequestNum := by
  rw [recent_append, length_append]
  rcases Int.lt_or_le 0 d with hd | hd
  · rw [recent_cons_new (by omega : now - d < now), recent_nil, length_singleton]
    omega
  have hn : recent d now rest = [] := by
    refine recent_eq_nil fun x hx => ?_
    have := hp x hx
    omega
  have ho := length_recent_singleton_le d now now
  rw [hn, length_nil]
  omega

theorem request_enforced_iff (h : s.Remembers key d) {maxRequestNum : Nat} {now : Int}
    (hpo : 1 ≤ maxRequestNum) (hn : s.clock ≤ now) :
    ((s.limiter.request key maxRequestNum d now).1 = true →
        (recent d now (s.admitted ++ [now])).length ≤ maxRequestNum) ↔
      FitsQueue d maxRequestNum now (s.limiter.times key) := by
  obtain ⟨ha, _, hp⟩ := Tracks.later h hn
  have hc : recent d now (s.admitted ++ [now]) = recent d now (s.limiter.times key ++ [now]) :=
    ha.append now now (Int.le_refl now)
  rw [(s.limiter.request_eq key maxRequestNum d now).1, hc]
  rcases enqueue_cases maxRequestNum d now (s.limiter.times key) with
    ⟨had, hr⟩ | ⟨oldest, rest, hq, hf, ho, had⟩ | ⟨oldest, rest, hq, _, hne, had⟩
  · refine iff_of_true (fun _ => ?_) ?_
    · have hle := length_recent_le d now (s.limiter.times key ++ [now])
      rw [length_append, length_singleton] at hle
      rcases hr with hni | hsh
      · rw [hni, length_nil] at hle
        rw [hni]
        omega
      · omega
    · rcases hr with hni | hsh
      · rw [hni]
        trivial
      generalize s.limiter.times key = times at hsh
      cases times with
      | nil => trivial
      | cons oldest rest => exact .inl (Nat.le_of_lt hsh)
  · rw [had, hq]
    have hs := @length_recent_shift d maxRequestNum now rest hpo fun x hx =>
      hp x (hq ▸ mem_cons_of_mem _ hx)
    rw [cons_append, recent_cons_old ho, hs]
    have hle := length_recent_le d now rest
    constructor
    · intro hl
      exact .inr (.inr (hl rfl))
    rintro (hsh | hi | hl) _
    · omega
    · omega
    · exact hl
  · rw [had, hq]
    exact iff_of_true (fun hal => by cases hal) (.inr (.inl (by omega)))

theorem enforced_iff (h : s.Remembers key d) {op : LimiterOp} (ht : s.Timed key d op) :
    s.Enforced key d op ↔ s.Fits key d op := by
  cases op with
  | clear expiration now => exact Iff.rfl
  | request key' maxRequestNum duration now =>
    refine forall_congr' ?_
    rintro rfl
    obtain ⟨hp, rfl⟩ := ht.2 rfl
    exact h.request_enforced_iff hp ht.1

end Remembers

/-- Where the janitor only drops what is out of the window, the limits are enforced exactly when no
request meets a queue too long for its limit. -/
theorem limits_enforced_iff (key : String) (d start : Int) (ops : List LimiterOp)
    (hTimed : Along (step key) (Timed key d) { limiter := .empty, clock := start } ops)
    (hClean : Along (step key) (Clean key d) { limiter := .empty, clock := start } ops) :
    Along (step key) (Enforced key d) { limiter := .empty, clock := start } ops ↔
      Along (step key) (Fits key d) { limiter := .empty, clock := start } ops := by
  refine along_iff (I := fun s : LimiterRun => s.Remembers key d) ?_ ?_ ?_ (along_and hTimed hClean)
  · rintro s op h ⟨hTimed, hClean⟩ _
    exact h.step hTimed hClean
  · rintro s op h ⟨hTimed, _⟩
    exact h.enforced_iff hTimed
  · exact Tracks.nil d start

theorem limits_enforced_with_janitor :
    Along (step "user") (Enforced "user" 60) { limiter := .empty, clock := 0 }
      [.request "user" 2 60 10, .request "user" 2 60 11, .request "user" 2 60 12, .clear 60 200,
        .request "user" 1 60 200] :=
  (limits_enforced_iff "user" 60 0 _ (by decide +kernel) (by decide +kernel)).mpr (by decide +kernel)

theorem lowered_limit_not_enforced :
    ¬Along (step "user") (Enforced "user" 60) { limiter := .empty, clock := 0 }
      [.request "user" 3 60 0, .request "user" 3 60 59, .request "user" 3 60 59,
        .request "user" 1 60 60] ∧
    ¬Along (step "user") (Enforced "user" 60) { limiter := .empty, clock := 0 }
      [.request "user" 1 60 0, .clear 20 30, .request "user" 1 60 30] := by
  decide +kernel

end LimiterRun

end DeepRouter.Limits

import DeepRouter.Library.Runs
import Mathlib.Algebra.Order.Ring.Int
import Mathlib.Tactic.Ring

/-! # The token bucket -/

namespace DeepRouter.Limits

open Runs List

structure TokenBucket where
  (tokens lastTime : Int)

namespace TokenBucket

def refilled (rate capacity now : Int) : Option TokenBucket → Int
  | none => capacity
  | some bucket => min capacity (bucket.tokens + (now - bucket.lastTime) * rate)

def allow (requested rate capacity now : Int) (bucket : Option TokenBucket) : Bool × TokenBucket :=
  let tokens := refilled rate capacity now bucket
  if requested ≤ tokens then (true, ⟨tokens - requested, now⟩) else (false, ⟨tokens, now⟩)

def allowRequest (n d now : Int) (bucket : Option TokenBucket) : Bool × TokenBucket :=
  allow d n (n * d) now bucket

end TokenBucket

structure BucketRun where
  bucket : Option TokenBucket := none
  admitted : List Int := []

namespace BucketRun

open TokenBucket

variable (n d : Int)

def step (s : BucketRun) (now : Int) : BucketRun :=
  let result := allowRequest n d now s.bucket
  { bucket := some result.2
    admitted := if result.1 then s.admitted ++ [now] else s.admitted }

def Timed (s : BucketRun) (now : Int) : Prop := ∀ bucket ∈ s.bucket, bucket.lastTime ≤ now
deriving Decidable

def RejectedShort (s : BucketRun) (now : Int) : Prop :=
  (allowRequest n d now s.bucket).1 = false → (allowRequest n d now s.bucket).2.tokens < d

def admittedIn (s : BucketRun) (a T : Int) : Int :=
  ((s.admitted.filter fun time => a ≤ time ∧ time ≤ a + T).length : Int)

variable {n d} {s : BucketRun} {now : Int}

theorem step_cases (n d : Int) (s : BucketRun) (now : Int) :
    (d ≤ refilled n (n * d) now s.bucket ∧
      s.step n d now = ⟨some ⟨refilled n (n * d) now s.bucket - d, now⟩, s.admitted ++ [now]⟩) ∨
    (refilled n (n * d) now s.bucket < d ∧
      s.step n d now = ⟨some ⟨refilled n (n * d) now s.bucket, now⟩, s.admitted⟩) := by
  simp only [step, allowRequest, allow]
  split
  · rename_i he
    exact .inl ⟨he, rfl⟩
  · rename_i hs
    exact .inr ⟨Int.not_le.mp hs, rfl⟩

theorem rejectedShort (s : BucketRun) (now : Int) : s.RejectedShort n d now := by
  simp only [RejectedShort, allowRequest, allow]
  split
  · intro ha
    cases ha
  · rename_i hs
    intro _
    exact Int.not_le.mp hs

structure Paid (n d a T : Int) (s : BucketRun) : Prop where
  bounded : ∀ bucket ∈ s.bucket, 0 ≤ bucket.tokens ∧ bucket.tokens ≤ n * d
  unused : s.bucket = none → s.admitted = []
  past : ∀ bucket ∈ s.bucket, ∀ time ∈ s.admitted, time ≤ bucket.lastTime
  closed : d * s.admittedIn a T ≤ n * d + n * T
  running : ∀ bucket ∈ s.bucket, bucket.lastTime ≤ a + T →
    d * s.admittedIn a T + bucket.tokens ≤ n * d + n * max 0 (bucket.lastTime - a)

section

variable {a T : Int}

theorem admittedIn_concat (bucket : Option TokenBucket) (admitted : List Int) (now : Int) :
    admittedIn ⟨bucket, admitted ++ [now]⟩ a T =
      admittedIn ⟨bucket, admitted⟩ a T + if a ≤ now ∧ now ≤ a + T then 1 else 0 := by
  simp only [admittedIn, filter_append, length_append]
  split
  · rename_i hi
    simp [hi]
  · rename_i ho
    simp [ho]

theorem admittedIn_of_past (h : ∀ time ∈ s.admitted, time < a) : s.admittedIn a T = 0 := by
  have hn : (s.admitted.filter fun time => a ≤ time ∧ time ≤ a + T) = [] := by
    rw [filter_eq_nil_iff]
    intro time ht
    have hb := h time ht
    simp only [decide_eq_true_eq]
    omega
  rw [admittedIn, hn]
  rfl

theorem mul_max_nonneg (hn : 1 ≤ n) (x : Int) : 0 ≤ n * max 0 x :=
  Int.mul_nonneg (by omega) (Int.le_max_left 0 x)

namespace Paid

theorem refilled_bounds (h : Paid n d a T s) (hn : 1 ≤ n) (hd : 1 ≤ d) (ht : s.Timed now) :
    0 ≤ refilled n (n * d) now s.bucket ∧ refilled n (n * d) now s.bucket ≤ n * d := by
  have hc : 0 ≤ n * d := Int.mul_nonneg (by omega) (by omega)
  cases hb : s.bucket with
  | none => exact ⟨hc, Int.le_refl _⟩
  | some bucket =>
    have hto := (h.bounded bucket hb).1
    have ha : 0 ≤ (now - bucket.lastTime) * n :=
      Int.mul_nonneg (by have := ht bucket hb; omega) (by omega)
    exact ⟨Int.le_min.mpr ⟨hc, by omega⟩, Int.min_le_left _ _⟩

theorem refilled_paid (h : Paid n d a T s) (hn : 1 ≤ n) (hd : 1 ≤ d) (htm : s.Timed now)
    (ho : now ≤ a + T) :
    d * s.admittedIn a T + refilled n (n * d) now s.bucket ≤ n * d + n * max 0 (now - a) := by
  have hf := (h.refilled_bounds hn hd htm).2
  have hg := mul_max_nonneg hn (now - a)
  cases hbu : s.bucket with
  | none =>
    have hno : s.admittedIn a T = 0 := by
      apply admittedIn_of_past
      intro time ht
      rw [h.unused hbu] at ht
      exact absurd ht not_mem_nil
    rw [hbu] at hf
    rw [hno, Int.mul_zero]
    omega
  | some bucket =>
    have hl := htm bucket hbu
    rw [hbu] at hf
    rcases Int.lt_or_le bucket.lastTime a with hb | hs
    · have hno : s.admittedIn a T = 0 := admittedIn_of_past fun time ht =>
        Int.lt_of_le_of_lt (h.past bucket hbu time ht) hb
      rw [hno, Int.mul_zero]
      omega
    · have hp := h.running bucket hbu (by omega)
      have hr : refilled n (n * d) now (some bucket) ≤
          bucket.tokens + (now - bucket.lastTime) * n := Int.min_le_right _ _
      have he : n * (now - a) = n * (bucket.lastTime - a) + (now - bucket.lastTime) * n := by
        ring
      rw [Int.max_eq_right (by omega : 0 ≤ bucket.lastTime - a)] at hp
      rw [Int.max_eq_right (by omega : 0 ≤ now - a)]
      omega

theorem of_running {tokens : Int} {admitted : List Int} (hn : 1 ≤ n) (hT : 0 ≤ T)
    (hb : 0 ≤ tokens ∧ tokens ≤ n * d) (hp : ∀ time ∈ admitted, time ≤ now)
    (hr : now ≤ a + T → d * admittedIn ⟨some ⟨tokens, now⟩, admitted⟩ a T + tokens ≤
      n * d + n * max 0 (now - a))
    (hc : a + T < now → d * admittedIn ⟨some ⟨tokens, now⟩, admitted⟩ a T ≤ n * d + n * T) :
    Paid n d a T ⟨some ⟨tokens, now⟩, admitted⟩ where
  bounded := by
    rintro bucket ⟨⟩
    exact hb
  unused hno := by cases hno
  past := by
    rintro bucket ⟨⟩
    exact hp
  closed := by
    rcases Int.lt_or_le (a + T) now with he | ho
    · exact hc he
    have hpa := hr ho
    have hg : n * max 0 (now - a) ≤ n * T :=
      Int.mul_le_mul_of_nonneg_left (Int.max_le.mpr ⟨hT, by omega⟩) (by omega)
    omega
  running := by
    rintro bucket ⟨⟩
    exact hr

theorem past_now (h : Paid n d a T s) (ht : s.Timed now) : ∀ time ∈ s.admitted, time ≤ now := by
  intro time hti
  cases hb : s.bucket with
  | none =>
    rw [h.unused hb] at hti
    exact absurd hti not_mem_nil
  | some bucket => exact Int.le_trans (h.past bucket hb time hti) (ht bucket hb)

theorem step (h : Paid n d a T s) (hn : 1 ≤ n) (hd : 1 ≤ d) (hT : 0 ≤ T) (htm : s.Timed now) :
    Paid n d a T (s.step n d now) := by
  obtain ⟨hl, hh⟩ := h.refilled_bounds hn hd htm
  have hp := h.refilled_paid hn hd htm
  have hpa := h.past_now htm
  rcases step_cases n d s now with ⟨hen, hs⟩ | ⟨_, hs⟩
  · rw [hs]
    have hc : ∀ bucket, admittedIn ⟨bucket, s.admitted ++ [now]⟩ a T =
        s.admittedIn a T + if a ≤ now ∧ now ≤ a + T then 1 else 0 := fun bucket =>
      admittedIn_concat bucket s.admitted now
    refine of_running hn hT ⟨by omega, by omega⟩ ?_ ?_ ?_
    · intro time ht
      rcases mem_append.mp ht with ht | ht
      · exact hpa time ht
      · exact Int.le_of_eq (mem_singleton.mp ht)
    · intro ho
      have hb := hp ho
      rw [hc]
      split
      · rw [Int.mul_add, Int.mul_one]
        omega
      · rw [Int.add_zero]
        omega
    · intro he
      rw [hc, if_neg fun hi => absurd hi.2 (Int.not_le.mpr he), Int.add_zero]
      exact h.closed
  · rw [hs]
    exact of_running hn hT ⟨hl, hh⟩ hpa hp fun _ => h.closed

theorem init (hn : 1 ≤ n) (hd : 1 ≤ d) (hT : 0 ≤ T) : Paid n d a T {} where
  bounded := by rintro bucket ⟨⟩
  unused _ := rfl
  past := by rintro bucket ⟨⟩
  closed := by
    have hc : 0 ≤ n * d := Int.mul_nonneg (by omega) (by omega)
    have hg : 0 ≤ n * T := Int.mul_nonneg (by omega) hT
    change d * 0 ≤ _
    omega
  running := by rintro bucket ⟨⟩

end Paid

end

/-- A window of `T` seconds admits at most `n + ⌊n * T / d⌋` requests. -/
theorem token_bucket_bound (n d : Int) (hn : 1 ≤ n) (hd : 1 ≤ d) (times : List Int)
    (hTimed : Along (step n d) Timed {} times) :
    (∀ bucket ∈ (run (step n d) {} times).bucket, 0 ≤ bucket.tokens ∧ bucket.tokens ≤ n * d) ∧
      (∀ a T, 0 ≤ T → (run (step n d) {} times).admittedIn a T ≤ n + n * T / d) ∧
      Along (step n d) (RejectedShort n d) {} times := by
  have hp : ∀ a T, 0 ≤ T → Paid n d a T (run (step n d) {} times) := fun a T hT =>
    run_invariant (fun s now h hno => h.step hn hd hT hno) (Paid.init hn hd hT) times hTimed
  refine ⟨(hp 0 0 (Int.le_refl 0)).bounded, ?_, ?_⟩
  · intro a T hT
    have hc := (hp a T hT).closed
    have ho : (run (step n d) {} times).admittedIn a T - n ≤ n * T / d := by
      rw [Int.le_ediv_iff_mul_le (by omega), Int.sub_mul, Int.mul_comm _ d]
      omega
    omega
  · exact along_mono (fun s now _ => s.rejectedShort now) hTimed

theorem token_bucket_bound_two_a_minute :
    Along (step 2 60) Timed {} [0, 0, 0, 31, 31] ∧
      (run (step 2 60) {} [0, 0, 0, 31, 31]).admitted = [0, 0, 31] ∧
      (run (step 2 60) {} [0, 0, 0, 31, 31]).admittedIn 0 31 ≤ 2 + 2 * 31 / 60 := by
  refine ⟨by decide, by decide, ?_⟩
  exact (token_bucket_bound 2 60 (by decide) (by decide) _ (by decide)).2.1 0 31 (by decide)

end BucketRun

end DeepRouter.Limits

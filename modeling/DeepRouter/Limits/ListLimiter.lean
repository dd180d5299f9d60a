import DeepRouter.Library.Runs
import DeepRouter.Library.SlidingWindow

/-! # The list limiter over Redis

The commands of several requests interleave, and each is one step here. -/

namespace DeepRouter.Limits

open Runs SlidingWindow

inductive LimiterPhase where
  | llen
  | push
  | lindex
  | pushThenTrim
  | ltrim
  | passed
  | rejected (retryAfter : Int)
  | failed

namespace LimiterPhase

def pushes : LimiterPhase → Bool
  | .push | .pushThenTrim => true
  | _ => false

def between : LimiterPhase → Bool
  | .push | .lindex | .pushThenTrim | .ltrim => true
  | _ => false

end LimiterPhase

structure ListLimiter where
  list : List Int := []
  phase : Nat → LimiterPhase := fun _ => .llen
  clock : Int := 0
  passed : List Int := []

inductive ListOp where
  | command (request : Nat) (now : Int)
  | expire (now : Int)

namespace ListLimiter

variable (maxRequestNum : Nat) (duration : Int)

def goTo (s : ListLimiter) (request : Nat) (now : Int) (phase : LimiterPhase) : ListLimiter :=
  { s with phase := Function.update s.phase request phase, clock := now }

def afterLIndex (now : Int) : Option Int → LimiterPhase
  | none => .failed
  | some oldTime =>
    let elapsed := (now - oldTime).tdiv 1000
    if elapsed < duration then .rejected (duration - elapsed) else .pushThenTrim

def lpush (s : ListLimiter) (now : Int) : ListLimiter :=
  { s with list := now :: s.list, passed := s.passed ++ [now] }

def redisRateLimiter (s : ListLimiter) (request : Nat) (now : Int) : ListLimiter :=
  match s.phase request with
  | .llen => s.goTo request now (if s.list.length < maxRequestNum then .push else .lindex)
  | .push => (s.lpush now).goTo request now .passed
  | .lindex => s.goTo request now (afterLIndex duration now s.list.getLast?)
  | .pushThenTrim => (s.lpush now).goTo request now .ltrim
  | .ltrim => { s with list := s.list.take maxRequestNum }.goTo request now .passed
  | ended => s.goTo request now ended

def step (s : ListLimiter) : ListOp → ListLimiter
  | .command request now => redisRateLimiter maxRequestNum duration s request now
  | .expire now => { s with list := [], clock := now }

def Timed (s : ListLimiter) : ListOp → Prop
  | .command _ now => s.clock ≤ now
  | .expire now => s.clock ≤ now ∧ ∀ x ∈ s.list, x ≤ now - 1000 * duration

/-- Of the requests of the key, only this one may be between its commands. -/
def Alone (requests : List Nat) (s : ListLimiter) (request : Nat) : Prop :=
  request ∈ requests ∧ ∀ other ∈ requests, other ≠ request → (s.phase other).between = false
deriving Decidable

def InTurn (requests : List Nat) (s : ListLimiter) : ListOp → Prop
  | .command request _ => s.Alone requests request
  | .expire _ => True

instance (s : ListLimiter) : ∀ op, Decidable (s.Timed duration op)
  | .command _ _ => inferInstanceAs (Decidable (_ ≤ _))
  | .expire _ => inferInstanceAs (Decidable (_ ∧ _))

instance (requests : List Nat) (s : ListLimiter) : ∀ op, Decidable (s.InTurn requests op)
  | .command _ _ => inferInstanceAs (Decidable (Alone _ _ _))
  | .expire _ => inferInstanceAs (Decidable True)

structure Keeps (s : ListLimiter) : Prop where
  holds : Holds maxRequestNum (1000 * duration) s.clock s.passed s.list
  past : ∀ x ∈ s.passed, x ≤ s.clock

variable {maxRequestNum duration} {s : ListLimiter} {request : Nat} {now : Int}

theorem command_cases (maxRequestNum : Nat) (duration : Int) (s : ListLimiter) (request : Nat)
    (now : Int) :
    let next := redisRateLimiter maxRequestNum duration s request now
    next.clock = now ∧
      ((s.phase request).pushes = true ∧ next.list = now :: s.list ∧ next.passed = s.passed ++ [now] ∨
        (s.phase request).pushes = false ∧ next.passed = s.passed ∧
          (next.list = s.list ∨ next.list = s.list.take maxRequestNum)) := by
  unfold redisRateLimiter
  cases hp : s.phase request with
  | llen => exact ⟨rfl, .inr ⟨rfl, rfl, .inl rfl⟩⟩
  | push => exact ⟨rfl, .inl ⟨rfl, rfl, rfl⟩⟩
  | lindex => exact ⟨rfl, .inr ⟨rfl, rfl, .inl rfl⟩⟩
  | pushThenTrim => exact ⟨rfl, .inl ⟨rfl, rfl, rfl⟩⟩
  | ltrim => exact ⟨rfl, .inr ⟨rfl, rfl, .inr rfl⟩⟩
  | passed => exact ⟨rfl, .inr ⟨rfl, rfl, .inl rfl⟩⟩
  | rejected retryAfter => exact ⟨rfl, .inr ⟨rfl, rfl, .inl rfl⟩⟩
  | failed => exact ⟨rfl, .inr ⟨rfl, rfl, .inl rfl⟩⟩

namespace Keeps

theorem initial (maxRequestNum : Nat) (duration : Int) : Keeps maxRequestNum duration {} :=
  ⟨Holds.nil _ _ _, fun _ h => absurd h List.not_mem_nil⟩

theorem later (h : s.Keeps maxRequestNum duration) (hn : s.clock ≤ now) :
    Holds maxRequestNum (1000 * duration) now s.passed s.list ∧ ∀ x ∈ s.passed, x ≤ now :=
  ⟨h.holds.later hn, fun x hx => Int.le_trans (h.past x hx) hn⟩

theorem step (h : s.Keeps maxRequestNum duration) (hm : 1 ≤ maxRequestNum) {op : ListOp}
    (ht : s.Timed duration op) : (s.step maxRequestNum duration op).Keeps maxRequestNum duration := by
  cases op with
  | expire now =>
    obtain ⟨hh, hpa⟩ := h.later ht.1
    exact ⟨hh.clear hm ht.2, hpa⟩
  | command request now =>
    obtain ⟨hh, hpa⟩ := h.later ht
    obtain ⟨hcl, hc⟩ := command_cases maxRequestNum duration s request now
    rcases hc with ⟨-, hl, hp⟩ | ⟨-, hp, hl | hl⟩
    · constructor
      · rw [ListLimiter.step, hcl, hp, hl]
        exact hh.push
      · rw [ListLimiter.step, hcl, hp]
        exact past_concat hpa
    · constructor
      · rw [ListLimiter.step, hcl, hp, hl]
        exact hh
      · rw [ListLimiter.step, hcl, hp]
        exact hpa
    · constructor
      · rw [ListLimiter.step, hcl, hp, hl]
        exact hh.trim
      · rw [ListLimiter.step, hcl, hp]
        exact hpa

end Keeps

/-- What the list is like for a request in this phase while no other one is between its commands. -/
def Ready (maxRequestNum : Nat) (duration : Int) (s : ListLimiter) : LimiterPhase → Prop
  | .push => s.list.length < maxRequestNum
  | .pushThenTrim =>
    s.list.length ≤ maxRequestNum ∧ HasRoom maxRequestNum (1000 * duration) s.clock s.list
  | .ltrim => True
  | _ => s.list.length ≤ maxRequestNum

theorem ready_of_idle {phase : LimiterPhase} (h : phase.between = false) :
    s.Ready maxRequestNum duration phase ↔ s.list.length ≤ maxRequestNum := by
  cases phase with
  | push | lindex | pushThenTrim | ltrim => cases h
  | llen | passed | rejected | failed => exact Iff.rfl

theorem goTo_phase (s : ListLimiter) (request : Nat) (now : Int) (phase : LimiterPhase) :
    (s.goTo request now phase).phase request = phase :=
  Function.update_self ..

theorem ready_command (hk : s.Keeps maxRequestNum duration) (hn : s.clock ≤ now)
    (hr : s.Ready maxRequestNum duration (s.phase request)) :
    (redisRateLimiter maxRequestNum duration s request now).Ready maxRequestNum duration
      ((redisRateLimiter maxRequestNum duration s request now).phase request) := by
  unfold redisRateLimiter
  generalize s.phase request = phase at hr ⊢
  cases phase with
  | llen =>
    simp only [goTo_phase]
    split
    · assumption
    · exact hr
  | lindex =>
    simp only [goTo_phase, afterLIndex]
    split
    · exact hr
    rename_i oldTime ho
    have hle := (hk.later hn).1.le_now (List.mem_of_getLast? ho)
    split
    · exact hr
    · rename_i hel
      rw [elapsed_lt_iff duration hle, Int.not_lt] at hel
      exact ⟨hr, .inr ⟨oldTime, ho, hel⟩⟩
  | pushThenTrim =>
    simp only [goTo_phase]
    trivial
  | ltrim =>
    simp only [goTo_phase]
    exact List.length_take_le ..
  | push | passed | rejected | failed =>
    simp only [goTo_phase]
    exact hr

theorem command_phase_of_ne (maxRequestNum : Nat) (duration : Int) (s : ListLimiter) (now : Int)
    {other : Nat} (h : other ≠ request) :
    (redisRateLimiter maxRequestNum duration s request now).phase other = s.phase other := by
  unfold redisRateLimiter
  split <;> exact Function.update_of_ne h ..

structure Serial (maxRequestNum : Nat) (duration : Int) (requests : List Nat)
    (s : ListLimiter) : Prop where
  keeps : s.Keeps maxRequestNum duration
  ready : ∀ request, s.Alone requests request → s.Ready maxRequestNum duration (s.phase request)
  atMost : AtMost maxRequestNum (1000 * duration) s.passed

theorem recent_of_ready (hk : s.Keeps maxRequestNum duration) (hm : 1 ≤ maxRequestNum)
    (hn : s.clock ≤ now) (hr : s.Ready maxRequestNum duration (s.phase request))
    (hp : (s.phase request).pushes = true) :
    (recent (1000 * duration) now s.passed).length < maxRequestNum := by
  cases hs : s.phase request with
  | push =>
    rw [hs] at hr
    exact hk.holds.recent_of_hasRoom hm hn (Nat.le_of_lt hr) (.inl hr)
  | pushThenTrim =>
    rw [hs] at hr
    obtain ⟨hl, hs | ⟨oldest, ho, hol⟩⟩ := hr
    · exact hk.holds.recent_of_hasRoom hm hn hl (.inl hs)
    · exact hk.holds.recent_of_hasRoom hm hn hl (.inr ⟨oldest, ho, by omega⟩)
  | llen | lindex | ltrim | passed | rejected | failed =>
    rw [hs] at hp
    cases hp

theorem Serial.step {requests : List Nat} {op : ListOp}
    (h : s.Serial maxRequestNum duration requests) (hm : 1 ≤ maxRequestNum)
    (ht : s.Timed duration op) (hi : s.InTurn requests op) :
    (s.step maxRequestNum duration op).Serial maxRequestNum duration requests := by
  have hke := h.keeps.step hm ht
  cases op with
  | expire now =>
    refine ⟨hke, ?_, h.atMost⟩
    intro request _
    generalize ListLimiter.phase _ request = phase
    cases phase with
    | push => exact hm
    | pushThenTrim => exact ⟨Nat.zero_le _, .inl hm⟩
    | ltrim => trivial
    | llen | lindex | passed | rejected | failed => exact Nat.zero_le _
  | command request now =>
    have hr := h.ready request hi
    have hre := ready_command h.keeps ht hr
    refine ⟨hke, ?_, ?_⟩
    · intro other ho
      by_cases heq : other = request
      · rw [heq]
        exact hre
      -- both are between none of their commands
      rw [ListLimiter.step] at ho ⊢
      have hid := ho.2 request hi.1 (Ne.symm heq)
      have hun := command_phase_of_ne maxRequestNum duration s now heq
      rw [hun, ready_of_idle (hi.2 other ho.1 heq)]
      exact (ready_of_idle hid).mp hre
    · rcases (command_cases maxRequestNum duration s request now).2 with
        ⟨hpu, -, hpa⟩ | ⟨-, hpa, -⟩
      · rw [ListLimiter.step, hpa, atMost_concat_iff hm (h.keeps.later ht).2]
        exact ⟨h.atMost, recent_of_ready h.keeps hm ht hr hpu⟩
      · rw [ListLimiter.step, hpa]
        exact h.atMost

/-- While the requests of a key send their commands in turn, at most `maxRequestNum` of them pass in
every window. -/
theorem list_limiter_bound_of_inTurn {maxRequestNum : Nat} (hMax : 1 ≤ maxRequestNum)
    {duration : Int} (requests : List Nat) {ops : List ListOp}
    (hTimed : Along (step maxRequestNum duration) (Timed duration) {} ops)
    (hTurn : Along (step maxRequestNum duration) (InTurn requests) {} ops) :
    AtMost maxRequestNum (1000 * duration) (run (step maxRequestNum duration) {} ops).passed := by
  have hs : Serial maxRequestNum duration requests {} :=
    ⟨Keeps.initial _ _, fun _ _ => Nat.zero_le _, AtMost.nil _ _⟩
  refine (run_invariant ?_ hs ops (along_and hTimed hTurn)).atMost
  intro s op h ht
  exact h.step hMax ht.1 ht.2

def requestsInTurn : List ListOp :=
  [.command 0 0, .command 0 1, .command 1 2, .command 1 3, .command 2 70000, .command 2 70001,
    .command 2 70002]

theorem list_limiter_bound_requestsInTurn :
    (run (step 1 60) {} requestsInTurn).passed = [1, 70002] ∧
      AtMost 1 60000 (run (step 1 60) {} requestsInTurn).passed :=
  ⟨by decide +kernel, @list_limiter_bound_of_inTurn 1 (Nat.le_refl 1) 60 [0, 1, 2] requestsInTurn
    (by decide +kernel) (by decide +kernel)⟩

theorem list_limiter_passes_two :
    (Along (step 1 60) (Timed 60) {} [.command 0 0, .command 1 0, .command 0 1, .command 1 1] ∧
      (within 0 60000
        (run (step 1 60) {} [.command 0 0, .command 1 0, .command 0 1, .command 1 1]).passed).length = 2) ∧
    (Along (step 1 60) (Timed 60) {} [.command 0 0, .command 0 0, .command 1 60000, .command 1 60000,
        .command 1 60000, .command 2 60001, .command 2 60001, .command 2 60001] ∧
      (within 10000 60000
        (run (step 1 60) {} [.command 0 0, .command 0 0, .command 1 60000, .command 1 60000,
          .command 1 60000, .command 2 60001, .command 2 60001, .command 2 60001]).passed).length = 2) := by
  decide +kernel

end ListLimiter

end DeepRouter.Limits

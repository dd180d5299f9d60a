import DeepRouter.Library.Runs

/-! # Transactions under READ COMMITTED

A statement sees the committed store with the pending writes of its own transaction, a write locks
its row until the transaction ends, and a commit publishes the pending writes in one step. Reads take
no lock, so the row that a write replaces need not be the one that the call has read. -/

namespace DeepRouter.ReadCommitted

open Runs List Function

universe u v w x y z

inductive Prog (σ : Type u) (ω : Type v) (ε : Type w) (α : Type x) where
  | done (result : Except ε α)
  | read (next : Except ε σ → Prog σ ω ε α)
  | write (row : ω) (next : Except ε Unit → Prog σ ω ε α)
  | commit (next : Except ε Unit → Prog σ ω ε α)
  | rollback (next : Prog σ ω ε α)

/-- `slot` is what a store holds in a row, and `refuse` the constraint that a write violates. -/
structure Engine (κ : Type y) (σ : Type u) (ω : Type v) (ε : Type w) (ρ : Type z) where
  key : ω → κ
  apply : σ → ω → σ
  refuse : σ → ω → Option ε
  slot : κ → σ → ρ
  frame : ∀ k s row, k ≠ key row → slot k (apply s row) = slot k s
  local_row : ∀ s t row, slot (key row) s = slot (key row) t →
    slot (key row) (apply s row) = slot (key row) (apply t row)

structure Session (σ : Type u) (ω : Type v) (ε : Type w) (α : Type x) where
  prog : Prog σ ω ε α
  (pending log : List ω := [])

structure State (ι : Type y) (κ : Type z) (σ : Type u) (ω : Type v) (ε : Type w) (α : Type x) where
  store : σ
  locks : κ → Option ι
  sessions : ι → Option (Session σ ω ε α)

inductive Event (ι : Type y) (γ : Type z) (ε : Type w) where
  | start (i : ι) (call : γ)
  | exec (i : ι) (fault : Option ε)

namespace Prog

variable {σ : Type u} {ω : Type v} {ε : Type w} {α : Type x}

/-- Every transaction that the call may commit satisfies `tx` and every result that it may return
`fin`, which also sees what was committed. -/
def Spec (tx : List ω → Prop) (fin : List ω → Except ε α → Prop) :
    List ω → List ω → Prog σ ω ε α → Prop
  | log, _, .done result => fin log result
  | log, pending, .read next => ∀ answer, Spec tx fin log pending (next answer)
  | log, pending, .write row next =>
    Spec tx fin log (pending ++ [row]) (next (.ok ())) ∧
      ∀ e, Spec tx fin log pending (next (.error e))
  | log, pending, .commit next =>
    tx pending ∧ Spec tx fin (log ++ pending) [] (next (.ok ())) ∧
      ∀ e, Spec tx fin log [] (next (.error e))
  | log, _, .rollback next => Spec tx fin log [] next

theorem spec_ite {tx : List ω → Prop} {fin : List ω → Except ε α → Prop} {log pending : List ω}
    {c : Prop} [Decidable c] {p q : Prog σ ω ε α} (hp : c → p.Spec tx fin log pending)
    (hq : ¬c → q.Spec tx fin log pending) : (if c then p else q).Spec tx fin log pending := by
  split
  · exact hp ‹_›
  · exact hq ‹_›

end Prog

section

variable {ι : Type y} {κ : Type z} {σ : Type u} {ω : Type v} {ε : Type w} {α : Type x} {ρ γ : Type*}

namespace State

def initial (store : σ) : State ι κ σ ω ε α := ⟨store, fun _ => none, fun _ => none⟩

def view (E : Engine κ σ ω ε ρ) (s : State ι κ σ ω ε α) (session : Session σ ω ε α) : σ :=
  run E.apply s.store session.pending

variable [DecidableEq ι]

def setSession (s : State ι κ σ ω ε α) (i : ι) (session : Session σ ω ε α) : State ι κ σ ω ε α :=
  { s with sessions := Function.update s.sessions i (some session) }

def release (s : State ι κ σ ω ε α) (i : ι) : State ι κ σ ω ε α :=
  { s with locks := fun k => if s.locks k = some i then none else s.locks k }

@[simp] theorem setSession_store (s : State ι κ σ ω ε α) (i : ι) (session : Session σ ω ε α) :
    (s.setSession i session).store = s.store := rfl

@[simp] theorem setSession_sessions (s : State ι κ σ ω ε α) (i : ι) (session : Session σ ω ε α) :
    (s.setSession i session).sessions = Function.update s.sessions i (some session) := rfl

@[simp] theorem release_store (s : State ι κ σ ω ε α) (i : ι) : (s.release i).store = s.store := rfl

def blocked (E : Engine κ σ ω ε ρ) (s : State ι κ σ ω ε α) (i : ι) (row : ω) : Bool :=
  match s.locks (E.key row) with
  | none => false
  | some j => decide (j ≠ i)

def failure (E : Engine κ σ ω ε ρ) (s : State ι κ σ ω ε α) (session : Session σ ω ε α)
    (fault : Option ε) (row : ω) : Option ε :=
  match fault with
  | some e => some e
  | none => E.refuse (s.view E session) row

def executed (E : Engine κ σ ω ε ρ) (s : State ι κ σ ω ε α) :
    Event ι γ ε → Option (Session σ ω ε α × ω)
  | .start _ _ => none
  | .exec i fault =>
    match s.sessions i with
    | none => none
    | some session =>
      match session.prog with
      | .write row _ =>
        if s.blocked E i row || (s.failure E session fault row).isSome then none
        else some (session, row)
      | _ => none

variable [DecidableEq κ]

def exec (E : Engine κ σ ω ε ρ) (s : State ι κ σ ω ε α) (i : ι) (session : Session σ ω ε α)
    (fault : Option ε) : State ι κ σ ω ε α :=
  match session.prog, fault with
  | .done _, _ => s
  | .read next, some e => s.setSession i { session with prog := next (.error e) }
  | .read next, none => s.setSession i { session with prog := next (.ok (s.view E session)) }
  | .write row next, fault =>
    if s.blocked E i row then s
    else
      match s.failure E session fault row with
      | some e => s.setSession i { session with prog := next (.error e) }
      | none =>
        { s.setSession i { session with
            prog := next (.ok ()), pending := session.pending ++ [row] } with
          locks := Function.update s.locks (E.key row) (some i) }
  | .commit next, some e =>
    (s.release i).setSession i { session with prog := next (.error e), pending := [] }
  | .commit next, none =>
    { (s.release i).setSession i
        { prog := next (.ok ()), pending := [], log := session.log ++ session.pending } with
      store := s.view E session }
  | .rollback next, _ => (s.release i).setSession i { session with prog := next, pending := [] }

def step (E : Engine κ σ ω ε ρ) (prog : γ → Prog σ ω ε α) (s : State ι κ σ ω ε α) :
    Event ι γ ε → State ι κ σ ω ε α
  | .start i call =>
    match s.sessions i with
    | none => s.setSession i { prog := prog call }
    | some _ => s
  | .exec i fault =>
    match s.sessions i with
    | none => s
    | some session => s.exec E i session fault

end State

def State.published (s : State ι κ σ ω ε α) : Event ι γ ε → List ω
  | .exec i none =>
    match s.sessions i with
    | some ⟨.commit _, pending, _⟩ => pending
    | _ => []
  | _ => []

def Fits (E : Engine κ σ ω ε ρ) (good : ρ → ω → Prop) (s : σ) (row : ω) : Prop :=
  good (E.slot (E.key row) s) row

variable {E : Engine κ σ ω ε ρ}

theorem along_fits_congr {good : ρ → ω → Prop} {s t : σ} {rows : List ω}
    (h : Along E.apply (Fits E good) s rows)
    (hs : ∀ row ∈ rows, E.slot (E.key row) s = E.slot (E.key row) t) :
    Along E.apply (Fits E good) t rows := by
  induction rows generalizing s t with
  | nil => trivial
  | cons first rows ih =>
    obtain ⟨hf, hr⟩ := h
    have hh := hs first mem_cons_self
    constructor
    · simp only [Fits, ← hh]
      exact hf
    apply ih hr
    intro row hro
    have hsl := hs row (mem_cons_of_mem _ hro)
    by_cases hk : E.key row = E.key first
    · rw [hk]
      exact E.local_row s t first hh
    · rw [E.frame _ s first hk, E.frame _ t first hk]
      exact hsl

theorem slot_run {k : κ} (s : σ) {rows : List ω}
    (h : ∀ row ∈ rows, k ≠ E.key row) : E.slot k (run E.apply s rows) = E.slot k s := by
  induction rows generalizing s with
  | nil => rfl
  | cons first rows ih =>
    rw [run_cons, ih _ fun row hr => h row (mem_cons_of_mem _ hr)]
    exact E.frame k s first (h first mem_cons_self)

def Agree (E : Engine κ σ ω ε ρ) (rows : List ω) (s t : σ) : Prop :=
  ∀ row ∈ rows, E.slot (E.key row) s = E.slot (E.key row) t

theorem agree_refl (E : Engine κ σ ω ε ρ) (rows : List ω) (s : σ) : Agree E rows s s :=
  fun _ _ => rfl

/-- The next statement of a call over the store that it sees keeps `P`; `ok` is what is known of a
row that it writes. -/
def Session.Keeps (E : Engine κ σ ω ε ρ) (P : σ → Session σ ω ε α → Prop) (ok : ω → Prop)
    (store : σ) : Session σ ω ε α → Prop
  | ⟨.done _, _, _⟩ => True
  | ⟨.read next, pending, log⟩ =>
    P store ⟨next (.ok (run E.apply store pending)), pending, log⟩ ∧
      ∀ e, P store ⟨next (.error e), pending, log⟩
  | ⟨.write row next, pending, log⟩ =>
    (ok row → P store ⟨next (.ok ()), pending ++ [row], log⟩) ∧
      ∀ e, P store ⟨next (.error e), pending, log⟩
  | ⟨.commit next, pending, log⟩ =>
    P (run E.apply store pending) ⟨next (.ok ()), [], log ++ pending⟩ ∧
      ∀ e, P store ⟨next (.error e), [], log⟩
  | ⟨.rollback next, _, log⟩ => P store ⟨next, [], log⟩

/-- Every call has locked the rows of its pending writes and satisfies `P`. -/
def State.All (E : Engine κ σ ω ε ρ) (P : σ → Session σ ω ε α → Prop) (s : State ι κ σ ω ε α) :
    Prop :=
  ∀ i session, s.sessions i = some session →
    (∀ row ∈ session.pending, s.locks (E.key row) = some i) ∧ P s.store session

variable {session : Session σ ω ε α}

section

variable {P : σ → Session σ ω ε α → Prop} {prog : γ → Prog σ ω ε α} {s : State ι κ σ ω ε α} {i : ι}

open State

theorem initial_all (store : σ) : (initial store : State ι κ σ ω ε α).All E P := by
  intro i session h
  cases h

theorem published_cases (s : State ι κ σ ω ε α) (a : Event ι γ ε) :
    s.published a = [] ∨ ∃ i next log, s.sessions i = some ⟨.commit next, s.published a, log⟩ := by
  unfold State.published
  split
  · split
    · rename_i i _ next pending log hi
      exact .inr ⟨i, next, log, hi⟩
    · exact .inl rfl
  · exact .inl rfl

/-- A row that another call has locked is none of those that are published. -/
theorem slot_view (hlo : ∀ row ∈ session.pending, s.locks (E.key row) = some i) {j : ι} {k : κ}
    (hj : j ≠ i) (hl : s.locks k = some j) : E.slot k s.store = E.slot k (s.view E session) := by
  refine (slot_run s.store ?_).symm
  rintro row hr rfl
  rw [hlo row hr] at hl
  exact hj (Option.some.inj hl).symm

variable [DecidableEq ι]

variable (ht : ∀ s t session, P s session → Agree E session.pending s t → P t session)

include ht

theorem State.All.replace (hs : s.All E P) {store : σ} {locks : κ → Option ι}
    (hl : ∀ j k, j ≠ i → s.locks k = some j → locks k = some j)
    (hst : ∀ j k, j ≠ i → s.locks k = some j → E.slot k s.store = E.slot k store)
    (hlo : ∀ row ∈ session.pending, locks (E.key row) = some i) (hP : P store session) :
    ({ s.setSession i session with store, locks } : State ι κ σ ω ε α).All E P := by
  intro j other ho
  simp only [setSession_sessions] at ho
  by_cases hj : j = i
  · subst hj
    rw [update_self] at ho
    cases ho
    exact ⟨hlo, hP⟩
  · rw [update_of_ne hj] at ho
    obtain ⟨hol, hp⟩ := hs j other ho
    exact ⟨fun row hr => hl j _ hj (hol row hr),
      ht _ _ _ hp fun row hr => hst j _ hj (hol row hr)⟩

omit ht

theorem release_other {j : ι} {k : κ} (hj : j ≠ i) (h : s.locks k = some j) :
    (s.release i).locks k = some j := by
  simp only [release]
  rw [if_neg, h]
  rw [h]
  simpa using hj

variable [DecidableEq κ]

theorem lock_free {row : ω} (h : s.blocked E i row = false) {j : ι} {k : κ} (hj : j ≠ i)
    (hl : s.locks k = some j) : Function.update s.locks (E.key row) (some i) k = some j := by
  have hk : k ≠ E.key row := by
    rintro rfl
    simp only [blocked, hl] at h
    exact hj (by simpa using h)
  rw [update_of_ne hk, hl]

omit [DecidableEq ι] in
theorem locked_append (hlo : ∀ row ∈ session.pending, s.locks (E.key row) = some i) (row : ω) :
    ∀ held ∈ session.pending ++ [row],
      Function.update s.locks (E.key row) (some i) (E.key held) = some i := by
  intro held hh
  by_cases hk : E.key held = E.key row
  · rw [hk, update_self]
  rw [update_of_ne hk]
  obtain ho | hn := mem_append.mp hh
  · exact hlo held ho
  · exact absurd (congrArg E.key (mem_singleton.mp hn)) hk

include ht

theorem exec_all (hs : s.All E P) {fault : Option ε} (hi : s.sessions i = some session)
    (hm : session.Keeps E P (fun row =>
      s.executed E (.exec i fault : Event ι γ ε) = some (session, row)) s.store) :
    (s.exec E i session fault).All E P := by
  have hlo := (hs i session hi).1
  have hk (prog) (h : P s.store { session with prog }) :
      (s.setSession i { session with prog }).All E P :=
    hs.replace ht (fun _ _ _ hl => hl) (fun _ _ _ _ => rfl) hlo h
  have he (prog) (h : P s.store { session with prog, pending := [] }) :
      ((s.release i).setSession i { session with prog, pending := [] }).All E P :=
    hs.replace ht (fun _ _ => release_other) (fun _ _ _ _ => rfl) (by simp) h
  obtain ⟨p, pending, log⟩ := session
  cases p with
  | done result => exact hs
  | read next =>
    cases fault with
    | some e => exact hk _ (hm.2 e)
    | none => exact hk _ hm.1
  | write row next =>
    simp only [exec]
    split
    · exact hs
    rename_i hf
    rw [Bool.not_eq_true] at hf
    cases hfa : s.failure E ⟨.write row next, pending, log⟩ fault row with
    | some e => exact hk _ (hm.2 e)
    | none =>
      refine hs.replace ht (fun j k hj hl => lock_free hf hj hl) (fun _ _ _ _ => rfl)
        (locked_append hlo row) (hm.1 ?_)
      simp [executed, hi, hf, hfa]
  | commit next =>
    cases fault with
    | some e => exact he _ (hm.2 e)
    | none =>
      exact hs.replace ht (fun _ _ => release_other) (fun j k => slot_view hlo) (by simp) hm.1
  | rollback next => exact he _ hm

/-- The invariant rule: a call is started in `P`, and its statements keep it. -/
theorem step_all (hs : s.All E P) {a : Event ι γ ε}
    (hst : ∀ i call, a = .start i call → P s.store { prog := prog call })
    (hm : ∀ session, P s.store session → session.Keeps E P (fun row =>
      s.executed E a = some (session, row)) s.store) :
    (s.step E prog a).All E P := by
  cases a with
  | start i call =>
    simp only [step]
    cases hi : s.sessions i with
    | some session => exact hs
    | none =>
      exact hs.replace ht (fun _ _ _ hl => hl) (fun _ _ _ _ => rfl) (by simp) (hst i call rfl)
  | exec i fault =>
    simp only [step]
    cases hi : s.sessions i with
    | none => exact hs
    | some session => exact exec_all ht hs hi (hm session (hs i session hi).2)

omit ht

theorem step_published (E : Engine κ σ ω ε ρ) (prog : γ → Prog σ ω ε α) (s : State ι κ σ ω ε α)
    (a : Event ι γ ε) : (s.step E prog a).store = run E.apply s.store (s.published a) := by
  cases a with
  | start i call =>
    simp only [step, published]
    split <;> rfl
  | exec i fault =>
    simp only [step]
    cases hi : s.sessions i with
    | none => cases fault <;> simp [published, hi]
    | some session =>
      obtain ⟨p, pending, log⟩ := session
      cases p with
      | done result => cases fault <;> simp [exec, published, hi]
      | read next => cases fault <;> simp [exec, published, hi]
      | write row next =>
        have hk : s.published (.exec i fault : Event ι γ ε) = [] := by
          cases fault <;> simp [published, hi]
        simp only [exec, hk, run_nil]
        split
        · rfl
        · split <;> rfl
      | commit next => cases fault <;> simp [exec, published, hi, view]
      | rollback next => cases fault <;> simp [exec, published, hi]

end

section

variable {prog : γ → Prog σ ω ε α} {tx : List ω → Prop} {fin : List ω → Except ε α → Prop}
  {good : ρ → ω → Prop} {s : State ι κ σ ω ε α}

structure Session.Sound (E : Engine κ σ ω ε ρ) (tx : List ω → Prop)
    (fin : List ω → Except ε α → Prop) (good : ρ → ω → Prop) (store : σ)
    (session : Session σ ω ε α) : Prop where
  fits : Along E.apply (Fits E good) store session.pending
  spec : session.prog.Spec tx fin session.log session.pending

def Event.Meets [DecidableEq ι] (E : Engine κ σ ω ε ρ) (prog : γ → Prog σ ω ε α)
    (tx : List ω → Prop) (fin : List ω → Except ε α → Prop) (good : ρ → ω → Prop)
    (s : State ι κ σ ω ε α) : Event ι γ ε → Prop
  | .start _ call => (prog call).Spec tx fin [] []
  | .exec i fault => ∀ session row,
    s.executed E (.exec i fault : Event ι γ ε) = some (session, row) →
      Fits E good (s.view E session) row

theorem Session.Sound.keeps {store : σ} {ok : ω → Prop} (h : session.Sound E tx fin good store)
    (hok : ∀ row, ok row → Fits E good (run E.apply store session.pending) row) :
    session.Keeps E (Session.Sound E tx fin good) ok store := by
  obtain ⟨p, pending, log⟩ := session
  obtain ⟨hf, hs⟩ := h
  cases p with
  | done result => trivial
  | read next => exact ⟨⟨hf, hs _⟩, fun e => ⟨hf, hs _⟩⟩
  | write row next =>
    exact ⟨fun hr => ⟨along_append.mpr ⟨hf, hok row hr, trivial⟩, hs.1⟩, fun e => ⟨hf, hs.2 e⟩⟩
  | commit next => exact ⟨⟨trivial, hs.2.1⟩, fun e => ⟨trivial, hs.2.2 e⟩⟩
  | rollback next => exact ⟨trivial, hs⟩

variable [DecidableEq ι] [DecidableEq κ]

theorem step_sound (s : State ι κ σ ω ε α) (a : Event ι γ ε)
    (hs : s.All E (Session.Sound E tx fin good)) (hm : a.Meets E prog tx fin good s) :
    (s.step E prog a).All E (Session.Sound E tx fin good) := by
  refine step_all (fun _ _ _ h ha => ⟨along_fits_congr h.fits ha, h.spec⟩) hs ?_ ?_
  · rintro i call rfl
    exact ⟨trivial, hm⟩
  · intro session h
    refine h.keeps fun row hr => ?_
    cases a with
    | start i call => cases hr
    | exec i fault => exact hm session row hr

theorem run_store {I : σ → Prop}
    (ht : ∀ store rows, I store → tx rows → Along E.apply (Fits E good) store rows →
      I (run E.apply store rows))
    (hs : s.All E (Session.Sound E tx fin good)) (hst : I s.store) {events : List (Event ι γ ε)}
    (h : Along (State.step E prog) (fun s a => a.Meets E prog tx fin good s) s events) :
    (run (State.step E prog) s events).All E (Session.Sound E tx fin good) ∧
      I (run (State.step E prog) s events).store := by
  refine run_invariant (I := fun s => s.All E (Session.Sound E tx fin good) ∧ I s.store) ?_
    ⟨hs, hst⟩ events h
  rintro s a ⟨hs, hst⟩ hm
  refine ⟨step_sound s a hs hm, ?_⟩
  rw [step_published E prog s a]
  obtain hn | ⟨i, next, log, hi⟩ := published_cases s a
  · rw [hn]
    exact hst
  · have hc := (hs i _ hi).2
    exact ht _ _ hst hc.spec.1 hc.fits

end

section

variable {prog : γ → Prog σ ω ε α} {tx : σ → List ω → Prop} {s : State ι κ σ ω ε α}

/-- Other calls leave the locked rows alone: every transaction that the call may commit satisfies
`tx` in the store it is committed to. -/
def Prog.Locked (E : Engine κ σ ω ε ρ) (tx : σ → List ω → Prop) :
    σ → List ω → Prog σ ω ε α → Prop
  | _, _, .done _ => True
  | s, rows, .read next => ∀ t, Agree E rows s t →
    Locked E tx t rows (next (.ok (run E.apply t rows))) ∧ ∀ e, Locked E tx t rows (next (.error e))
  | s, rows, .write row next => ∀ t, Agree E rows s t →
    Locked E tx t (rows ++ [row]) (next (.ok ())) ∧ ∀ e, Locked E tx t rows (next (.error e))
  | s, rows, .commit next => ∀ t, Agree E rows s t →
    tx t rows ∧ Locked E tx (run E.apply t rows) [] (next (.ok ())) ∧
      ∀ e, Locked E tx t [] (next (.error e))
  | s, rows, .rollback next => ∀ t, Agree E rows s t → Locked E tx t [] next

theorem Prog.Locked.transfer {s t : σ} {rows : List ω} {p : Prog σ ω ε α}
    (h : p.Locked E tx s rows) (ha : Agree E rows s t) : p.Locked E tx t rows := by
  cases p with
  | done result => trivial
  | read next => exact fun u hu => h u fun row hr => (ha row hr).trans (hu row hr)
  | write row next => exact fun u hu => h u fun row hr => (ha row hr).trans (hu row hr)
  | commit next => exact fun u hu => h u fun row hr => (ha row hr).trans (hu row hr)
  | rollback next => exact fun u hu => h u fun row hr => (ha row hr).trans (hu row hr)

def State.Holds (E : Engine κ σ ω ε ρ) (tx : σ → List ω → Prop) (s : State ι κ σ ω ε α) : Prop :=
  s.All E fun store session => session.prog.Locked E tx store session.pending

theorem State.Holds.published (hs : s.Holds E tx) (a : Event ι γ ε) :
    s.published a = [] ∨ tx s.store (s.published a) := by
  obtain hn | ⟨i, next, log, hi⟩ := published_cases s a
  · exact .inl hn
  · exact .inr ((hs i _ hi).2 s.store (agree_refl E _ _)).1

variable [DecidableEq ι] [DecidableEq κ]

theorem step_holds {a : Event ι γ ε} (hs : s.Holds E tx)
    (hp : ∀ i call, a = .start i call → (prog call).Locked E tx s.store []) :
    (s.step E prog a).Holds E tx := by
  refine step_all (fun _ _ _ h ha => h.transfer ha) hs hp ?_
  rintro ⟨p, pending, log⟩ h
  cases p with
  | done result => trivial
  | read next => exact h s.store (agree_refl E _ _)
  | write row next =>
    obtain ⟨hw, he⟩ := h s.store (agree_refl E _ _)
    exact ⟨fun _ => hw, he⟩
  | commit next => exact (h s.store (agree_refl E _ _)).2
  | rollback next => exact h s.store (agree_refl E _ _)

/-- A run in which only one call is started. -/
theorem run_of_locked {I : σ → Prop} {store : σ} {call : γ} (hs : I store)
    (hp : ∀ store, (prog call).Locked E tx store [])
    (ht : ∀ s rows, I s → tx s rows → I (run E.apply s rows)) {events : List (Event ι γ ε)}
    (he : ∀ a ∈ events, ∀ i other, a = .start i other → other = call) :
    I (run (State.step E prog) (.initial store) events).store := by
  refine (run_invariant (I := fun s : State ι κ σ ω ε α => s.Holds E tx ∧ I s.store) ?_
    ⟨initial_all store, hs⟩ events (along_of_forall_mem _ he)).2
  rintro s a ⟨hh, hi⟩ hc
  refine ⟨step_holds hh ?_, ?_⟩
  · intro i other ha
    rw [hc i other ha]
    exact hp _
  rw [step_published]
  obtain hn | hr := hh.published a
  · rw [hn]
    exact hi
  · exact ht _ _ hi hr

end

end

end DeepRouter.ReadCommitted

import Mathlib.Algebra.GroupWithZero.Nat
import Mathlib.Data.Nat.Count

/-! # Choice by level and by weight -/

namespace DeepRouter.WeightedChoice

open List

universe u v

def distinctDesc (values : List Int) : List Int := values.dedup.insertionSort (· ≥ ·)

variable {values : List Int}

@[simp] theorem mem_distinctDesc {v : Int} : v ∈ distinctDesc values ↔ v ∈ values := by
  rw [distinctDesc, mem_insertionSort, mem_dedup]

theorem distinctDesc_pairwise (values : List Int) : (distinctDesc values).Pairwise (· > ·) := by
  have hs : (distinctDesc values).Pairwise (· ≥ ·) := pairwise_insertionSort _ _
  have hn : (distinctDesc values).Nodup :=
    (perm_insertionSort _ _).nodup_iff.mpr (nodup_dedup values)
  exact (hs.and hn).imp fun h => lt_of_le_of_ne h.1 (Ne.symm h.2)

theorem distinctDesc_ne_nil (h : values ≠ []) : distinctDesc values ≠ [] := by
  obtain ⟨v, hv⟩ := exists_mem_of_ne_nil values h
  exact ne_nil_of_mem (mem_distinctDesc.mpr hv)

def clamped (values : List Int) (k : Nat) : Option Int := values[min k (values.length - 1)]?

theorem clamped_mem {k : Nat} {v : Int} (h : clamped values k = some v) : v ∈ values :=
  mem_of_getElem? h

theorem clamped_isSome (h : values ≠ []) (k : Nat) : ∃ v, clamped values k = some v := by
  have hl := length_pos_iff.mpr h
  exact ⟨_, getElem?_eq_getElem (by omega : min k (values.length - 1) < values.length)⟩

theorem distinctDesc_congr {values values' : List Int} (h : ∀ v, v ∈ values ↔ v ∈ values') :
    distinctDesc values = distinctDesc values' := by
  have hn : ∀ l, (distinctDesc l).Nodup := fun l =>
    (distinctDesc_pairwise l).imp fun hg => Ne.symm (ne_of_lt hg)
  have hp : (distinctDesc values).Perm (distinctDesc values') :=
    (perm_ext_iff_of_nodup (hn _) (hn _)).mpr fun v => by
      rw [mem_distinctDesc, mem_distinctDesc, h]
  exact hp.eq_of_pairwise (fun a b _ _ hab hba => absurd hab (not_lt_of_gt hba))
    (distinctDesc_pairwise _) (distinctDesc_pairwise _)

section

variable {α : Type u} {β : Type v} {priority : α → Int}

variable (priority) in
def level (l : List α) (k : Nat) : List α :=
  l.filter fun a => clamped (distinctDesc (l.map priority)) k = some (priority a)

theorem level_eq {l : List α} {k : Nat} {p : Int}
    (h : clamped (distinctDesc (l.map priority)) k = some p) :
    level priority l k = l.filter fun a => priority a = p := by
  rw [level, h]
  apply filter_congr
  intro a _
  simp [eq_comm]

theorem clamped_of_ne_nil {l : List α} (h : l ≠ []) (k : Nat) :
    ∃ p, clamped (distinctDesc (l.map priority)) k = some p := by
  apply clamped_isSome
  apply distinctDesc_ne_nil
  simpa using h

theorem level_ne_nil {l : List α} (h : l ≠ []) (k : Nat) : level priority l k ≠ [] := by
  obtain ⟨p, hp⟩ := clamped_of_ne_nil h k
  obtain ⟨a, hm, ha⟩ := mem_map.mp (mem_distinctDesc.mp (clamped_mem hp))
  rw [level_eq hp]
  exact ne_nil_of_mem (mem_filter.mpr ⟨hm, by simpa using ha⟩)

theorem mem_level_image {priority' : β → Int} {f : α → β} {l : List α} {l' : List β}
    (hf : ∀ a ∈ l, priority' (f a) = priority a) (h : ∀ b, b ∈ l' ↔ ∃ a ∈ l, b = f a) {k : Nat}
    {b : β} : b ∈ level priority' l' k ↔ ∃ a ∈ level priority l k, b = f a := by
  have hp : distinctDesc (l'.map priority') = distinctDesc (l.map priority) := by
    apply distinctDesc_congr
    intro v
    simp only [mem_map, h]
    constructor
    · rintro ⟨_, ⟨a, hm, rfl⟩, rfl⟩
      exact ⟨a, hm, (hf a hm).symm⟩
    · rintro ⟨a, hm, rfl⟩
      exact ⟨f a, ⟨a, hm, rfl⟩, hf a hm⟩
  simp only [level, mem_filter, h, hp, decide_eq_true_eq]
  constructor
  · rintro ⟨⟨a, hm, rfl⟩, ha⟩
    exact ⟨a, ⟨hm, by rw [ha, hf a hm]⟩, rfl⟩
  · rintro ⟨a, ⟨hm, ha⟩, rfl⟩
    exact ⟨⟨a, hm, rfl⟩, by rw [ha, hf a hm]⟩

end

section

variable {α : Type u} (weight : α → Nat) (stop : Int)

def choose : List α → Int → Option α
  | [], _ => none
  | a :: l, drawn => if drawn - weight a ≤ stop then some a else choose l (drawn - weight a)

variable {weight stop}

theorem choose_mem {l : List α} {drawn : Int} {a : α} (h : choose weight stop l drawn = some a) :
    a ∈ l := by
  induction l generalizing drawn with
  | nil => cases h
  | cons b l ih =>
    rw [choose] at h
    split at h
    · cases h
      exact mem_cons_self
    · exact mem_cons_of_mem _ (ih h)

theorem choose_isSome {l : List α} {drawn : Int} (hl : l ≠ [])
    (h : drawn - ((l.map weight).sum : Nat) ≤ stop) : ∃ a, choose weight stop l drawn = some a := by
  induction l generalizing drawn with
  | nil => exact absurd rfl hl
  | cons b l ih =>
    rw [choose]
    split
    · exact ⟨b, rfl⟩
    rename_i hle
    rw [map_cons, sum_cons] at h
    apply ih
    · rintro rfl
      rw [map_nil, sum_nil] at h
      omega
    · omega

theorem choose_head {b : α} {l : List α} {drawn : Nat} (h : drawn < weight b) :
    choose weight (-1) (b :: l) drawn = some b := by
  rw [choose, if_pos (by omega)]

theorem choose_tail (b : α) (l : List α) (drawn : Nat) :
    choose weight (-1) (b :: l) ((weight b + drawn : Nat) : Int) = choose weight (-1) l drawn := by
  rw [choose, if_neg (by omega)]
  congr 1
  omega

theorem choose_last {l : List α} {b : α} {drawn : Nat} (h : drawn < weight b) :
    choose weight (-1) (l ++ [b]) (((l.map weight).sum + drawn : Nat) : Int) = some b := by
  induction l with
  | nil =>
    rw [map_nil, sum_nil, Nat.zero_add]
    exact choose_head h
  | cons c l ih => rw [map_cons, sum_cons, Nat.add_assoc, cons_append, choose_tail, ih]

theorem choose_succ (l : List α) (drawn : Nat) :
    choose weight 0 l ((drawn + 1 : Nat) : Int) = choose weight (-1) l drawn := by
  suffices h : ∀ drawn : Int, choose weight 0 l (drawn + 1) = choose weight (-1) l drawn from h drawn
  induction l with
  | nil => exact fun _ => rfl
  | cons b l ih =>
    intro drawn
    rw [choose, choose, show drawn + 1 - (weight b : Int) = drawn - weight b + 1 by omega, ih]
    by_cases h : drawn - (weight b : Int) ≤ -1
    · rw [if_pos h, if_pos (by omega)]
    · rw [if_neg h, if_neg (by omega)]

theorem count_congr {p q : Nat → Prop} [DecidablePred p] [DecidablePred q] {n : Nat}
    (h : ∀ k < n, p k ↔ q k) : Nat.count p n = Nat.count q n := by
  rw [Nat.count, Nat.count]
  exact countP_congr fun k hk => by simpa using h k (mem_range.mp hk)

section

variable [DecidableEq α]

variable (weight stop) in
def draws (l : List α) (bound : Nat) (a : α) : Nat :=
  Nat.count (fun drawn => choose weight stop l drawn = some a) bound

theorem count_head (a b : α) (n : Nat) :
    Nat.count (fun _ => some b = some a) n = if b = a then n else 0 := by
  by_cases h : b = a
  · simp [h, Nat.count_true]
  · simp [h, Nat.count_false]

theorem draws_eq (l : List α) (a : α) :
    draws weight (-1) l (l.map weight).sum a = l.count a * weight a := by
  induction l with
  | nil => simp [draws]
  | cons b l ih =>
    have hh : Nat.count (fun drawn : Nat => choose weight (-1) (b :: l) drawn = some a) (weight b) =
        if b = a then weight b else 0 := by
      rw [← count_head a b]
      exact count_congr fun drawn hd => by rw [choose_head hd]
    have ht : Nat.count (fun drawn : Nat =>
        choose weight (-1) (b :: l) ((weight b + drawn : Nat) : Int) = some a) (l.map weight).sum =
          l.count a * weight a := by
      rw [← ih, draws]
      exact count_congr fun drawn _ => by rw [choose_tail]
    rw [draws, map_cons, sum_cons, Nat.count_add, hh, ht, count_cons]
    by_cases h : b = a
    · subst h
      simp [Nat.add_mul, Nat.add_comm]
    · simp [h]

theorem draws_pos_iff {l : List α} {bound : Nat} {a : α} :
    0 < draws weight stop l bound a ↔ ∃ drawn < bound, choose weight stop l (drawn : Nat) = some a := by
  rw [draws, Nat.count, countP_pos_iff]
  simp only [mem_range, decide_eq_true_eq]

theorem exists_choose_iff {l : List α} {a : α} :
    (∃ drawn < (l.map weight).sum, choose weight (-1) l (drawn : Nat) = some a) ↔
      a ∈ l ∧ weight a ≠ 0 := by
  rw [← draws_pos_iff, draws_eq, Nat.pos_iff_ne_zero, Nat.mul_ne_zero_iff, ← Nat.pos_iff_ne_zero,
    count_pos_iff]

theorem draws_zero (first : α) (l : List α) (last : α) (a : α) (h : l.getLast? = some last)
    (hf : l.head? = some first) (hp : 0 < weight last) :
    draws weight 0 l (l.map weight).sum a + (if last = a then 1 else 0) =
      l.count a * weight a + (if first = a then 1 else 0) := by
  obtain ⟨init, rfl⟩ := getLast?_eq_some_iff.mp h
  obtain ⟨rest, hr⟩ := head?_eq_some_iff.mp hf
  obtain ⟨left, hl⟩ := Nat.exists_eq_add_one.mpr hp
  have hs : ((init ++ [last]).map weight).sum = (init.map weight).sum + left + 1 := by
    rw [map_append, sum_append, map_singleton, sum_singleton, hl]
    omega
  have hz : choose weight 0 (init ++ [last]) ((0 : Nat) : Int) = some first := by
    rw [hr, choose, if_pos (by omega)]
  have ht : choose weight (-1) (init ++ [last]) (((init.map weight).sum + left : Nat) : Int) =
      some last := choose_last (by omega)
  rw [← draws_eq, draws, draws, hs, Nat.count_succ', Nat.count_succ, hz, ht]
  simp only [choose_succ, Option.some.injEq]
  omega

theorem exists_choose_zero_iff {l : List α} (hwg : ∀ b ∈ l, 2 ≤ weight b) {a : α} :
    (∃ drawn < (l.map weight).sum, choose weight 0 l (drawn : Nat) = some a) ↔ a ∈ l := by
  constructor
  · rintro ⟨_, _, hc⟩
    exact choose_mem hc
  intro hm
  have hn := ne_nil_of_mem hm
  have hl : 0 < weight (l.getLast hn) := by
    have hlo := hwg _ (getLast_mem hn)
    omega
  have hd := draws_zero (l.head hn) l (l.getLast hn) a
    (getLast?_eq_getLast_of_ne_nil hn) (head?_eq_some_head hn) hl
  rw [← draws_pos_iff]
  -- one number at most is lost of those that the element weighs
  have hcn := count_pos_iff.mpr hm
  have hw := Nat.le_mul_of_pos_left (weight a) hcn
  have ht := hwg a hm
  split at hd <;> omega

end

end

end DeepRouter.WeightedChoice

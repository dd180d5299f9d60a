import Mathlib.Algebra.BigOperators.Group.List.Basic
import Mathlib.Data.List.Nodup
import Mathlib.Tactic.Abel

/-! # Tables with a unique key

The uniqueness of the key is a field of the type. -/

namespace DeepRouter.KeyedTable

open List

universe u v w

structure Table {ρ : Type u} {κ : Type v} (key : ρ → κ) where
  rows : List ρ
  nodup : (rows.map key).Nodup

namespace Table

variable {ρ : Type u} {κ : Type v} {key : ρ → κ} {t t' : Table key}

@[ext] theorem ext (h : t.rows = t'.rows) : t = t' := by
  cases t
  cases t'
  cases h
  rfl

def empty (key : ρ → κ) : Table key := ⟨[], List.nodup_nil⟩

theorem eq_of_key_eq (t : Table key) {r r' : ρ} (hr : r ∈ t.rows) (hr' : r' ∈ t.rows)
    (h : key r = key r') : r = r' :=
  inj_on_of_nodup_map t.nodup hr hr' h

def keep (t : Table key) (p : ρ → Bool) : Table key :=
  ⟨t.rows.filter p, (List.filter_sublist.map key).nodup t.nodup⟩

variable {t : Table key} {r : ρ}

theorem mem_keep {p : ρ → Bool} : r ∈ (t.keep p).rows ↔ r ∈ t.rows ∧ p r = true :=
  mem_filter

def mapRows (t : Table key) (f : ρ → ρ) (hf : ∀ r, key (f r) = key r) : Table key :=
  ⟨t.rows.map f, by
    have hk : key ∘ f = key := funext hf
    rw [List.map_map, hk]
    exact t.nodup⟩

theorem mem_mapRows {f : ρ → ρ} {hf : ∀ r, key (f r) = key r} :
    r ∈ (t.mapRows f hf).rows ↔ ∃ r₀ ∈ t.rows, f r₀ = r :=
  mem_map

variable [DecidableEq κ]

def find? (t : Table key) (k : κ) : Option ρ := t.rows.find? (fun r => decide (key r = k))

variable {k : κ}

theorem find?_eq_some_iff : t.find? k = some r ↔ r ∈ t.rows ∧ key r = k := by
  constructor
  · intro h
    exact ⟨mem_of_find?_eq_some h, by simpa using find?_some h⟩
  rintro ⟨hr, hk⟩
  cases h : t.find? k with
  | none => exact absurd hk (by simpa using find?_eq_none.mp h r hr)
  | some r' =>
    have hm := mem_of_find?_eq_some h
    have hke : key r' = k := by simpa using find?_some h
    rw [t.eq_of_key_eq hm hr (hke.trans hk.symm)]

theorem find?_eq_none_iff : t.find? k = none ↔ ∀ r ∈ t.rows, key r ≠ k := by
  simp [find?, find?_eq_none]

theorem mem_of_find? (h : t.find? k = some r) : r ∈ t.rows :=
  (find?_eq_some_iff.mp h).1

theorem key_of_find? (h : t.find? k = some r) : key r = k :=
  (find?_eq_some_iff.mp h).2

theorem find?_of_mem (h : r ∈ t.rows) : t.find? (key r) = some r :=
  find?_eq_some_iff.mpr ⟨h, rfl⟩

theorem find?_mapRows {f : ρ → ρ} {hf : ∀ r, key (f r) = key r}
    (h : t.find? k = some r) : (t.mapRows f hf).find? k = some (f r) :=
  find?_eq_some_iff.mpr
    ⟨mem_mapRows.mpr ⟨r, mem_of_find? h, rfl⟩, (hf r).trans (key_of_find? h)⟩

def save (t : Table key) (r : ρ) : Table key :=
  t.mapRows (fun x => if key x = key r then r else x) (by
    intro x
    by_cases h : key x = key r
    · simp [h]
    · simp [h])

theorem mem_save {r x : ρ} :
    x ∈ (t.save r).rows ↔ (x ∈ t.rows ∧ key x ≠ key r) ∨ (x = r ∧ ∃ y ∈ t.rows, key y = key r) := by
  rw [save, mem_mapRows]
  constructor
  · rintro ⟨y, hy, rfl⟩
    by_cases h : key y = key r
    · simp only [if_pos h]
      exact .inr ⟨trivial, y, hy, h⟩
    · simp only [if_neg h]
      exact .inl ⟨hy, h⟩
  · rintro (⟨hx, h⟩ | ⟨rfl, y, hy, h⟩)
    · exact ⟨x, hx, if_neg h⟩
    · exact ⟨y, hy, if_pos h⟩

variable {r old : ρ}

theorem find?_save_self (h : t.find? (key r) = some old) : (t.save r).find? (key r) = some r :=
  find?_eq_some_iff.mpr
    ⟨mem_save.mpr (.inr ⟨rfl, old, mem_of_find? h, key_of_find? h⟩), rfl⟩

theorem find?_save_of_key (h : t.find? k = some old)
    (hk : key r = k) : (t.save r).find? k = some r := by
  subst hk
  exact find?_save_self h

theorem find?_save_of_ne (h : key r ≠ k) : (t.save r).find? k = t.find? k := by
  apply Option.ext
  intro x
  rw [find?_eq_some_iff, find?_eq_some_iff, mem_save]
  constructor
  · rintro ⟨⟨hx, _⟩ | ⟨rfl, _⟩, hk⟩
    · exact ⟨hx, hk⟩
    · exact absurd hk h
  · rintro ⟨hx, hk⟩
    exact ⟨.inl ⟨hx, fun he => h (he.symm.trans hk)⟩, hk⟩

theorem find?_save (h : t.find? k = some old) (hk : key r = k) (k' : κ) :
    (t.save r).find? k' = if k' = k then some r else t.find? k' := by
  split
  · rename_i hs
    subst hs
    exact find?_save_of_key h hk
  · rename_i hn
    exact find?_save_of_ne fun hs => hn (hs.symm.trans hk)

theorem find?_save_congr (h : t.find? (key r) = t'.find? (key r)) :
    (t.save r).find? (key r) = (t'.save r).find? (key r) := by
  cases hf : t.find? (key r) with
  | some old => rw [find?_save_self hf, find?_save_self (h.symm.trans hf)]
  | none =>
    have hn : ∀ u : Table key, u.find? (key r) = none → (u.save r).find? (key r) = none := by
      intro u hu
      rw [find?_eq_none_iff]
      intro x hx hk
      obtain ⟨_, hNe⟩ | ⟨_, y, hy, hy'⟩ := mem_save.mp hx
      · exact hNe hk
      · exact find?_eq_none_iff.mp hu y hy hy'
    rw [hn t hf, hn t' (h.symm.trans hf)]

def insert? (t : Table key) (r : ρ) : Option (Table key) :=
  if h : t.find? (key r) = none then
    some ⟨t.rows ++ [r], by
      rw [List.map_append, List.map_singleton, List.nodup_append]
      refine ⟨t.nodup, List.nodup_singleton _, ?_⟩
      intro k hk k' hk' he
      obtain ⟨x, hx, rfl⟩ := List.mem_map.mp hk
      rw [List.mem_singleton] at hk'
      exact find?_eq_none_iff.mp h x hx (he.trans hk')⟩
  else none

section

variable (h : t.insert? r = some t')

include h

theorem insert?_eq_some : t.find? (key r) = none ∧ t'.rows = t.rows ++ [r] := by
  unfold insert? at h
  split at h
  · rename_i hf
    cases h
    exact ⟨hf, rfl⟩
  · cases h

theorem mem_insert? {x : ρ} : x ∈ t'.rows ↔ x ∈ t.rows ∨ x = r := by
  rw [(insert?_eq_some h).2]
  simp

theorem find?_insert?_self : t'.find? (key r) = some r :=
  find?_eq_some_iff.mpr ⟨(mem_insert? h).mpr (.inr rfl), rfl⟩

theorem find?_insert?_of_ne (hk : key r ≠ k) : t'.find? k = t.find? k := by
  apply Option.ext
  intro x
  rw [find?_eq_some_iff, find?_eq_some_iff, mem_insert? h]
  constructor
  · rintro ⟨hx | rfl, hx'⟩
    · exact ⟨hx, hx'⟩
    · exact absurd hx' hk
  · rintro ⟨hx, hx'⟩
    exact ⟨.inl hx, hx'⟩

theorem mem_save_insert? {r' x : ρ} (hk : key r' = key r) :
    x ∈ (t'.save r').rows ↔ x ∈ t.rows ∨ x = r' := by
  have hf := find?_eq_none_iff.mp (insert?_eq_some h).1
  rw [mem_save, mem_insert? h, hk]
  constructor
  · rintro (⟨hx | rfl, hn⟩ | ⟨hx, _⟩)
    · exact .inl hx
    · exact absurd rfl hn
    · exact .inr hx
  · rintro (hx | hx)
    · exact .inl ⟨.inl hx, hf x hx⟩
    · exact .inr ⟨hx, r, (mem_insert? h).mpr (.inr rfl), rfl⟩

end

def put (t : Table key) (r : ρ) : Table key := (t.insert? r).getD (t.save r)

theorem put_of_none (h : t.find? (key r) = none) : t.insert? r = some (t.put r) := by
  unfold put insert?
  rw [dif_pos h, Option.getD_some]

theorem put_of_some (h : t.find? (key r) = some old) : t.put r = t.save r := by
  unfold put insert?
  rw [dif_neg (by simp [h]), Option.getD_none]

theorem find?_put_self : (t.put r).find? (key r) = some r := by
  cases h : t.find? (key r) with
  | none => exact find?_insert?_self (put_of_none h)
  | some old =>
    rw [put_of_some h]
    exact find?_save_self h

theorem find?_put_of_ne (hk : key r ≠ k) : (t.put r).find? k = t.find? k := by
  cases h : t.find? (key r) with
  | none => exact find?_insert?_of_ne (put_of_none h) hk
  | some old =>
    rw [put_of_some h]
    exact find?_save_of_ne hk

theorem find?_keep {p : ρ → Bool} : (t.keep p).find? k = (t.find? k).filter p := by
  apply Option.ext
  intro r
  rw [find?_eq_some_iff, mem_keep, Option.filter_eq_some_iff, find?_eq_some_iff]
  exact ⟨fun h => ⟨⟨h.1.1, h.2⟩, h.1.2⟩, fun h => ⟨⟨h.1.1, h.2⟩, h.1.2⟩⟩

theorem find?_mapRows_eq {f : ρ → ρ} {hf : ∀ r, key (f r) = key r} :
    (t.mapRows f hf).find? k = (t.find? k).map f := by
  cases h : t.find? k with
  | some r => exact find?_mapRows h
  | none =>
    rw [Option.map_none, find?_eq_none_iff]
    intro r hr hk
    obtain ⟨r₀, hr₀, rfl⟩ := mem_mapRows.mp hr
    exact find?_eq_none_iff.mp h r₀ hr₀ ((hf r₀).symm.trans hk)

def insertMissing (t : Table key) (rows : List ρ) : Table key :=
  rows.foldl (fun t r => (t.insert? r).getD t) t

theorem find?_insertMissing (t : Table key) (rows : List ρ) (k : κ) :
    (t.insertMissing rows).find? k = (t.find? k).or (rows.find? fun r => decide (key r = k)) := by
  induction rows generalizing t with
  | nil => simp [insertMissing]
  | cons r rows ih =>
    rw [insertMissing, foldl_cons]
    have hr := ih ((t.insert? r).getD t)
    rw [insertMissing] at hr
    rw [hr, find?_cons]
    cases hi : t.insert? r with
    | some t' =>
      have hf := (insert?_eq_some hi).1
      by_cases hk : key r = k
      · subst hk
        simp [find?_insert?_self hi, hf]
      · simp [find?_insert?_of_ne hi hk, hk]
    | none =>
      by_cases hk : key r = k
      · subst hk
        cases ht : t.find? (key r) with
        | none => rw [insert?, dif_pos ht] at hi; cases hi
        | some old => simp [ht]
      · simp [hk]

theorem mem_insertMissing {rows : List ρ} {x : ρ}
    (h : x ∈ (t.insertMissing rows).rows) : x ∈ t.rows ∨ x ∈ rows := by
  have hf := find?_of_mem h
  rw [find?_insertMissing, Option.or_eq_some_iff] at hf
  obtain ho | ⟨_, hn⟩ := hf
  · exact .inl (mem_of_find? ho)
  · exact .inr (mem_of_find?_eq_some hn)

section

variable {α : Type w} [AddCommMonoid α]

def total (t : Table key) (f : ρ → α) : α := (t.rows.map f).sum

omit [DecidableEq κ] in
theorem total_congr {f g : ρ → α} (h : ∀ r ∈ t.rows, f r = g r) : t.total f = t.total g := by
  unfold total
  rw [map_congr_left h]

theorem total_insert? (h : t.insert? r = some t') (f : ρ → α) : t'.total f = t.total f + f r := by
  unfold total
  rw [(insert?_eq_some h).2, map_append, sum_append]
  simp

private theorem sum_replace (f : ρ → α) (r : ρ) (rows : List ρ) (hr : (rows.map key).Nodup)
    {old : ρ} (ho : old ∈ rows) (hk : key old = key r) :
    ((rows.map (fun x => if key x = key r then r else x)).map f).sum + f old =
      (rows.map f).sum + f r := by
  induction rows with
  | nil => cases ho
  | cons x rows ih =>
    rw [map_cons, nodup_cons] at hr
    by_cases hx : key x = key r
    · -- the head is the replaced row, so the tail holds no row of this key
      have ht : rows.map (fun y => if key y = key r then r else y) = rows := by
        conv_rhs => rw [← map_id rows]
        apply map_congr_left
        intro y hy
        exact if_neg (fun he => hr.1 (mem_map.mpr ⟨y, hy, he.trans hx.symm⟩))
      have hh : old = x := by
        rcases mem_cons.mp ho with rfl | hm
        · rfl
        · exact absurd (mem_map.mpr ⟨old, hm, hk.trans hx.symm⟩) hr.1
      rw [map_cons, if_pos hx, ht, hh, map_cons, map_cons, sum_cons, sum_cons]
      abel
    · have hm : old ∈ rows := by
        rcases mem_cons.mp ho with rfl | hm
        · exact absurd hk hx
        · exact hm
      rw [map_cons, if_neg hx, map_cons, map_cons, sum_cons, sum_cons, add_assoc, ih hr.2 hm,
        add_assoc]

omit [DecidableEq κ] in
theorem total_of_eq_off (hr : r ∈ t.rows) {f g : ρ → α}
    (h : ∀ x ∈ t.rows, key x ≠ key r → f x = g x) : t.total f + g r = t.total g + f r := by
  classical
  have hn : t.rows.Nodup := List.Nodup.of_map key t.nodup
  have hre : (t.rows.erase r).map f = (t.rows.erase r).map g := by
    apply map_congr_left
    intro x hx
    obtain ⟨hNe, hm⟩ := hn.mem_erase_iff.mp hx
    exact h x hm (fun hk => hNe (t.eq_of_key_eq hm hr hk))
  unfold total
  rw [← sum_map_erase f hr, ← sum_map_erase g hr, hre]
  abel

theorem total_save (h : t.find? (key r) = some old) (f : ρ → α) :
    (t.save r).total f + f old = t.total f + f r :=
  sum_replace f r t.rows t.nodup (mem_of_find? h) (key_of_find? h)

omit [DecidableEq κ] in
theorem total_indicator (t : Table key) (p : ρ → Bool) :
    t.total (fun r => if p r then 1 else 0) = t.rows.countP p := by
  unfold total
  induction t.rows with
  | nil => rfl
  | cons r rows ih => rw [map_cons, sum_cons, ih, countP_cons, Nat.add_comm]

theorem countP_save (h : t.find? (key r) = some old) (p : ρ → Bool) :
    (t.save r).rows.countP p + (if p old then 1 else 0) =
      t.rows.countP p + if p r then 1 else 0 := by
  rw [← total_indicator, ← total_indicator]
  exact total_save h _

theorem total_save_of_eq {β : Type w} [AddCommGroup β]
    (h : t.find? (key r) = some old) (f : ρ → β) (hf : f r = f old) :
    (t.save r).total f = t.total f := by
  have hs := total_save h f
  rw [hf] at hs
  exact add_right_cancel hs

end

end Table

end DeepRouter.KeyedTable

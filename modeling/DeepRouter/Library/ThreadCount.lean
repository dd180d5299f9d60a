import Mathlib.Data.Fintype.Card

/-! # Counting threads -/

namespace DeepRouter.ThreadCount

universe u v

variable {ι : Type u} [Fintype ι] {α : Type v} {p : α → Bool} {pc : ι → α} {t u : ι}

def count (p : α → Bool) (pc : ι → α) : Nat := (Finset.univ.filter fun t => p (pc t) = true).card

theorem count_eq_zero : count p pc = 0 ↔ ∀ t, p (pc t) = false := by
  simp [count, Finset.filter_eq_empty_iff]

theorem count_pos (h : p (pc t) = true) : 0 < count p pc :=
  Finset.card_pos.mpr ⟨t, by simp [h]⟩

theorem eq_of_count_le_one (hc : count p pc ≤ 1) (ht : p (pc t) = true) (hu : p (pc u) = true) :
    t = u :=
  Finset.card_le_one.mp hc t (by simp [ht]) u (by simp [hu])

section

variable [DecidableEq ι]

theorem card_eq_erase (p : α → Bool) (pc : ι → α) (t : ι) :
    count p pc = ((Finset.univ.filter fun t => p (pc t) = true).erase t).card + (p (pc t)).toNat := by
  cases h : p (pc t) with
  | true => exact (Finset.card_erase_add_one (by simp [h])).symm
  | false => rw [Finset.erase_eq_of_notMem (by simp [h]), count, Bool.toNat_false, Nat.add_zero]

theorem count_update (p : α → Bool) (pc : ι → α) (t : ι) (x : α) :
    count p (Function.update pc t x) + (p (pc t)).toNat = count p pc + (p x).toNat := by
  have ho : (Finset.univ.filter fun u => p (Function.update pc t x u) = true).erase t =
      (Finset.univ.filter fun u => p (pc u) = true).erase t := by
    ext u
    simp only [Finset.mem_erase, Finset.mem_filter, Finset.mem_univ, true_and]
    constructor
    · rintro ⟨hn, h⟩
      rw [Function.update_of_ne hn] at h
      exact ⟨hn, h⟩
    · rintro ⟨hn, h⟩
      rw [Function.update_of_ne hn]
      exact ⟨hn, h⟩
  have hb := card_eq_erase p pc t
  have ha := card_eq_erase p (Function.update pc t x) t
  rw [ho, Function.update_self] at ha
  omega

end

end DeepRouter.ThreadCount

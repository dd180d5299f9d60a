import Mathlib.Algebra.BigOperators.Group.List.Basic

/-! # Signed 64-bit counters -/

namespace DeepRouter.MachineInt

instance int64AddCommGroup : AddCommGroup Int64 where
  add_assoc := Int64.add_assoc
  zero_add := Int64.zero_add
  add_zero := Int64.add_zero
  add_comm := Int64.add_comm
  neg_add_cancel := Int64.add_left_neg
  sub_eq_add_neg := Int64.sub_eq_add_neg
  nsmul := nsmulRec
  zsmul := zsmulRec

def FitsAdd (a b : Int64) : Prop :=
  -2 ^ 63 ≤ a.toInt + b.toInt ∧ a.toInt + b.toInt < 2 ^ 63
deriving Decidable

def InRange (n : Int) : Prop := -2 ^ 63 ≤ n ∧ n < 2 ^ 63
deriving Decidable

theorem toInt_ofInt_iff {n : Int} : (Int64.ofInt n).toInt = n ↔ InRange n := by
  constructor
  · intro h
    rw [← h]
    exact ⟨Int64.le_toInt _, Int64.toInt_lt _⟩
  · rintro ⟨hl, hh⟩
    rw [Int64.toInt_ofInt]
    exact Int.bmod_eq_of_le hl hh

def toInt64 : Int →+ Int64 := AddMonoidHom.mk' Int64.ofInt Int64.ofInt_add

theorem toInt64_toInt (n : Int64) : toInt64 n.toInt = n := Int64.ofInt_toInt n

variable {a b : Int64}

/-- A counter that was moved modulo `2 ^ 64` holds the exact sum just when that sum is in range. -/
theorem toInt_eq_iff_inRange {n : Int} (h : b = a + toInt64 n) :
    b.toInt = a.toInt + n ↔ InRange (a.toInt + n) := by
  have hs : b = Int64.ofInt (a.toInt + n) := by
    rw [h, Int64.ofInt_add, Int64.ofInt_toInt]
    rfl
  rw [hs]
  exact toInt_ofInt_iff

theorem toInt_add_of_fits (h : FitsAdd a b) : (a + b).toInt = a.toInt + b.toInt := by
  obtain ⟨hl, hh⟩ := h
  rw [Int64.toInt_add]
  apply Int.bmod_eq_of_le
  · omega
  · omega

variable {a : Int64}

theorem nonneg_iff : 0 ≤ a ↔ 0 ≤ a.toInt := by
  rw [Int64.le_iff_toInt_le]
  rfl

theorem nonpos_iff : a ≤ 0 ↔ a.toInt ≤ 0 := by
  rw [Int64.le_iff_toInt_le]
  rfl

theorem pos_iff : 0 < a ↔ 0 < a.toInt := by
  rw [Int64.lt_iff_toInt_lt]
  rfl

theorem le_iff : a ≤ b ↔ a.toInt ≤ b.toInt := Int64.le_iff_toInt_le

theorem lt_iff : a < b ↔ a.toInt < b.toInt := Int64.lt_iff_toInt_lt

theorem toInt_ofNat_of_le {n : Nat} (h : (n : Int) ≤ Int64.maxValue.toInt) :
    (Int64.ofNat n).toInt = n :=
  Int64.toInt_ofNat_of_lt (by
    have hm : Int64.maxValue.toInt = 9223372036854775807 := rfl
    omega)

theorem ne_zero_of_pos (h : 0 < a) : a ≠ 0 := by
  rintro rfl
  exact absurd h (by decide)

theorem toInt_neg_of_pos (h : 0 < a) : (-a).toInt = -a.toInt := by
  have hp := pos_iff.mp h
  have hh := a.toInt_lt
  rw [Int64.toInt_neg]
  apply Int.bmod_eq_of_le <;> omega

theorem toInt_sub_of_nonneg (ha : 0 ≤ a) (hb : 0 ≤ b) : (a - b).toInt = a.toInt - b.toInt := by
  have haInt := nonneg_iff.mp ha
  have hbInt := nonneg_iff.mp hb
  have haHigh := a.toInt_lt
  have hbHigh := b.toInt_lt
  rw [Int64.toInt_sub]
  apply Int.bmod_eq_of_le <;> omega

theorem toInt_add_le (h : ¬a + b < 0) : a.toInt + b.toInt ≤ (a + b).toInt := by
  have hs := nonneg_iff.mp (Int64.not_lt.mp h)
  have haHigh := a.toInt_lt
  have hbHigh := b.toInt_lt
  rw [Int64.toInt_add, Int.bmod_def] at hs ⊢
  split at hs
  · rename_i hl
    rw [if_pos hl]
    omega
  · rename_i hl
    rw [if_neg hl]
    omega

theorem toInt_add_of_covered {total used am : Int64} (ht : 0 < total) (ha : 0 < am)
    (h : am ≤ total - used) :
    (used + am).toInt = used.toInt + am.toInt ∧ used.toInt + am.toInt ≤ total.toInt := by
  have htot := pos_iff.mp ht
  have ham := pos_iff.mp ha
  have hto := total.toInt_lt
  have hus := used.le_toInt
  have hu := used.toInt_lt
  have hc : used.toInt + am.toInt ≤ total.toInt := by
    rw [le_iff, Int64.toInt_sub, Int.bmod_def] at h
    split at h <;> omega
  exact ⟨toInt_add_of_fits ⟨by omega, by omega⟩, hc⟩

end DeepRouter.MachineInt

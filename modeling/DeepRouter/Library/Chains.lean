import Mathlib.Logic.Relation

/-! # Chains of a partial successor -/

namespace DeepRouter.Chains

open Relation

universe u

variable {α : Type u} {next : α → Option α} {a e x y z : α}

def Leads (next : α → Option α) (a b : α) : Prop := ReflTransGen (fun x y => next x = some y) a b

def IsEnd (next : α → Option α) (e : α) : Prop := next e = none ∨ next e = some e

def EntersCycle (next : α → Option α) (a : α) : Prop :=
  ∃ x y, x ≠ y ∧ Leads next a x ∧ Leads next x y ∧ Leads next y x

theorem next_unique : Relator.RightUnique fun x y : α => next x = some y := by
  intro x y z hy hz
  rw [hy] at hz
  exact Option.some.inj hz

theorem IsEnd.eq_of_leads (h : IsEnd next e) (hl : Leads next e x) : x = e := by
  induction hl with
  | refl => rfl
  | tail _ hst ih =>
    subst ih
    rcases h with hn | hs
    · rw [hn] at hst
      cases hst
    · exact next_unique hst hs

theorem leads_back (hn : x ≠ y) (hxy : Leads next x y) (hyx : Leads next y x)
    (hxz : Leads next x z) : Leads next z x := by
  induction hxz with
  | refl => exact ReflTransGen.refl
  | tail _ hs ih =>
    rcases ih.cases_head with rfl | ⟨c, hne, hb⟩
    · rcases hxy.cases_head with he | ⟨c, hne, hr⟩
      · exact absurd he hn
      · rw [next_unique hs hne]
        exact hr.trans hyx
    · rw [next_unique hs hne]
      exact hb

theorem not_entersCycle (he : IsEnd next e) (hl : Leads next a e) : ¬EntersCycle next a := by
  rintro ⟨x, y, hn, hax, hxy, hyx⟩
  have hex : Leads next e x := by
    rcases ReflTransGen.total_of_right_unique next_unique hax hl with hxe | hex
    · exact leads_back hn hxy hyx hxe
    · exact hex
  have hx := he.eq_of_leads hex
  have hy := he.eq_of_leads (hex.trans hxy)
  exact hn (hx.trans hy.symm)

end DeepRouter.Chains

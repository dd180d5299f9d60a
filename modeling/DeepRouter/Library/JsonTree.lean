import DeepRouter.Library.Json
import Mathlib.Data.List.Nodup

/-! # JSON values as trees

`prune` drops the objects for which `p` holds, with all that is in them, but never the root. -/

namespace DeepRouter.Json

open List

def children : Json → List Json
  | .arr items => items
  | .obj fields => fields.map Prod.snd
  | _ => []

def keys : Json → List String
  | .obj fields => fields.map Prod.fst
  | _ => []

theorem sizeOf_child {value child : Json} (h : child ∈ value.children) :
    sizeOf child < sizeOf value := by
  cases value with
  | arr items =>
    have hs := sizeOf_lt_of_mem (show child ∈ items from h)
    simp only [Json.arr.sizeOf_spec]
    omega
  | obj fields =>
    obtain ⟨⟨key, child⟩, hf, rfl⟩ := mem_map.mp h
    have hs := sizeOf_lt_of_mem hf
    simp only [Prod.mk.sizeOf_spec, Json.obj.sizeOf_spec] at hs ⊢
    omega
  | null | bool | num | str => cases h

theorem tree_induction {P : Json → Prop}
    (h : ∀ value, (∀ child ∈ value.children, P child) → P value) (value : Json) : P value :=
  h value fun child hc =>
    have := sizeOf_child hc
    tree_induction h child
termination_by sizeOf value

/-- No object has two fields of one name. -/
inductive Distinct : Json → Prop
  | mk {value : Json} (keys : value.keys.Nodup) (below : ∀ child ∈ value.children, Distinct child) :
      Distinct value

section

variable (p q : List (String × Json) → Bool)

def dropped : Json → Bool
  | .obj fields => p fields
  | _ => false

mutual

def prune : Json → Json
  | .arr items => .arr (pruneItems items)
  | .obj fields => .obj (pruneFields fields)
  | value => value

def pruneItems : List Json → List Json
  | [] => []
  | item :: items => if dropped p item then pruneItems items else prune item :: pruneItems items

def pruneFields : List (String × Json) → List (String × Json)
  | [] => []
  | (key, child) :: fields =>
    if dropped p child then pruneFields fields else (key, prune child) :: pruneFields fields

end

def kept (value : Json) : Option Json := if dropped p value then none else some (prune p value)

/-- The objects below a value that are in no dropped object. -/
inductive Reached : Json → List (String × Json) → Prop
  | here {value : Json} {fields : List (String × Json)} (h : .obj fields ∈ value.children) :
      Reached value fields
  | deeper {value child : Json} {fields : List (String × Json)} (hc : child ∈ value.children)
      (hk : dropped p child = false) (hr : Reached child fields) : Reached value fields

theorem pruneItems_eq (items : List Json) : pruneItems p items = items.filterMap (kept p) := by
  induction items with
  | nil => rfl
  | cons item items ih =>
    rw [pruneItems, filterMap_cons, ih, kept]
    split <;> rfl

theorem pruneFields_eq (fields : List (String × Json)) :
    pruneFields p fields = fields.filterMap fun entry => (kept p entry.2).map (entry.1, ·) := by
  induction fields with
  | nil => rfl
  | cons entry fields ih =>
    rw [pruneFields, filterMap_cons, ih, kept]
    split <;> rfl

end

section

variable {α β : Type*} {f g : α → Option β} {l : List α}

theorem length_filterMap_le (h : ∀ x ∈ l, g x = none → f x = none) :
    (l.filterMap f).length ≤ (l.filterMap g).length := by
  induction l with
  | nil => exact Nat.le_refl _
  | cons x l ih =>
    obtain ⟨hx, hl⟩ := forall_mem_cons.mp h
    have hLe := ih hl
    cases hg : g x with
    | none => simpa [hg, hx hg] using hLe
    | some b => cases hf : f x <;> simp [hg, hf] <;> omega

theorem filterMap_eq_iff (h : ∀ x ∈ l, g x = none → f x = none) :
    l.filterMap f = l.filterMap g ↔ ∀ x ∈ l, f x = g x := by
  refine ⟨fun he => ?_, filterMap_congr⟩
  induction l with
  | nil => simp
  | cons x l ih =>
    obtain ⟨hx, hl⟩ := forall_mem_cons.mp h
    cases hg : g x with
    | none =>
      rw [filterMap_cons_none hg, filterMap_cons_none (hx hg)] at he
      exact forall_mem_cons.mpr ⟨(hx hg).trans hg.symm, ih hl he⟩
    | some b =>
      rw [filterMap_cons_some hg] at he
      cases hf : f x with
      | none =>
        -- a value that only `f` drops makes its list shorter
        have hle := congrArg List.length (filterMap_cons_none hf ▸ he)
        have hLe := length_filterMap_le hl
        rw [length_cons] at hle
        omega
      | some a =>
        rw [filterMap_cons_some hf, List.cons.injEq] at he
        refine forall_mem_cons.mpr ⟨?_, ih hl he.2⟩
        rw [hf, hg, he.1]

end

section

variable {p q : List (String × Json) → Bool} (h : ∀ fields, q fields = true → p fields = true)
include h

theorem kept_eq_none {value : Json} (hq : kept q value = none) : kept p value = none := by
  cases value with
  | obj fields =>
    have hd : q fields = true := by
      by_contra hn
      simp [kept, dropped, hn] at hq
    simp [kept, dropped, h fields hd]
  | null | bool | num | str | arr => simp [kept, dropped] at hq

theorem prune_eq_iff_kept (value : Json) :
    prune p value = prune q value ↔ ∀ child ∈ value.children, kept p child = kept q child := by
  cases value with
  | arr items =>
    rw [prune, prune, Json.arr.injEq, pruneItems_eq, pruneItems_eq]
    exact filterMap_eq_iff fun _ _ => kept_eq_none h
  | obj fields =>
    rw [prune, prune, Json.obj.injEq, pruneFields_eq, pruneFields_eq, filterMap_eq_iff, children,
      forall_mem_map]
    · refine forall₂_congr fun entry _ => ⟨fun hEq => ?_, fun hEq => by rw [hEq]⟩
      exact Option.map_injective (fun _ _ he => (Prod.mk.inj he).2) hEq
    · intro entry _ hq
      rw [Option.map_eq_none_iff] at hq ⊢
      exact kept_eq_none h hq
  | null | bool | num | str => simp [prune, children]

theorem kept_eq_iff (value : Json) :
    kept p value = kept q value ↔
      (∀ fields, value = .obj fields → p fields = true → q fields = true) ∧
        (dropped q value = false → prune p value = prune q value) := by
  cases value with
  | obj fields =>
    cases hq : q fields with
    | true => simp [kept, dropped, hq, h fields hq]
    | false => cases hp : p fields <;> simp [kept, dropped, hq, hp]
  | null | bool | num | str | arr => simp [kept, dropped]

theorem prune_eq_iff (value : Json) :
    prune p value = prune q value ↔
      ∀ fields, Reached q value fields → p fields = true → q fields = true := by
  induction value using tree_induction with
  | h value ih =>
    rw [prune_eq_iff_kept h]
    constructor
    · intro ha fields hr
      cases hr with
      | here hc => exact ((kept_eq_iff h _).mp (ha _ hc)).1 fields rfl
      | deeper hc hk hr => exact (ih _ hc).mp (((kept_eq_iff h _).mp (ha _ hc)).2 hk) fields hr
    · intro ha child hc
      refine (kept_eq_iff h _).mpr ⟨?_, fun hk => (ih child hc).mpr ?_⟩
      · rintro fields rfl
        exact ha fields (.here hc)
      · exact fun fields hr => ha fields (.deeper hc hk hr)

end

end DeepRouter.Json

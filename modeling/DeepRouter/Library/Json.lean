import Mathlib.Data.Rat.Defs

/-! # Decoded JSON

As decoded into `any`. -/

namespace DeepRouter

inductive Json where
  | null
  | bool (value : Bool)
  | num (value : Rat)
  | str (value : String)
  | arr (items : List Json)
  | obj (fields : List (String × Json))

namespace Json

def field (name : String) : Json → Option Json
  | .obj fields => fields.lookup name
  | _ => none

def stringField (name : String) (value : Json) : Option String :=
  match value.field name with
  | some (.str text) => some text
  | _ => none

inductive HasKey (name : String) : Json → Prop
  | here {fields : List (String × Json)} {child : Json} (h : (name, child) ∈ fields) :
      HasKey name (.obj fields)
  | field {fields : List (String × Json)} {key : String} {child : Json} (h : (key, child) ∈ fields)
      (hc : HasKey name child) : HasKey name (.obj fields)
  | item {items : List Json} {child : Json} (h : child ∈ items) (hc : HasKey name child) :
      HasKey name (.arr items)

mutual

def findKey (names : List String) : Json → Option String
  | .obj fields => findKeyFields names fields
  | .arr items => findKeyItems names items
  | _ => none

def findKeyFields (names : List String) : List (String × Json) → Option String
  | [] => none
  | (key, child) :: fields =>
    if key ∈ names then some key
    else (findKey names child).or (findKeyFields names fields)

def findKeyItems (names : List String) : List Json → Option String
  | [] => none
  | child :: items => (findKey names child).or (findKeyItems names items)

end

theorem findKeyFields_eq_none {names : List String} {fields : List (String × Json)} :
    findKeyFields names fields = none ↔
      ∀ entry ∈ fields, entry.1 ∉ names ∧ findKey names entry.2 = none := by
  induction fields with
  | nil => simp [findKeyFields]
  | cons first fields ih =>
    rw [findKeyFields, List.forall_mem_cons, ← ih]
    by_cases hf : first.1 ∈ names
    · simp [hf]
    · simp [hf, Option.or_eq_none_iff]

theorem findKeyItems_eq_none {names : List String} {items : List Json} :
    findKeyItems names items = none ↔ ∀ item ∈ items, findKey names item = none := by
  induction items with
  | nil => simp [findKeyItems]
  | cons first items ih => rw [findKeyItems, List.forall_mem_cons, ← ih, Option.or_eq_none_iff]

theorem not_hasKey_of_findKey {names : List String} {name : String} {value : Json}
    (h : findKey names value = none) (hn : name ∈ names) : ¬HasKey name value := by
  intro hk
  induction hk with
  | here hf =>
    rw [findKey, findKeyFields_eq_none] at h
    exact (h _ hf).1 hn
  | field hf hc ih =>
    rw [findKey, findKeyFields_eq_none] at h
    exact ih (h _ hf).2
  | item hi hc ih =>
    rw [findKey, findKeyItems_eq_none] at h
    exact ih (h _ hi)

def erase (names : List String) : Json → Json
  | .obj fields => .obj (fields.filter fun entry => entry.1 ∉ names)
  | value => value

end Json

end DeepRouter

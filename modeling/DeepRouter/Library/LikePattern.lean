import Mathlib.Data.List.Infix

/-! # LIKE patterns with an escape character

Over any alphabet; a pattern that ends in a lone escape character matches nothing. -/

namespace DeepRouter.LikePattern

universe u

variable {α : Type u}

structure Wildcards (α : Type u) where
  (many one esc : α)
  many_ne_one : many ≠ one
  many_ne_esc : many ≠ esc
  one_ne_esc : one ≠ esc

/-- The texts that a template stands for when each `many` is replaced by some text. -/
inductive Filled (many : α) : List α → List α → Prop
  | nil : Filled many [] []
  | many (text : List α) {template s : List α} (h : Filled many template s) :
      Filled many (many :: template) (text ++ s)
  | keep {c : α} {template s : List α} (hc : c ≠ many) (h : Filled many template s) :
      Filled many (c :: template) (c :: s)

variable {many c : α} {template s : List α}

theorem filled_nil_iff : Filled many [] s ↔ s = [] := by
  constructor
  · rintro ⟨⟩
    rfl
  · rintro rfl
    exact .nil

theorem filled_many_iff : Filled many (many :: template) s ↔ ∃ t, t <:+ s ∧ Filled many template t := by
  constructor
  · intro h
    cases h with
    | many text h => exact ⟨_, List.suffix_append text _, h⟩
    | keep hc h => exact absurd rfl hc
  · rintro ⟨t, ⟨text, rfl⟩, h⟩
    exact .many text h

theorem filled_keep_iff (hc : c ≠ many) :
    Filled many (c :: template) s ↔ ∃ t, s = c :: t ∧ Filled many template t := by
  constructor
  · intro h
    cases h with
    | many text h => exact absurd rfl hc
    | keep _ h => exact ⟨_, rfl, h⟩
  · rintro ⟨t, rfl, h⟩
    exact .keep hc h

variable [DecidableEq α] (w : Wildcards α)

def like : List α → List α → Bool
  | [], s => s.isEmpty
  | c :: p, s =>
    if c = w.esc then
      match p, s with
      | d :: p, a :: s => decide (a = d) && like p s
      | _, _ => false
    else if c = w.many then s.tails.any (like p)
    else
      match s with
      | a :: s => (decide (c = w.one) || decide (a = c)) && like p s
      | [] => false

def endsInEscape : List α → Bool
  | [] => false
  | c :: p =>
    if c = w.esc then
      match p with
      | [] => true
      | _ :: p => endsInEscape p
    else endsInEscape p

def quote (c : α) : List α := if c = w.esc ∨ c = w.one then [w.esc, c] else [c]

variable {w} {p : List α}

theorem quote_of_plain (he : c ≠ w.esc) (ho : c ≠ w.one) : quote w c = [c] :=
  if_neg fun h => h.elim he ho

theorem like_many : like w (w.many :: p) s = true ↔ ∃ t, t <:+ s ∧ like w p t = true := by
  rw [like.eq_def]
  simp only [if_neg w.many_ne_esc, if_pos, List.any_eq_true, List.mem_tails]

theorem like_quote (hc : c ≠ w.many) :
    like w (quote w c ++ p) s = true ↔ ∃ t, s = c :: t ∧ like w p t = true := by
  by_cases hq : c = w.esc ∨ c = w.one
  · rw [quote, if_pos hq]
    cases s with
    | nil => simp [like]
    | cons a s => simp [like]
  · obtain ⟨he, ho⟩ := not_or.mp hq
    rw [quote_of_plain he ho]
    rw [List.singleton_append, like.eq_def]
    cases s with
    | nil => simp [he, hc]
    | cons a s => simp [he, hc, ho]

theorem endsInEscape_quote : endsInEscape w (quote w c ++ p) = endsInEscape w p := by
  by_cases hq : c = w.esc ∨ c = w.one
  · rw [quote, if_pos hq]
    simp [endsInEscape]
  · obtain ⟨he, ho⟩ := not_or.mp hq
    rw [quote_of_plain he ho, List.singleton_append, endsInEscape.eq_def]
    simp [he]

theorem quote_many : quote w w.many = [w.many] :=
  quote_of_plain w.many_ne_esc w.many_ne_one

theorem like_flatMap_quote :
    like w (template.flatMap (quote w)) s = true ↔ Filled w.many template s := by
  induction template generalizing s with
  | nil => rw [filled_nil_iff, List.flatMap_nil, like, List.isEmpty_iff]
  | cons c template ih =>
    rw [List.flatMap_cons]
    by_cases hc : c = w.many
    · subst hc
      rw [quote_many, List.singleton_append, like_many, filled_many_iff]
      simp only [ih]
    · rw [like_quote hc, filled_keep_iff hc]
      simp only [ih]

theorem endsInEscape_flatMap_quote : endsInEscape w (template.flatMap (quote w)) = false := by
  induction template with
  | nil => rfl
  | cons c template ih => rw [List.flatMap_cons, endsInEscape_quote, ih]

/-! ## The wildcards of a quoted text -/

theorem infix_flatMap_quote (h : [w.many, w.many] <:+: template) :
    [w.many, w.many] <:+: template.flatMap (quote w) := by
  obtain ⟨before, after, rfl⟩ := h
  refine ⟨before.flatMap (quote w), after.flatMap (quote w), ?_⟩
  simp [quote_many]

theorem mem_flatMap_quote (h : w.many ∈ template) : w.many ∈ template.flatMap (quote w) :=
  List.mem_flatMap.mpr ⟨_, h, by simp [quote_many]⟩

theorem filter_flatMap_quote :
    (template.flatMap (quote w)).filter (· ≠ w.many) =
      (template.filter (· ≠ w.many)).flatMap (quote w) := by
  induction template with
  | nil => rfl
  | cons c template ih =>
    rw [List.flatMap_cons, List.filter_append, ih]
    by_cases hc : c = w.many
    · subst hc
      rw [quote_many]
      simp
    have hq : (quote w c).filter (· ≠ w.many) = quote w c := by
      rw [quote]
      split
      · simp [w.many_ne_esc.symm, hc]
      · simp [hc]
    rw [hq, List.filter_cons_of_pos (by simpa using hc), List.flatMap_cons]

/-- No two wildcards stand side by side, so each side of a lone character has at most one. -/
theorem around_single (hf : s.filter (· ≠ many) = [c]) (hm : many ∈ s)
    (hp : ¬[many, many] <:+: s) : s = [many, c] ∨ s = [c, many] ∨ s = [many, c, many] := by
  obtain ⟨before, after, rfl, hb, hc, ha⟩ := List.filter_eq_cons_iff.mp hf
  have side : ∀ l : List α, (∀ x ∈ l, x = many) → l <:+: before ++ c :: after →
      l = [] ∨ l = [many] := by
    intro l hl hi
    match l, hl, hi with
    | [], _, _ => exact .inl rfl
    | [a], hl, _ =>
      rw [hl a List.mem_cons_self]
      exact .inr rfl
    | a :: b :: l, hl, hi =>
      rw [hl a List.mem_cons_self, hl b (by simp)] at hi
      exact absurd ((List.prefix_append [many, many] l).isInfix.trans hi) hp
  have hbs : before = [] ∨ before = [many] :=
    side before (fun x hx => by simpa using hb x hx) (List.prefix_append before _).isInfix
  have has : after = [] ∨ after = [many] :=
    side after (fun x hx => by simpa using List.filter_eq_nil_iff.mp ha x hx)
      ⟨before ++ [c], [], by simp⟩
  rcases hbs with rfl | rfl <;> rcases has with rfl | rfl
  · simp_all
  · exact .inr (.inl rfl)
  · exact .inl rfl
  · exact .inr (.inr rfl)

end DeepRouter.LikePattern

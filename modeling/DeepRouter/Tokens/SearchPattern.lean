import DeepRouter.Library.GoStrings
import DeepRouter.Library.LikePattern

/-! # The search patterns of a token search -/

namespace DeepRouter.Tokens

open GoStrings LikePattern

def likeWildcards : Wildcards Char where
  many := '%'
  one := '_'
  esc := '!'
  many_ne_one := by decide
  many_ne_esc := by decide
  one_ne_esc := by decide

def escapeInput (input : String) : String :=
  replaceAll (replaceAll input '!' "!!") '_' "!_"

/-- The length asked of a fuzzy search is that of the escaped text, in bytes. -/
def sanitizeLikePattern (input : String) : Except String String :=
  let input := escapeInput input
  if contains input "%%" then .error "搜索模式中不允许包含连续的 % 通配符"
  else
    let count := input.toList.count '%'
    if count > 2 then .error "搜索模式中最多允许包含 2 个 % 通配符"
    else if count > 0 then
      let stripped := replaceAll input '%' ""
      if stripped.utf8ByteSize < 2 then .error "使用模糊搜索时，关键词长度至少为 2 个字符"
      else .ok input
    else .ok input

/-! ## The escaped text -/

theorem toList_escapeInput (input : String) :
    (escapeInput input).toList = input.toList.flatMap (quote likeWildcards) := by
  simp only [escapeInput, replaceAll, String.toList_ofList, List.flatMap_assoc]
  congr 1
  funext c
  by_cases hb : c = '!'
  · subst hb
    decide
  by_cases hu : c = '_'
  · subst hu
    decide
  · rw [quote_of_plain hb hu, if_neg hb, List.flatMap_singleton, if_neg hu]

theorem toList_stripped (s : String) :
    (replaceAll s '%' "").toList = s.toList.filter (· ≠ '%') := by
  rw [replaceAll, String.toList_ofList]
  induction s.toList with
  | nil => rfl
  | cons c l ih =>
    rw [List.flatMap_cons, ih]
    by_cases hc : c = '%'
    · simp [hc]
    · simp [hc]

def typed (input : String) : List Char := input.toList.filter (· ≠ '%')

theorem stripped_escapeInput (input : String) :
    replaceAll (escapeInput input) '%' "" =
      String.ofList ((typed input).flatMap (quote likeWildcards)) := by
  apply String.toList_inj.mp
  rw [toList_stripped, toList_escapeInput, String.toList_ofList]
  exact filter_flatMap_quote (w := likeWildcards)

theorem sanitizeLikePattern_eq_ok {input pattern : String} :
    sanitizeLikePattern input = .ok pattern ↔
      pattern = escapeInput input ∧ ¬['%', '%'] <:+: (escapeInput input).toList ∧
        (escapeInput input).toList.count '%' ≤ 2 ∧
        ('%' ∈ (escapeInput input).toList →
          2 ≤ (String.ofList ((typed input).flatMap (quote likeWildcards))).utf8ByteSize) := by
  simp only [sanitizeLikePattern, contains, stripped_escapeInput, ← List.count_pos_iff]
  split
  · rename_i h
    have h : ['%', '%'] <:+: (escapeInput input).toList := of_decide_eq_true h
    simp [h]
  rename_i h
  have h : ¬['%', '%'] <:+: (escapeInput input).toList := fun hi => h (decide_eq_true hi)
  split
  · simp only [reduceCtorEq, false_iff]
    omega
  split
  · rename_i hz
    split
    · simp only [reduceCtorEq, false_iff]
      intro hc
      exact absurd (hc.2.2.2 hz) (by omega)
    · rw [Except.ok.injEq, eq_comm, and_iff_left]
      exact ⟨h, by omega, fun _ => by omega⟩
  · rename_i hz
    rw [Except.ok.injEq, eq_comm, and_iff_left]
    exact ⟨h, by omega, fun hc => absurd hc hz⟩

/-! ## What a pattern matches -/

structure Exact (input pattern : String) : Prop where
  like_iff : ∀ s : String,
    like likeWildcards pattern.toList s.toList = true ↔ Filled '%' input.toList s.toList
  ends : endsInEscape likeWildcards pattern.toList = false
  length : '%' ∈ input.toList → 2 ≤ (typed input).length

/-- Two bytes of an escaped text, from a single character. -/
def TwoBytes (c : Char) : Prop := c = '!' ∨ c = '_' ∨ 2 ≤ c.utf8Size

def LoneCharacter (input : String) : Prop :=
  ∃ c, TwoBytes c ∧ (input.toList = ['%', c] ∨ input.toList = [c, '%'] ∨
    input.toList = ['%', c, '%'])

theorem utf8ByteSize_quote (c : Char) :
    2 ≤ (String.ofList (quote likeWildcards c)).utf8ByteSize ↔ TwoBytes c := by
  by_cases hb : c = '!'
  · subst hb
    exact iff_of_true (by decide) (.inl rfl)
  by_cases hu : c = '_'
  · subst hu
    exact iff_of_true (by decide) (.inr (.inl rfl))
  · rw [quote_of_plain hb hu, String.ofList_cons, String.utf8ByteSize_append,
      String.utf8ByteSize_singleton]
    simp [TwoBytes, hb, hu]

theorem TwoBytes.ne_wildcard {c : Char} (h : TwoBytes c) : c ≠ '%' := by
  rintro rfl
  rcases h with h | h | h <;> revert h <;> decide

theorem like_escapeInput (input s : String) :
    like likeWildcards (escapeInput input).toList s.toList = true ↔
      Filled '%' input.toList s.toList := by
  rw [toList_escapeInput]
  exact like_flatMap_quote (w := likeWildcards)

theorem exact_of_accepted {input pattern : String} (h : sanitizeLikePattern input = .ok pattern)
    (hl : '%' ∈ input.toList → 2 ≤ (typed input).length) : Exact input pattern := by
  obtain ⟨rfl, -⟩ := sanitizeLikePattern_eq_ok.mp h
  refine ⟨like_escapeInput input, ?_, hl⟩
  rw [toList_escapeInput]
  exact endsInEscape_flatMap_quote

theorem sanitizeLikePattern_lone {input : String} {c : Char} (hc : TwoBytes c)
    (hi : input.toList = ['%', c] ∨ input.toList = [c, '%'] ∨ input.toList = ['%', c, '%']) :
    '%' ∈ input.toList ∧ typed input = [c] ∧
      sanitizeLikePattern input = .ok (escapeInput input) := by
  have hw := hc.ne_wildcard
  have ht : typed input = [c] := by rcases hi with h | h | h <;> simp [typed, h, hw]
  refine ⟨by rcases hi with h | h | h <;> simp [h], ht, ?_⟩
  have hm : quote likeWildcards '%' = ['%'] := by decide
  have hq : quote likeWildcards c = ['!', c] ∨ quote likeWildcards c = [c] := ite_eq_or_eq ..
  have hb : ¬['%', '%'] <:+: (escapeInput input).toList ∧
      (escapeInput input).toList.count '%' ≤ 2 := by
    rw [toList_escapeInput]
    -- the character stands between any two wildcards
    rcases hi with h | h | h <;> rcases hq with hq | hq <;>
      simp [h, hm, hq, hw, List.infix_cons_iff, List.cons_prefix_cons, hw.symm]
  refine sanitizeLikePattern_eq_ok.mpr ⟨rfl, hb.1, hb.2, fun _ => ?_⟩
  rw [ht, List.flatMap_singleton]
  exact (utf8ByteSize_quote c).mpr hc

theorem loneCharacter_of_accepted {input pattern : String}
    (h : sanitizeLikePattern input = .ok pattern) (hm : '%' ∈ input.toList)
    (hl : (typed input).length < 2) : LoneCharacter input := by
  obtain ⟨-, hp, -, hs⟩ := sanitizeLikePattern_eq_ok.mp h
  rw [toList_escapeInput] at hp hs
  have hb := hs (mem_flatMap_quote (w := likeWildcards) hm)
  match ht : typed input, hl with
  | [], _ =>
    rw [ht] at hb
    exact absurd hb (by decide)
  | [c], _ =>
    rw [ht, List.flatMap_singleton] at hb
    exact ⟨c, (utf8ByteSize_quote c).mp hb,
      around_single ht hm fun h => hp (infix_flatMap_quote (w := likeWildcards) h)⟩

/-- An accepted pattern means what was typed, unless the text around the wildcards is a single
character that is escaped or not of ASCII. -/
theorem search_pattern_exact_iff (input : String) :
    (∀ pattern, sanitizeLikePattern input = .ok pattern → Exact input pattern) ↔
      ¬LoneCharacter input := by
  constructor
  · rintro h ⟨c, hc, hi⟩
    obtain ⟨hm, ht, ha⟩ := sanitizeLikePattern_lone hc hi
    have hl := (h _ ha).length hm
    rw [ht] at hl
    exact absurd hl (by simp)
  · intro h pattern ha
    refine exact_of_accepted ha fun hm => ?_
    by_contra hl
    exact h (loneCharacter_of_accepted ha hm (by omega))

theorem single_underscore_accepted :
    sanitizeLikePattern "_%" = .ok "!_%" ∧ ¬Exact "_%" "!_%" :=
  ⟨by decide +kernel, fun h => absurd (h.length (by decide)) (by decide)⟩

end DeepRouter.Tokens

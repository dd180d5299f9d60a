import Mathlib.Data.List.DropRight
import Mathlib.Data.List.Infix

/-! # The string functions of the Go standard library used by the model

On the characters of the string; `trimSpace` is `strings.TrimSpace` over `unicode.IsSpace`. -/

namespace DeepRouter.GoStrings

open List

/-- `unicode.IsSpace`: the Latin-1 blanks and the code points with the White_Space property. -/
def isSpace (c : Char) : Bool :=
  c == '\t' || c == '\n' || c.val == 0x0b || c.val == 0x0c || c == '\r' || c == ' ' ||
  c.val == 0x85 || c.val == 0xa0 || c.val == 0x1680 || (0x2000 ≤ c.val && c.val ≤ 0x200a) ||
  c.val == 0x2028 || c.val == 0x2029 || c.val == 0x202f || c.val == 0x205f || c.val == 0x3000

def trimChars (l : List Char) : List Char := (l.dropWhile isSpace).rdropWhile isSpace

def trimSpace (s : String) : String := String.ofList (trimChars s.toList)

def contains (s substr : String) : Bool := decide (substr.toList <:+: s.toList)

def hasPrefix (s start : String) : Bool := start.toList.isPrefixOf s.toList

def hasSuffix (s ending : String) : Bool := ending.toList.isSuffixOf s.toList

def trimSuffix (s ending : String) : String :=
  if hasSuffix s ending then String.ofList (s.toList.take (s.length - ending.length)) else s

def split (s : String) (sep : Char) : List String := (s.toList.splitOn sep).map String.ofList

/-- `strings.ReplaceAll` for an `old` of one character. -/
def replaceAll (s : String) (old : Char) (new : String) : String :=
  String.ofList (s.toList.flatMap fun c => if c = old then new.toList else [c])

theorem split_ne_nil (s : String) (sep : Char) : split s sep ≠ [] := by
  rw [split, ne_eq, map_eq_nil_iff]
  exact splitOn_ne_nil _ _

theorem dropWhile_rdropWhile_dropWhile (p : Char → Bool) (l : List Char) :
    ((l.dropWhile p).rdropWhile p).dropWhile p = (l.dropWhile p).rdropWhile p := by
  rw [dropWhile_eq_self_iff]
  intro hl
  -- the trimmed list is a prefix of `l.dropWhile p`, so both start with the same character
  have hp : (l.dropWhile p).rdropWhile p <+: l.dropWhile p := rdropWhile_prefix p _
  have hlo : 0 < (l.dropWhile p).length := lt_of_lt_of_le hl hp.length_le
  have hh := dropWhile_get_zero_not p l hlo
  rw [hp.getElem hl]
  exact hh

theorem trimSpace_trimSpace (s : String) : trimSpace (trimSpace s) = trimSpace s := by
  unfold trimSpace trimChars
  rw [String.toList_ofList, dropWhile_rdropWhile_dropWhile, rdropWhile_idempotent]

theorem toList_decimal (n : Int) : (toString n).toList =
    if 0 ≤ n then Nat.toDigits 10 n.toNat else '-' :: Nat.toDigits 10 (-n).toNat := by
  rw [Int.toString_eq_repr, Int.repr_eq_if]
  split <;> simp

theorem not_mem_digits {c : Char} (hd : c.isDigit = false) (n : Nat) : c ∉ Nat.toDigits 10 n := by
  intro h
  have hc := Nat.isDigit_of_mem_toDigits (by decide) le_rfl h
  rw [hd] at hc
  cases hc

theorem decimal_inj {m n : Int} (h : (toString m).toList = (toString n).toList) : m = n := by
  have hd {a b : Nat} (h : Nat.toDigits 10 a = Nat.toDigits 10 b) : a = b := by
    rw [← Nat.ofDigitChars_ten_toDigits (n := a), h, Nat.ofDigitChars_ten_toDigits]
  have hs (a b : Nat) : Nat.toDigits 10 a ≠ '-' :: Nat.toDigits 10 b := fun h =>
    not_mem_digits (by decide : '-'.isDigit = false) a (h ▸ mem_cons_self)
  rw [toList_decimal, toList_decimal] at h
  split at h <;> split at h
  · have := hd h
    omega
  · exact absurd h (hs _ _)
  · exact absurd h.symm (hs _ _)
  · have := hd (cons.inj h).2
    omega

/-- A number and a text are read back from the two sides of the first separator. -/
theorem decimal_separated_inj {c : Char} (hd : c.isDigit = false) (hm : c ≠ '-') {m n : Int}
    {s t : String}
    (h : toString m ++ String.singleton c ++ s = toString n ++ String.singleton c ++ t) :
    m = n ∧ s = t := by
  have hl : (toString m).toList ++ c :: s.toList = (toString n).toList ++ c :: t.toList := by
    simpa using congrArg String.toList h
  have hn (k : Int) : c ∉ (toString k).toList := by
    rw [toList_decimal]
    split <;> simp [hm, not_mem_digits hd]
  have ht (k : Int) (r : List Char) :
      ((toString k).toList ++ c :: r).takeWhile (· ≠ c) = (toString k).toList := by
    rw [takeWhile_append_of_pos]
    · simp
    · intro a ha
      exact decide_eq_true fun he => hn k (he ▸ ha)
  have he := congrArg (takeWhile (· ≠ c)) hl
  rw [ht, ht] at he
  rw [he, append_cancel_left_eq, cons.injEq, String.toList_inj] at hl
  exact ⟨decimal_inj he, hl.2⟩

end DeepRouter.GoStrings

import Mathlib.Data.List.Basic

/-! # Sliding windows -/

namespace DeepRouter.SlidingWindow

open List

variable {d t now now' x : Int} {times times' times'' : List Int}

def recent (d t : Int) (times : List Int) : List Int := times.filter fun time => t - d < time

@[simp] theorem recent_nil (d t : Int) : recent d t [] = [] := rfl

theorem recent_append (d t : Int) (times times' : List Int) :
    recent d t (times ++ times') = recent d t times ++ recent d t times' :=
  filter_append _ _

theorem recent_cons_old (h : x ≤ t - d) : recent d t (x :: times) = recent d t times :=
  filter_cons_of_neg (by simpa using h)

theorem recent_cons_new (h : t - d < x) : recent d t (x :: times) = x :: recent d t times :=
  filter_cons_of_pos (by simpa using h)

theorem recent_eq_nil (h : ∀ x ∈ times, x ≤ t - d) : recent d t times = [] :=
  filter_eq_nil_iff.mpr fun x hx => by simpa using h x hx

theorem recent_eq_self (h : ∀ x ∈ times, t - d < x) : recent d t times = times :=
  filter_eq_self.mpr fun x hx => by simpa using h x hx

theorem recent_recent (h : now ≤ t) : recent d t (recent d now times) = recent d t times := by
  rw [recent, recent, filter_filter]
  refine filter_congr fun x _ => ?_
  rw [← Bool.decide_and, decide_eq_decide]
  omega

theorem recent_dropWhile (d t : Int) (times : List Int) :
    recent d t (times.dropWhile fun x => decide (x ≤ t - d)) = recent d t times := by
  induction times with
  | nil => rfl
  | cons first rest ih =>
    rcases Int.lt_or_le (t - d) first with hn | ho
    · rw [dropWhile_cons_of_neg (by simpa using hn)]
    · rw [dropWhile_cons_of_pos (by simpa using ho), ih, recent_cons_old ho]

theorem dropWhile_eq_recent (hs : times.Pairwise (· ≤ ·)) :
    times.dropWhile (fun x => decide (x ≤ t - d)) = recent d t times := by
  induction times with
  | nil => rfl
  | cons first rest ih =>
    obtain ⟨hf, hr⟩ := pairwise_cons.mp hs
    rcases Int.lt_or_le (t - d) first with hn | ho
    · rw [dropWhile_cons_of_neg (by simpa using hn)]
      refine (recent_eq_self fun x hx => ?_).symm
      rcases mem_cons.mp hx with rfl | hx
      · exact hn
      · exact Int.lt_of_lt_of_le hn (hf x hx)
    · rw [dropWhile_cons_of_pos (by simpa using ho), recent_cons_old ho, ih hr]

theorem length_recent_le (d t : Int) (times : List Int) :
    (recent d t times).length ≤ times.length :=
  length_filter_le _ _

theorem length_recent_singleton_le (d t x : Int) : (recent d t [x]).length ≤ 1 :=
  length_recent_le d t [x]

theorem length_recent_lt_iff {k : Nat} (hs : times.Pairwise (· ≥ ·)) (hk : 0 < k) :
    (recent d t times).length < k ↔ ∀ x, times[k - 1]? = some x → x ≤ t - d := by
  induction times generalizing k with
  | nil => simp [hk]
  | cons first rest ih =>
    obtain ⟨hf, hr⟩ := pairwise_cons.mp hs
    rcases Int.lt_or_le (t - d) first with hn | ho
    · rw [recent_cons_new hn, length_cons]
      match k with
      | 1 => simpa using hn
      | k + 2 =>
        have hp : (first :: rest)[k + 2 - 1]? = rest[k + 1 - 1]? := getElem?_cons_succ
        rw [hp, Nat.succ_lt_succ_iff]
        exact ih hr (Nat.succ_pos k)
    · have ha : ∀ x ∈ first :: rest, x ≤ t - d := by
        intro x hx
        rcases mem_cons.mp hx with rfl | hx
        · exact ho
        · exact Int.le_trans (hf x hx) ho
      rw [recent_eq_nil ha]
      refine iff_of_true hk fun x hx => ha x (mem_of_getElem? hx)

theorem elapsed_lt_iff (dur : Int) (h : x ≤ now) :
    (now - x).tdiv 1000 < dur ↔ now - 1000 * dur < x := by
  rw [Int.tdiv_eq_ediv_of_nonneg (by omega)]
  omega

/-! ## Bounded windows -/

def within (a d : Int) (times : List Int) : List Int :=
  times.filter fun time => a < time ∧ time ≤ a + d

def AtMost (m : Nat) (d : Int) (times : List Int) : Prop :=
  ∀ a, (within a d times).length ≤ m

theorem AtMost.nil (m : Nat) (d : Int) : AtMost m d [] := fun _ => Nat.zero_le m

theorem within_eq_recent (hp : ∀ x ∈ times, x ≤ t) : within (t - d) d times = recent d t times := by
  refine filter_congr fun x hx => ?_
  have := hp x hx
  simp only [decide_eq_decide]
  omega

theorem length_within_le_recent {a : Int} (h : t - d ≤ a) :
    (within a d times).length ≤ (recent d t times).length := by
  refine List.Sublist.length_le (monotone_filter_right times fun x hx => ?_)
  simp only [decide_eq_true_eq] at hx ⊢
  omega

theorem atMost_concat_iff {m : Nat} (hm : 1 ≤ m) (hp : ∀ x ∈ times, x ≤ now) :
    AtMost m d (times ++ [now]) ↔ AtMost m d times ∧ (recent d now times).length < m := by
  have hs : ∀ a, (within a d (times ++ [now])).length =
      (within a d times).length + (within a d [now]).length := by
    intro a
    rw [within, filter_append, length_append]
    rfl
  constructor
  · intro h
    refine ⟨fun a => ?_, ?_⟩
    · have := h a
      rw [hs] at this
      omega
    rcases Int.lt_or_le 0 d with hd | hd
    · have hno : within (now - d) d [now] = [now] := filter_cons_of_pos (by simp; omega)
      have hw := h (now - d)
      rw [hs, hno, within_eq_recent hp, length_singleton] at hw
      omega
    · have hn : recent d now times = [] := by
        refine recent_eq_nil fun x hx => ?_
        have := hp x hx
        omega
      rw [hn]
      exact hm
  · rintro ⟨hb, hr⟩ a
    rw [hs]
    rcases Int.lt_or_le a (now - d) with hbe | ha
    · have hno : within a d [now] = [] := filter_cons_of_neg (by simp; omega)
      rw [hno]
      exact hb a
    · have ho := @length_within_le_recent d now times a ha
      have hon : (within a d [now]).length ≤ 1 := length_filter_le _ [now]
      omega

/-! ## Lists that no later window tells apart -/

theorem sorted_concat (hs : times.Pairwise (· ≤ ·))
    (hp : ∀ x ∈ times, x ≤ now) : (times ++ [now]).Pairwise (· ≤ ·) := by
  refine pairwise_append.mpr ⟨hs, pairwise_singleton _ _, ?_⟩
  intro x hx y hy
  rw [mem_singleton.mp hy]
  exact hp x hx

theorem past_concat (hp : ∀ x ∈ times, x ≤ now) : ∀ x ∈ times ++ [now], x ≤ now := by
  intro x hx
  rcases mem_append.mp hx with hx | hx
  · exact hp x hx
  · exact Int.le_of_eq (mem_singleton.mp hx)

def Agree (d now : Int) (times times' : List Int) : Prop :=
  ∀ t, now ≤ t → recent d t times = recent d t times'

namespace Agree

theorem refl (d now : Int) (times : List Int) : Agree d now times times := fun _ _ => rfl

theorem trans (h : Agree d now times times') (h' : Agree d now times' times'') :
    Agree d now times times'' :=
  fun t ht => (h t ht).trans (h' t ht)

theorem mono (h : Agree d now times times') (hl : now ≤ now') : Agree d now' times times' :=
  fun t ht => h t (Int.le_trans hl ht)

theorem append (h : Agree d now times times') (x : Int) :
    Agree d now (times ++ [x]) (times' ++ [x]) := by
  intro t ht
  rw [recent_append, recent_append, h t ht]

theorem tail (h : x ≤ now - d) : Agree d now (x :: times) times := by
  intro t ht
  exact recent_cons_old (by omega)

theorem recent (d now : Int) (times : List Int) : Agree d now times (recent d now times) :=
  fun _ ht => (recent_recent ht).symm

theorem of_old (h : ∀ x ∈ times, x ≤ now - d) : Agree d now times [] := by
  intro t ht
  refine recent_eq_nil fun x hx => ?_
  have := h x hx
  omega

end Agree

/-- The kept times are past and in order, and no later window tells them from all times. -/
structure Tracks (d now : Int) (times kept : List Int) : Prop where
  agree : Agree d now times kept
  sorted : kept.Pairwise (· ≤ ·)
  past : ∀ x ∈ kept, x ≤ now

namespace Tracks

theorem nil (d now : Int) : Tracks d now [] [] :=
  ⟨Agree.refl d now [], List.Pairwise.nil, fun _ h => absurd h not_mem_nil⟩

theorem tail {rest : List Int} (h : Tracks d now times (x :: rest)) (ho : x ≤ now - d) :
    Tracks d now times rest :=
  ⟨h.agree.trans (Agree.tail ho), h.sorted.of_cons, fun y hy => h.past y (mem_cons_of_mem _ hy)⟩

variable {kept : List Int} (h : Tracks d now times kept)

include h

theorem later (hl : now ≤ now') : Tracks d now' times kept :=
  ⟨h.agree.mono hl, h.sorted, fun x hx => Int.le_trans (h.past x hx) hl⟩

theorem push : Tracks d now (times ++ [now]) (kept ++ [now]) :=
  ⟨h.agree.append now, sorted_concat h.sorted h.past, past_concat h.past⟩

theorem recent : Tracks d now times (recent d now kept) :=
  ⟨h.agree.trans (Agree.recent d now kept), h.sorted.filter _,
    fun x hx => h.past x (mem_of_mem_filter hx)⟩

theorem clear (ho : ∀ x ∈ kept, x ≤ now - d) : Tracks d now times [] :=
  ⟨h.agree.trans (Agree.of_old ho), List.Pairwise.nil, fun _ hx => absurd hx not_mem_nil⟩

end Tracks

/-! ## Lists with the latest time first -/

def Holds (k : Nat) (d now : Int) (times items : List Int) : Prop :=
  ∃ kept j, k ≤ j ∧ Tracks d now times kept ∧ items = kept.reverse.take j

def HasRoom (k : Nat) (d t : Int) (items : List Int) : Prop :=
  items.length < k ∨ ∃ oldest ∈ items.getLast?, oldest ≤ t - d

namespace Holds

variable {k : Nat} {items : List Int}

theorem nil (k : Nat) (d now : Int) : Holds k d now [] [] :=
  ⟨[], k, Nat.le_refl k, Tracks.nil d now, by simp⟩

variable (h : Holds k d now times items)

include h

theorem later (hl : now ≤ now') : Holds k d now' times items := by
  obtain ⟨kept, j, hj, ht, hi⟩ := h
  exact ⟨kept, j, hj, ht.later hl, hi⟩

theorem push : Holds k d now (times ++ [now]) (now :: items) := by
  obtain ⟨kept, j, hj, ht, rfl⟩ := h
  exact ⟨kept ++ [now], j + 1, Nat.le_succ_of_le hj, ht.push, by simp⟩

theorem trim : Holds k d now times (items.take k) := by
  obtain ⟨kept, j, hj, ht, rfl⟩ := h
  exact ⟨kept, k, Nat.le_refl k, ht, by rw [take_take, Nat.min_eq_left hj]⟩

theorem clear (hk : 0 < k) (ho : ∀ x ∈ items, x ≤ now - d) : Holds k d now times [] := by
  obtain ⟨kept, j, hj, ht, rfl⟩ := h
  have hal : ∀ x ∈ kept, x ≤ now - d := by
    have hd : kept.reverse.Pairwise (· ≥ ·) := pairwise_reverse.mpr ht.sorted
    intro x hx
    rw [← mem_reverse] at hx
    cases hke : kept.reverse with
    | nil =>
      rw [hke] at hx
      exact absurd hx not_mem_nil
    | cons first rest =>
      rw [hke] at hx hd ho
      obtain ⟨j, rfl⟩ : ∃ i, j = i + 1 := ⟨j - 1, by omega⟩
      have hf := ho first (by simp)
      rcases mem_cons.mp hx with rfl | hx
      · exact hf
      · exact Int.le_trans ((pairwise_cons.mp hd).1 x hx) hf
  exact ⟨[], k, Nat.le_refl k, ht.clear hal, by simp⟩

theorem recent_lt_iff (hk : 0 < k) (ht : now ≤ t) :
    (recent d t times).length < k ↔ ∀ x, items[k - 1]? = some x → x ≤ t - d := by
  obtain ⟨kept, j, hj, hk', rfl⟩ := h
  have hd : kept.reverse.Pairwise (· ≥ ·) := pairwise_reverse.mpr hk'.sorted
  rw [getElem?_take_of_lt (by omega), ← length_recent_lt_iff hd hk, hk'.agree t ht, recent, recent,
    filter_reverse, length_reverse]

theorem le_now (hx : x ∈ items) : x ≤ now := by
  obtain ⟨kept, j, -, ht, rfl⟩ := h
  exact ht.past x (mem_reverse.mp (mem_of_mem_take hx))

theorem getLast_le {last x : Int} (hl : last ∈ items.getLast?) (hx : x ∈ items) : last ≤ x := by
  obtain ⟨kept, j, -, ht, rfl⟩ := h
  have hd := (pairwise_reverse.mpr ht.sorted).sublist (take_sublist j kept.reverse)
  obtain ⟨init, hi⟩ := getLast?_eq_some_iff.mp hl
  rw [hi] at hx hd
  rcases mem_append.mp hx with hx | hx
  · exact (pairwise_append.mp hd).2.2 x hx last (mem_singleton_self last)
  · exact Int.le_of_eq (mem_singleton.mp hx).symm

theorem hasRoom_of_recent (hk : 0 < k) (ht : now ≤ t) (hc : (recent d t times).length < k) :
    HasRoom k d t items := by
  rcases Nat.lt_or_ge items.length k with hs | hf
  · exact Or.inl hs
  have hp : k - 1 < items.length := by omega
  have hl : items.getLast? = some items[items.length - 1] := by
    rw [getLast?_eq_getElem?, getElem?_eq_getElem]
  have ho := (h.recent_lt_iff hk ht).mp hc _ (getElem?_eq_getElem hp)
  exact Or.inr ⟨_, hl, Int.le_trans (h.getLast_le hl (getElem_mem hp)) ho⟩

theorem recent_of_hasRoom (hk : 0 < k) (ht : now ≤ t) (hle : items.length ≤ k)
    (hr : HasRoom k d t items) : (recent d t times).length < k := by
  refine (h.recent_lt_iff hk ht).mpr fun x hx => ?_
  have hp : k - 1 < items.length := (List.getElem?_eq_some_iff.mp hx).1
  rcases hr with hs | ⟨oldest, ho, hol⟩
  · omega
  have hl : items.getLast? = some x := by
    rw [getLast?_eq_getElem?, ← hx]
    congr 1
    omega
  rwa [Option.mem_unique ho hl] at hol

end Holds

end DeepRouter.SlidingWindow

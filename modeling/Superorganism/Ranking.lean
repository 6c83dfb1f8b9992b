/-
The largest elements of a list, by counting.

An element is kept if at most `k` elements have a key at least as large as its own, itself
included. Elements of one key count against each other, so they are kept or left together: where
the first `k` places end between elements of one key (`Straddles`), none of these is kept. This is
the only way in which fewer than `k` are kept of a list that has as many.
-/
import Mathlib.Data.List.MinMax

set_option autoImplicit false

namespace Superorganism.Ranking

variable {α K : Type} [LinearOrder K] (key : α → K)

/-! ## Counting -/

/-- How many elements have a key that is at least `t`. -/
def rank (l : List α) (t : K) : ℕ := l.countP fun b => t ≤ key b

/-- How many elements have a key that is larger than `t`. -/
def above (l : List α) (t : K) : ℕ := l.countP fun b => t < key b

/-- The elements that are not outranked `k` times. -/
def kept (l : List α) (k : ℕ) : List α := l.filter fun a => rank key l (key a) ≤ k

/-- The elements of key `t` begin before place `k` and end behind it. -/
def Straddles (l : List α) (k : ℕ) (t : K) : Prop := above key l t < k ∧ k < rank key l t

variable {key} {l : List α} {k : ℕ} {t t' : K} {a b : α}

theorem rank_anti (h : t ≤ t') : rank key l t' ≤ rank key l t := by
  refine List.countP_mono_left fun b _ hb => ?_
  simp only [decide_eq_true_eq] at hb ⊢
  exact h.trans hb

theorem rank_le_length : rank key l t ≤ l.length := List.countP_le_length

theorem mem_kept : a ∈ kept key l k ↔ a ∈ l ∧ rank key l (key a) ≤ k := by
  simp only [kept, List.mem_filter, decide_eq_true_eq]

theorem kept_sublist : (kept key l k).Sublist l := List.filter_sublist

theorem length_kept : (kept key l k).length = l.countP fun a => rank key l (key a) ≤ k :=
  List.countP_eq_length_filter.symm

/-- What is left has a smaller key than all that is kept. -/
theorem lt_of_mem_kept (ha : a ∈ kept key l k) (hb : b ∈ l) (hleft : b ∉ kept key l k) :
    key b < key a := by
  by_contra hle
  have hrank : rank key l (key b) ≤ rank key l (key a) := rank_anti (not_lt.mp hle)
  exact hleft (mem_kept.mpr ⟨hb, hrank.trans (mem_kept.mp ha).2⟩)

/-! ## How many are kept -/

/-- The kept element of the smallest key has all the others in its rank. -/
theorem length_kept_le : (kept key l k).length ≤ k := by
  cases hmin : (kept key l k).argmin key with
  | none =>
      rw [List.argmin_eq_none.mp hmin]
      exact Nat.zero_le k
  | some a =>
      have ha : a ∈ kept key l k := List.argmin_mem hmin
      have hall : (kept key l k).length ≤ rank key l (key a) := by
        rw [length_kept]
        refine List.countP_mono_left fun b hb hrank => ?_
        have hkept : b ∈ kept key l k := mem_kept.mpr ⟨hb, of_decide_eq_true hrank⟩
        exact decide_eq_true (List.le_of_mem_argmin hkept hmin)
      exact hall.trans (mem_kept.mp ha).2

/-- Where the first `k` places end in a tie, only what is above the tie is kept. -/
theorem length_kept_le_above (h : k < rank key l t) : (kept key l k).length ≤ above key l t := by
  rw [length_kept]
  refine List.countP_mono_left fun b _ hb => ?_
  simp only [decide_eq_true_eq] at hb ⊢
  by_contra hle
  have hrank : rank key l t ≤ rank key l (key b) := rank_anti (not_lt.mp hle)
  omega

/-- What is above everything that is left is kept. -/
theorem above_le_length_kept (h : ∀ a ∈ l, t < key a → a ∈ kept key l k) :
    above key l t ≤ (kept key l k).length := by
  rw [length_kept]
  refine List.countP_mono_left fun a ha hlt => ?_
  exact decide_eq_true (mem_kept.mp (h a ha (of_decide_eq_true hlt))).2

/-- If not all is kept, there is a largest key of what is left. -/
theorem exists_largest_left (h : kept key l k ≠ l) :
    ∃ b, k < rank key l (key b) ∧ ∀ a ∈ l, key b < key a → a ∈ kept key l k := by
  let left := l.filter fun b => decide (k < rank key l (key b))
  have hmem {a : α} (ha : a ∈ l) (hrank : k < rank key l (key a)) : a ∈ left :=
    List.mem_filter.mpr ⟨ha, decide_eq_true hrank⟩
  cases hmax : left.argmax key with
  | none =>
      refine absurd (List.filter_eq_self.mpr fun a ha => decide_eq_true (not_lt.mp ?_)) h
      intro hrank
      have hleft := hmem ha hrank
      rw [List.argmax_eq_none.mp hmax] at hleft
      exact List.not_mem_nil hleft
  | some b =>
      obtain ⟨-, hrank⟩ := List.mem_filter.mp (List.argmax_mem hmax)
      refine ⟨b, of_decide_eq_true hrank, fun a ha hlt => mem_kept.mpr ⟨ha, not_lt.mp ?_⟩⟩
      intro hleft
      exact absurd (List.le_of_mem_argmax (hmem ha hleft) hmax) (not_le.mpr hlt)

/-- `k` elements are kept, or all if there are fewer, unless there is a tie at the boundary. -/
theorem length_kept_eq_iff :
    (kept key l k).length = min l.length k ↔ ∀ t, ¬ Straddles key l k t := by
  constructor
  · rintro heq t ⟨habove, hrank⟩
    have hfew : (kept key l k).length ≤ above key l t := length_kept_le_above hrank
    have hlength : k < l.length := hrank.trans_le rank_le_length
    omega
  · intro hno
    have hle : (kept key l k).length ≤ k := length_kept_le
    have hlength : (kept key l k).length ≤ l.length := kept_sublist.length_le
    by_cases hall : kept key l k = l
    · rw [hall] at hle ⊢
      omega
    · -- the elements above the largest key that is left are kept, and they are `k` at least
      obtain ⟨b, hrank, hlarger⟩ := exists_largest_left hall
      have habove : k ≤ above key l (key b) := not_lt.mp fun hlt => hno (key b) ⟨hlt, hrank⟩
      have hkept : above key l (key b) ≤ (kept key l k).length := above_le_length_kept hlarger
      omega

end Superorganism.Ranking

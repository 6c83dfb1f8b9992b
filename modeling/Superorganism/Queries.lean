/-
What SELECT makes of rows: LEFT JOIN, ORDER BY and LIMIT.

The rows of a left join come in one group for each row on the left, and no group is empty. ORDER
BY says nothing of the order of rows with equal keys. A sort is therefore anything that permutes
the rows into descending order of their keys (`OrderBy`); `OrderBy.prefer` is one that puts chosen
rows first among those of their key.
-/
import Superorganism.Sql
import Mathlib.Data.Prod.Lex

set_option autoImplicit false

namespace Superorganism.Sql

/-! ## LEFT JOIN -/

section

variable {ρ γ κ : Type} (on : ρ → γ → Bool) (others : List γ)

/-- What a row is joined with; NULL if nothing matches. -/
def matched (row : ρ) : List (Option γ) :=
  match others.filter (on row) with
  | [] => [none]
  | other :: rest => (other :: rest).map some

/-- `rows LEFT JOIN others ON ...`. -/
def leftJoin (rows : List ρ) : List (ρ × Option γ) :=
  rows.flatMap fun row => (matched on others row).map fun other => (row, other)

variable {on others} {rows : List ρ} {row : ρ}

theorem length_matched : (matched on others row).length = max 1 (others.filter (on row)).length := by
  unfold matched
  cases others.filter (on row) with
  | nil => rfl
  | cons other rest =>
      simp only [List.length_map, List.length_cons]
      omega

theorem mem_matched_some {other : γ} :
    some other ∈ matched on others row ↔ other ∈ others ∧ on row other = true := by
  rw [← List.mem_filter]
  unfold matched
  cases others.filter (on row) with
  | nil => simp
  | cons first rest => simp

theorem mem_matched_none :
    none ∈ matched on others row ↔ ∀ other ∈ others, ¬ on row other = true := by
  rw [← List.filter_eq_nil_iff]
  unfold matched
  cases others.filter (on row) with
  | nil => simp
  | cons first rest => simp

theorem mem_leftJoin {pair : ρ × Option γ} :
    pair ∈ leftJoin on others rows ↔ pair.1 ∈ rows ∧ pair.2 ∈ matched on others pair.1 := by
  rw [leftJoin, List.mem_flatMap]
  constructor
  · rintro ⟨row, hrow, hpair⟩
    obtain ⟨other, hother, rfl⟩ := List.mem_map.mp hpair
    exact ⟨hrow, hother⟩
  · rintro ⟨hrow, hother⟩
    exact ⟨pair.1, hrow, List.mem_map_of_mem hother⟩

/-- A condition on the rows on the left may be asked before the join. -/
theorem filter_leftJoin (keep : ρ → Bool) :
    (leftJoin on others rows).filter (fun pair => keep pair.1) =
      leftJoin on others (rows.filter keep) := by
  induction rows with
  | nil => rfl
  | cons row rest ih =>
      have hcons (rows : List ρ) : leftJoin on others (row :: rows) =
          (matched on others row).map (fun other => (row, other)) ++ leftJoin on others rows :=
        List.flatMap_cons
      rw [hcons, List.filter_append, ih, List.filter_map, List.filter_cons]
      by_cases hkeep : keep row = true
      · rw [if_pos hkeep, hcons]
        congr 2
        exact List.filter_eq_self.mpr fun other _ => hkeep
      · rw [if_neg hkeep]
        have hnone : (matched on others row).filter
            ((fun pair => keep pair.1) ∘ fun other => (row, other)) = [] :=
          List.filter_eq_nil_iff.mpr fun other _ => hkeep
        rw [hnone]
        rfl

/-- As many rows as matches for each row on the left, but one at least. -/
theorem count_leftJoin [DecidableEq κ] (id : ρ → κ) (hid : Unique id rows) (hrow : row ∈ rows) :
    (leftJoin on others rows).countP (fun pair => id pair.1 = id row) =
      max 1 (others.filter (on row)).length := by
  rw [List.countP_eq_length_filter, filter_leftJoin fun r => id r = id row, hid.filter_eq hrow,
    leftJoin, List.flatMap_singleton, List.length_map, length_matched]

/-- Rows that have each of the keys once, and no other. -/
theorem length_of_each_once [DecidableEq κ] (id : ρ → κ) {keys : List κ} (hkeys : keys.Nodup)
    (hid : ∀ row ∈ rows, id row ∈ keys)
    (honce : ∀ k ∈ keys, rows.countP (fun row => id row = k) = 1) :
    rows.length = keys.length := by
  have hperm : (rows.map id).Perm keys := by
    rw [List.perm_iff_count]
    intro k
    by_cases hk : k ∈ keys
    · rw [List.count_eq_one_of_mem hkeys hk, ← honce k hk, List.count_eq_countP, List.countP_map]
      rfl
    · rw [List.count_eq_zero_of_not_mem hk, List.count_eq_zero]
      intro hmem
      obtain ⟨row, hrow, rfl⟩ := List.mem_map.mp hmem
      exact hk (hid row hrow)
  rw [← hperm.length_eq, List.length_map]

end

/-! ## ORDER BY and LIMIT -/

section

variable {ρ K : Type}

/-- `LIMIT n`. A negative number is no limit. -/
def takeLimit (n : ℤ) (rows : List ρ) : List ρ := if n < 0 then rows else rows.take n.toNat

theorem takeLimit_sublist (n : ℤ) (rows : List ρ) : (takeLimit n rows).Sublist rows := by
  unfold takeLimit
  split
  · exact List.Sublist.refl rows
  · exact List.take_sublist ..

theorem takeLimit_of_length_le {n : ℤ} {rows : List ρ} (h : rows.length ≤ n) :
    takeLimit n rows = rows := by
  rw [takeLimit, if_neg (by omega), List.take_of_length_le (by omega)]

variable [LinearOrder K]

/-- `ORDER BY key DESC`. -/
structure OrderBy (key : ρ → K) where
  sort : List ρ → List ρ
  perm : ∀ rows, (sort rows).Perm rows
  descending : ∀ rows, (sort rows).Pairwise fun a b => key b ≤ key a

theorem pairwise_mergeSort_key (key : ρ → K) (rows : List ρ) :
    (rows.mergeSort fun a b => key b ≤ key a).Pairwise fun a b => key b ≤ key a := by
  refine (List.pairwise_mergeSort ?_ ?_ rows).imp of_decide_eq_true
  · intro a b c hab hbc
    simp only [decide_eq_true_eq] at hab hbc ⊢
    exact hbc.trans hab
  · intro a b
    simp only [Bool.or_eq_true, decide_eq_true_eq]
    exact le_total _ _

/-- The chosen rows come first among those of their key. -/
def OrderBy.prefer (key : ρ → K) (first : ρ → Bool) : OrderBy key where
  sort rows := rows.mergeSort fun a b => toLex (key b, first b) ≤ toLex (key a, first a)
  perm rows := List.mergeSort_perm rows _
  descending rows := by
    refine (pairwise_mergeSort_key (fun a => toLex (key a, first a)) rows).imp fun h => ?_
    rcases Prod.Lex.toLex_le_toLex.mp h with hlt | ⟨heq, -⟩
    · exact hlt.le
    · exact heq.le

/-- No chosen row comes behind another one, unless that one has the larger key. -/
theorem OrderBy.prefer_pairwise (key : ρ → K) (first : ρ → Bool) (rows : List ρ) :
    ((OrderBy.prefer key first).sort rows).Pairwise fun a b =>
      key b < key a ∨ (first b = true → first a = true) := by
  refine (pairwise_mergeSort_key (fun a => toLex (key a, first a)) rows).imp fun h => ?_
  rcases Prod.Lex.toLex_le_toLex.mp h with hlt | ⟨-, hle⟩
  · exact .inl hlt
  · exact .inr hle

end

/-- A list in which what has the property comes before what has not. -/
theorem eq_filter_append {α : Type} {p : α → Bool} {l : List α}
    (h : l.Pairwise fun a b => p b = true → p a = true) :
    l = l.filter p ++ l.filter (fun a => !p a) := by
  induction l with
  | nil => rfl
  | cons a l ih =>
      obtain ⟨hhead, htail⟩ := List.pairwise_cons.mp h
      by_cases ha : p a = true
      · simp only [List.filter_cons, ha, if_true, Bool.not_true, Bool.false_eq_true, if_false,
          List.cons_append]
        rw [← ih htail]
      · have hnone : l.filter p = [] :=
          List.filter_eq_nil_iff.mpr fun b hb hpb => ha (hhead b hb hpb)
        have hall : l.filter (fun a => !p a) = l := by
          refine List.filter_eq_self.mpr fun b hb => ?_
          rw [Bool.not_eq_true', ← Bool.not_eq_true]
          exact fun hpb => ha (hhead b hb hpb)
        simp only [Bool.not_eq_true] at ha
        simp only [List.filter_cons, ha, Bool.false_eq_true, if_false, Bool.not_false, if_true,
          hnone, hall, List.nil_append]

end Superorganism.Sql

/-
What `_select_pledges` selects.

The loop takes the largest pledge as long as no pledge covers the shortfall alone, and then
a smallest one that does. That is the choice of `Covering`: no other part of the list that
reaches the required total has fewer pledges.

Ties are broken by `created_at`, and there the selection can fail. `min` goes through the
list and compares every pledge with the best so far. It meets a pledge it cannot compare
(`MeetsClash`) when that one has the value of the best so far and a timestamp of another
kind. The loop returns exactly when no turn meets such a pledge; which pledges a turn looks
at follows from the largest ones that are gone by then (`Leads`).
-/
import Mathlib.Data.Prod.Lex
import Mathlib.Data.String.Basic
import Superorganism.Covering
import Superorganism.FundingSelect
import Superorganism.FundingValid

set_option autoImplicit false

open Superorganism.Py Superorganism.Covering

namespace Superorganism.Funding

/-! ## The order of the keys -/

/-- Timestamps of one kind in their order. -/
def CreatedAt.rank : CreatedAt → ℤ ×ₗ String
  | .naive instant _ => toLex (instant, "")
  | .aware instant _ => toLex (instant, "")
  | .text stored => toLex (0, stored)

theorem CreatedAt.eq_iff_rank {a b : CreatedAt} (h : a.kind = b.kind) :
    a.eq b = true ↔ a.rank = b.rank := by
  cases a <;> cases b <;> simp [CreatedAt.eq, CreatedAt.rank, CreatedAt.kind] at h ⊢

theorem CreatedAt.lt_rank {a b : CreatedAt} (h : a.kind = b.kind) :
    a.lt b = .ok (decide (a.rank < b.rank)) := by
  cases a <;> cases b <;>
    simp [CreatedAt.lt, CreatedAt.rank, CreatedAt.kind, Prod.Lex.toLex_lt_toLex, pure, Except.pure]
      at h ⊢

theorem CreatedAt.lt_error {a b : CreatedAt} {e : PyError} (h : a.lt b = .error e) :
    ∃ message, e = .TypeError message := by
  cases a <;> cases b <;> cases h <;> exact ⟨_, rfl⟩

namespace FundingService

/-- Keys that can be compared, in their order. -/
def key_rank (key : SelectionKey) : ℤ ×ₗ (ℤ ×ₗ String) ×ₗ String ×ₗ ℤ :=
  toLex (key.1, toLex (key.2.1.rank, toLex (key.2.2.1, key.2.2.2)))

/-- `min` can put the two keys in order. -/
def KeysCompare (a b : SelectionKey) : Prop := a.1 = b.1 → a.2.1.kind = b.2.1.kind

/-- A comparison that is made is one of ranks. -/
theorem key_lt_rank {a b : SelectionKey} (h : KeysCompare a b) :
    key_lt a b = .ok (decide (key_rank a < key_rank b)) := by
  simp only [key_rank, Prod.Lex.toLex_lt_toLex]
  rw [key_lt]
  split_ifs with h1 h2 h3
  -- the amounts differ, and nothing else is looked at
  · simp only [pure, Except.pure, h1, false_and, or_false]
  · have h1 := not_not.mp h1
    -- the dates decide
    have hne : a.2.1.rank ≠ b.2.1.rank := by
      rw [ne_eq, ← CreatedAt.eq_iff_rank (h h1)]
      simpa using h2
    rw [CreatedAt.lt_rank (h h1)]
    simp only [h1, lt_irrefl, true_and, false_or, hne, false_and, or_false]
  · have h1 := not_not.mp h1
    -- the transaction ids decide
    have heq : a.2.1.rank = b.2.1.rank := (CreatedAt.eq_iff_rank (h h1)).mp (by simpa using h2)
    simp only [pure, Except.pure, h1, heq, lt_irrefl, true_and, false_or, h3, false_and, or_false]
  · have h1 := not_not.mp h1
    -- the output indices decide
    have heq : a.2.1.rank = b.2.1.rank := (CreatedAt.eq_iff_rank (h h1)).mp (by simpa using h2)
    simp only [pure, Except.pure, h1, heq, lt_irrefl, true_and, false_or, not_not.mp h3]

theorem key_lt_eq_ok {a b : SelectionKey} {r : Bool} :
    key_lt a b = .ok r ↔ KeysCompare a b ∧ r = decide (key_rank a < key_rank b) := by
  constructor
  · intro h
    have hcompare : KeysCompare a b := (key_lt_isOk a b).mp ⟨r, h⟩
    rw [key_lt_rank hcompare, Except.ok.injEq] at h
    exact ⟨hcompare, h.symm⟩
  · rintro ⟨h, rfl⟩
    exact key_lt_rank h

/-- What is below a key that another one is not below, is below that other one. -/
theorem key_lt_of_lt_of_not_lt {a b c : SelectionKey} (hab : key_lt a b = .ok true)
    (hcb : key_lt c b = .ok false) : key_lt a c = .ok true := by
  have hle := key_lt_true hab
  have hle' := key_lt_false hcb
  rw [key_lt_eq_ok] at hab hcb ⊢
  obtain ⟨hab, hr⟩ := hab
  obtain ⟨hcb, hr'⟩ := hcb
  refine ⟨fun hac => ?_, ?_⟩
  -- equal ends leave no room for another amount in the middle
  · have h1 : a.1 = b.1 := by omega
    rw [hab h1, hcb (hac.symm.trans h1)]
  · have hlt := of_decide_eq_true hr.symm
    have hnlt := of_decide_eq_false hr'.symm
    exact (decide_eq_true (hlt.trans_le (not_lt.mp hnlt))).symm

theorem key_lt_trans {a b c : SelectionKey} (hab : key_lt a b = .ok true)
    (hbc : key_lt b c = .ok true) : key_lt a c = .ok true := by
  have hle := key_lt_true hab
  have hle' := key_lt_true hbc
  rw [key_lt_eq_ok] at hab hbc ⊢
  obtain ⟨hab, hr⟩ := hab
  obtain ⟨hbc, hr'⟩ := hbc
  refine ⟨fun hac => ?_, ?_⟩
  · have h1 : a.1 = b.1 := by omega
    rw [hab h1, hbc (h1.symm.trans hac)]
  · exact (decide_eq_true ((of_decide_eq_true hr.symm).trans (of_decide_eq_true hr'.symm))).symm

/-! ## What `min` returns, and when -/

/-- The exceptions of a comparison. -/
def IsTypeError (e : PyError) : Prop := ∃ message, e = .TypeError message

theorem key_lt_error {a b : SelectionKey} {e : PyError} (h : key_lt a b = .error e) :
    IsTypeError e := by
  rw [key_lt] at h
  split_ifs at h with h1 h2 h3
  · cases h
  · exact CreatedAt.lt_error h
  · cases h
  · cases h

section

variable {key : PreparedPledge → SelectionKey}

/-- The item that comes last is compared with the smallest of the others. -/
theorem min_by_key_concat (best item : PreparedPledge) (items : List PreparedPledge) :
    min_by_key key best (items ++ [item]) = min_by_key key best items >>= fun m =>
      key_lt (key item) (key m) >>= fun r => pure (if r then item else m) := by
  induction items generalizing best with
  | nil =>
      rw [List.nil_append, min_by_key, min_by_key, pure_bind]
      congr 1
      funext r
      cases r <;> rfl
  | cons x items ih =>
      rw [List.cons_append, min_by_key, min_by_key, bind_assoc]
      congr 1
      funext r
      cases r with
      | true => exact ih x
      | false => exact ih best

theorem min_by_key_concat_eq_ok {best item m : PreparedPledge} {items : List PreparedPledge} :
    min_by_key key best (items ++ [item]) = .ok m ↔
      ∃ m₀, min_by_key key best items = .ok m₀ ∧
        ((key_lt (key item) (key m₀) = .ok true ∧ m = item) ∨
          (key_lt (key item) (key m₀) = .ok false ∧ m = m₀)) := by
  rw [min_by_key_concat, bind_eq_ok]
  refine exists_congr fun m₀ => and_congr_right fun _ => ?_
  rw [bind_eq_ok]
  constructor
  · rintro ⟨r, hr, h⟩
    cases r with
    | true => exact .inl ⟨hr, (Except.ok.inj h).symm⟩
    | false => exact .inr ⟨hr, (Except.ok.inj h).symm⟩
  · rintro (⟨hr, rfl⟩ | ⟨hr, rfl⟩)
    · exact ⟨true, hr, rfl⟩
    · exact ⟨false, hr, rfl⟩

/-- The first of the smallest items: it is smaller than what stands before it, and nothing
behind it is smaller. -/
def FirstLeast (key : PreparedPledge → SelectionKey) (items : List PreparedPledge)
    (m : PreparedPledge) (rest : List PreparedPledge) : Prop :=
  ∃ before after, items = before ++ m :: after ∧ rest = before ++ after ∧
    (∀ x ∈ before, key_lt (key m) (key x) = .ok true) ∧
    ∀ x ∈ after, key_lt (key x) (key m) = .ok false

/-- `min` returns the first of the smallest. The induction is on the list from its end: the
last item replaces the smallest so far or stays behind it. -/
theorem min_by_key_first {best m : PreparedPledge} {items : List PreparedPledge}
    (h : min_by_key key best items = .ok m) :
    ∃ rest, FirstLeast key (best :: items) m rest := by
  induction items using List.reverseRecOn generalizing m with
  | nil =>
      obtain rfl := Except.ok.inj h
      exact ⟨[], [], [], rfl, rfl, by simp, by simp⟩
  | append_singleton items item ih =>
      obtain ⟨m₀, hm₀, hlast⟩ := min_by_key_concat_eq_ok.mp h
      obtain ⟨_, before, after, hitems, -, hbefore, hafter⟩ := ih hm₀
      rcases hlast with ⟨hr, rfl⟩ | ⟨hr, rfl⟩
      -- `item` is smaller than the smallest before it, hence than all of them
      · refine ⟨best :: items, best :: items, [], rfl, by simp, fun x hx => ?_, by simp⟩
        rw [hitems] at hx
        rcases List.mem_append.mp hx with hx | hx
        · exact key_lt_trans hr (hbefore x hx)
        · rcases List.mem_cons.mp hx with rfl | hx
          · exact hr
          · exact key_lt_of_lt_of_not_lt hr (hafter x hx)
      -- the smallest stays, with `item` behind it
      · refine ⟨before ++ (after ++ [item]), before, after ++ [item], ?_, rfl, hbefore,
          fun x hx => ?_⟩
        · rw [← List.cons_append, hitems, List.append_assoc]
          rfl
        · rcases List.mem_append.mp hx with hx | hx
          · exact hafter x hx
          · rwa [List.mem_singleton.mp hx]

/-- There is only one. -/
theorem FirstLeast.unique {items : List PreparedPledge} {m m' : PreparedPledge}
    {rest rest' : List PreparedPledge} (h : FirstLeast key items m rest)
    (h' : FirstLeast key items m' rest') : m = m' ∧ rest = rest' := by
  obtain ⟨before, after, rfl, rfl, hbefore, hafter⟩ := h
  obtain ⟨before', after', hsplit, rfl, hbefore', hafter'⟩ := h'
  -- one that stands before the other would be smaller and not smaller
  have hconflict {a b : SelectionKey} (hlt : key_lt a b = .ok true)
      (hnlt : key_lt a b = .ok false) : False := by
    rw [hlt] at hnlt
    cases hnlt
  rcases List.append_eq_append_iff.mp hsplit with ⟨mid, rfl, hmid⟩ | ⟨mid, rfl, hmid⟩
  · cases mid with
    | nil =>
        obtain ⟨rfl, rfl⟩ := List.cons.inj hmid
        rw [List.append_nil]
        exact ⟨rfl, rfl⟩
    | cons x mid =>
        obtain ⟨rfl, rfl⟩ := List.cons.inj hmid
        exact (hconflict (hbefore' m (by simp)) (hafter m' (by simp))).elim
  · cases mid with
    | nil =>
        obtain ⟨rfl, rfl⟩ := List.cons.inj hmid
        rw [List.append_nil]
        exact ⟨rfl, rfl⟩
    | cons x mid =>
        obtain ⟨rfl, rfl⟩ := List.cons.inj hmid
        exact (hconflict (hbefore m' (by simp)) (hafter' m (by simp))).elim

/-- `min` comes to an item that it cannot compare with the best so far: one of the same
amount, with a timestamp of another kind, and nothing before it has a smaller amount. -/
def MeetsClash (key : PreparedPledge → SelectionKey) (items : List PreparedPledge) : Prop :=
  ∃ before x y after, items = before ++ y :: after ∧ x ∈ before ∧ (key x).1 = (key y).1 ∧
    (key x).2.1.kind ≠ (key y).2.1.kind ∧ ∀ z ∈ before, (key x).1 ≤ (key z).1

theorem meetsClash_concat {items : List PreparedPledge} {item : PreparedPledge} :
    MeetsClash key (items ++ [item]) ↔ MeetsClash key items ∨
      ∃ x ∈ items, (key x).1 = (key item).1 ∧ (key x).2.1.kind ≠ (key item).2.1.kind ∧
        ∀ z ∈ items, (key x).1 ≤ (key z).1 := by
  constructor
  · rintro ⟨before, x, y, after, hsplit, hx, hamount, hkind, hleast⟩
    induction after using List.reverseRecOn with
    -- the clash is with the last item
    | nil =>
        obtain ⟨rfl, hy⟩ := List.append_inj' hsplit rfl
        obtain rfl : item = y := by simpa using hy
        exact .inr ⟨x, hx, hamount, hkind, hleast⟩
    -- the clash is among the items before it
    | append_singleton after last _ =>
        rw [← List.cons_append, ← List.append_assoc] at hsplit
        obtain ⟨rfl, -⟩ := List.append_inj' hsplit rfl
        exact .inl ⟨before, x, y, after, rfl, hx, hamount, hkind, hleast⟩
  · rintro (⟨before, x, y, after, rfl, hx, hamount, hkind, hleast⟩ | ⟨x, hx, hamount, hkind, hleast⟩)
    · exact ⟨before, x, y, after ++ [item], by simp, hx, hamount, hkind, hleast⟩
    · exact ⟨items, x, item, [], rfl, hx, hamount, hkind, hleast⟩

theorem min_by_key_isOk_iff (best : PreparedPledge) (items : List PreparedPledge) :
    (∃ m, min_by_key key best items = .ok m) ↔ ¬ MeetsClash key (best :: items) := by
  induction items using List.reverseRecOn with
  | nil =>
      refine iff_of_true ⟨best, rfl⟩ ?_
      rintro ⟨before, x, y, after, hsplit, hx, -⟩
      have hlen := congrArg List.length hsplit
      have hpos := List.length_pos_of_mem hx
      simp only [List.length_cons, List.length_append, List.length_nil] at hlen
      omega
  | append_singleton items item ih =>
      rw [← List.cons_append, meetsClash_concat, not_or, ← ih]
      constructor
      · rintro ⟨m, hm⟩
        obtain ⟨m₀, hm₀, hlast⟩ := min_by_key_concat_eq_ok.mp hm
        refine ⟨⟨m₀, hm₀⟩, ?_⟩
        rintro ⟨x, hx, hamount, hkind, hleast⟩
        -- `x` has the amount and the kind of the smallest, which `item` was compared with
        obtain ⟨hmem, hmin⟩ := min_by_key_spec hm₀
        have hxm : (key x).1 = (key m₀).1 := le_antisymm (hleast m₀ hmem) (hmin x hx)
        have hcompare : KeysCompare (key item) (key m₀) := by
          rcases hlast with ⟨hr, -⟩ | ⟨hr, -⟩
          · exact (key_lt_eq_ok.mp hr).1
          · exact (key_lt_eq_ok.mp hr).1
        refine hkind ((min_by_key_kind hm₀ x hx hxm).trans (hcompare ?_).symm)
        rw [← hamount, hxm]
      · rintro ⟨⟨m₀, hm₀⟩, hnone⟩
        have hcompare : KeysCompare (key item) (key m₀) := by
          intro hamount
          by_contra hkind
          exact hnone ⟨m₀, (min_by_key_spec hm₀).1, hamount.symm, Ne.symm hkind,
            (min_by_key_spec hm₀).2⟩
        obtain ⟨r, hr⟩ := (key_lt_isOk _ _).mpr hcompare
        cases r with
        | true => exact ⟨item, min_by_key_concat_eq_ok.mpr ⟨m₀, hm₀, .inl ⟨hr, rfl⟩⟩⟩
        | false => exact ⟨m₀, min_by_key_concat_eq_ok.mpr ⟨m₀, hm₀, .inr ⟨hr, rfl⟩⟩⟩

theorem min_by_key_error {best : PreparedPledge} {items : List PreparedPledge} {e : PyError}
    (h : min_by_key key best items = .error e) : IsTypeError e := by
  induction items generalizing best with
  | nil => cases h
  | cons item items ih =>
      rw [min_by_key] at h
      cases hr : key_lt (key item) (key best) with
      | error e' =>
          rw [hr] at h
          obtain rfl := Except.error.inj h
          exact key_lt_error hr
      | ok r =>
          rw [hr, ok_bind] at h
          split_ifs at h
          · exact ih h
          · exact ih h

end

/-! ## The turns of the loop -/

/-- The `min` of a turn meets a pledge that it cannot compare, among those that cover the
shortfall or, where none does, among all that remain. -/
def TurnClashes (shortfall : ℤ) (remaining : List PreparedPledge) : Prop :=
  match finishing_pledges shortfall remaining with
  | [] => MeetsClash prepared_pledge_largest_first_key remaining
  | finishing => MeetsClash prepared_pledge_smallest_first_key finishing

/-- The largest pledges of a list, ties in the order of the keys, and what the list is
without them. -/
inductive Leads : List PreparedPledge → List PreparedPledge → List PreparedPledge → Prop
  | nil (items : List PreparedPledge) : Leads items [] items
  | cons {items rest front left : List PreparedPledge} {m : PreparedPledge}
      (hm : FirstLeast prepared_pledge_largest_first_key items m rest)
      (hrest : Leads rest front left) : Leads items (m :: front) left

section

variable {shortfall : ℤ} {first m : PreparedPledge} {items rest : List PreparedPledge}

theorem next_pledge_isOk_iff :
    (∃ m, next_pledge shortfall first rest = .ok m) ↔ ¬ TurnClashes shortfall (first :: rest) := by
  rw [next_pledge, TurnClashes]
  cases hfin : finishing_pledges shortfall (first :: rest) with
  | nil => exact min_by_key_isOk_iff first rest
  | cons best finishing => exact min_by_key_isOk_iff best finishing

/-- The next pledge covers the shortfall and is a smallest one that does, or none does and
it is the largest. -/
theorem next_pledge_spec (h : next_pledge shortfall first rest = .ok m) :
    (shortfall ≤ m.pledge.value_sats ∧ ∀ x ∈ first :: rest,
        shortfall ≤ x.pledge.value_sats → m.pledge.value_sats ≤ x.pledge.value_sats) ∨
      ((∀ x ∈ first :: rest, x.pledge.value_sats < shortfall) ∧
        min_by_key prepared_pledge_largest_first_key first rest = .ok m) := by
  have hiff (x : PreparedPledge) : x ∈ finishing_pledges shortfall (first :: rest) ↔
      x ∈ first :: rest ∧ shortfall ≤ x.pledge.value_sats := by
    rw [finishing_pledges, List.mem_filter, decide_eq_true_eq]
  rw [next_pledge] at h
  cases hfin : finishing_pledges shortfall (first :: rest) with
  | nil =>
      rw [hfin] at h hiff
      -- none covers the shortfall
      refine .inr ⟨fun x hx => ?_, h⟩
      by_contra hcovers
      exact absurd ((hiff x).mpr ⟨hx, not_lt.mp hcovers⟩) List.not_mem_nil
  | cons best finishing =>
      rw [hfin] at h hiff
      obtain ⟨hmem, hleast⟩ := min_by_key_spec h
      exact .inl ⟨((hiff m).mp hmem).2, fun x hx hcovers => hleast x ((hiff x).mpr ⟨hx, hcovers⟩)⟩

/-- The pledge with the smallest of the `largest_first` keys is worth most. -/
theorem FirstLeast.largest (h : FirstLeast prepared_pledge_largest_first_key items m rest) :
    ∀ x ∈ items, x.pledge.value_sats ≤ m.pledge.value_sats := by
  obtain ⟨before, after, rfl, -, hbefore, hafter⟩ := h
  intro x hx
  rcases List.mem_append.mp hx with hx | hx
  · exact neg_le_neg_iff.mp (key_lt_true (hbefore x hx))
  · rcases List.mem_cons.mp hx with rfl | hx
    · exact le_rfl
    · exact neg_le_neg_iff.mp (key_lt_false (hafter x hx))

theorem FirstLeast.erase {key : PreparedPledge → SelectionKey} (h : FirstLeast key items m rest) :
    rest = items.erase m := by
  obtain ⟨before, after, rfl, rfl, hbefore, -⟩ := h
  have hm : m ∉ before := by
    intro hmem
    have hlt := (key_lt_eq_ok.mp (hbefore m hmem)).2
    exact lt_irrefl _ (of_decide_eq_true hlt.symm)
  rw [List.erase_append_right _ hm, List.erase_cons_head]

theorem Leads.subset {front left : List PreparedPledge} (h : Leads items front left) :
    ∀ x ∈ left, x ∈ items := by
  induction h with
  | nil items => exact fun x hx => hx
  | cons hm _ ih =>
      intro x hx
      have hmem := ih x hx
      rw [hm.erase] at hmem
      exact List.mem_of_mem_erase hmem

/-- Comparable pledges do not clash. -/
theorem Comparable.not_turnClashes (h : Comparable items) : ¬ TurnClashes shortfall items := by
  rw [TurnClashes]
  split
  · rintro ⟨before, x, y, after, rfl, hx, hamount, hkind, -⟩
    exact hkind (h.largest x (by simp [hx]) y (by simp) hamount)
  · rintro ⟨before, x, y, after, hsplit, hx, hamount, hkind, -⟩
    have hmem : ∀ z ∈ before ++ y :: after, z ∈ items := by
      intro z hz
      rw [← hsplit] at hz
      exact mem_finishing_pledges hz
    exact hkind (h.smallest x (hmem x (by simp [hx])) y (hmem y (by simp)) hamount)

end

/-! ## The run of the loop -/

section

variable {required : ℤ}

/-- The loop has ended after as many turns as there are pledges. -/
theorem select_loop_turns {turns : ℕ} {remaining selected : List PreparedPledge} {total : ℤ}
    (hlen : remaining.length ≤ turns) :
    select_loop required turns remaining selected total =
      select_loop required remaining.length remaining selected total := by
  induction turns generalizing remaining selected total with
  | zero => rw [Nat.le_zero.mp hlen]
  | succ turns ih =>
      cases remaining with
      | nil => rfl
      | cons first rest =>
          rw [List.length_cons, select_loop, select_loop]
          split_ifs with hshort
          · cases hnext : next_pledge (required - total) first rest with
            | error e => rfl
            | ok m =>
                have hmem := next_pledge_mem hnext
                have herase : ((first :: rest).erase m).length = rest.length := by
                  rw [List.length_erase_of_mem hmem, List.length_cons, Nat.add_sub_cancel]
                rw [ok_bind, ok_bind, ih (by rw [herase]; simpa using hlen), herase]
          · rfl

/-- With one pledge taken, the turns that are left are enough for the others. -/
theorem length_erase_le {turns : ℕ} {items : List PreparedPledge} {m : PreparedPledge}
    (hm : m ∈ items) (hlen : items.length ≤ turns + 1) : (items.erase m).length ≤ turns := by
  rw [List.length_erase_of_mem hm]
  omega

/-- No turn that the loop can come to meets a clash: with the largest pledges gone, as long as
they fall short. -/
def Clear (required total : ℤ) (remaining : List PreparedPledge) : Prop :=
  ∀ front left, Leads remaining front left → total + total_sats front < required →
    ¬ TurnClashes (required - (total + total_sats front)) left

theorem clear_nil (required total : ℤ) : Clear required total [] := by
  intro front left hleads _
  have hcomp : Comparable left := fun a ha => absurd (hleads.subset a ha) List.not_mem_nil
  exact hcomp.not_turnClashes

/-- Nothing is left to clash once the total is reached, since pledges are worth something. -/
theorem clear_of_le {total : ℤ} (h : required ≤ total) (remaining : List PreparedPledge) :
    Clear required total remaining := by
  intro front left _ hfront
  have hnonneg := total_sats_nonneg front
  omega

/-- **One turn.** It finds a pledge, and what is left without that one is clear. -/
theorem clear_cons_iff {first : PreparedPledge} {rest : List PreparedPledge} {total : ℤ}
    (hshort : total < required) :
    Clear required total (first :: rest) ↔
      ∃ m, next_pledge (required - total) first rest = .ok m ∧
        Clear required (total + m.pledge.value_sats) ((first :: rest).erase m) := by
  constructor
  · intro hclear
    obtain ⟨m, hnext⟩ : ∃ m, next_pledge (required - total) first rest = .ok m := by
      have hturn := hclear [] _ (.nil _) (by simpa using hshort)
      rw [total_sats_nil, Int.add_zero] at hturn
      exact next_pledge_isOk_iff.mpr hturn
    refine ⟨m, hnext, ?_⟩
    rcases next_pledge_spec hnext with ⟨hcovers, -⟩ | ⟨-, hlargest⟩
    · exact clear_of_le (by omega) _
    · -- the largest one goes in front of the largest of the others
      intro front left hleads hfront
      obtain ⟨rest', hfirst⟩ := min_by_key_first hlargest
      rw [Int.add_assoc, ← total_sats_cons] at hfront ⊢
      exact hclear (m :: front) left (.cons hfirst (hfirst.erase ▸ hleads)) hfront
  · rintro ⟨m, hnext, hclear⟩ front left hleads hfront
    cases hleads with
    | nil =>
        rw [total_sats_nil, Int.add_zero]
        exact next_pledge_isOk_iff.mp ⟨m, hnext⟩
    | @cons _ rest' front _ m' hm' hrest =>
        rw [total_sats_cons] at hfront ⊢
        have hnonneg := total_sats_nonneg front
        -- the largest falls short, so no pledge finishes and the turn took the largest
        have hbelow : ∀ x ∈ first :: rest, x.pledge.value_sats < required - total := by
          intro x hx
          have hle := hm'.largest x hx
          omega
        rw [next_pledge_largest hbelow] at hnext
        obtain ⟨rest'', hfirst⟩ := min_by_key_first hnext
        obtain ⟨rfl, -⟩ := hfirst.unique hm'
        rw [← Int.add_assoc] at hfront ⊢
        exact hclear front left (hm'.erase ▸ hrest) hfront

/-- The loop returns exactly when none of its turns meets a clash. The induction is on the
turns. -/
theorem select_loop_isOk_iff {turns : ℕ} {remaining : List PreparedPledge}
    (hlen : remaining.length ≤ turns) (selected : List PreparedPledge) (total required : ℤ) :
    (∃ result, select_loop required turns remaining selected total = .ok result) ↔
      Clear required total remaining := by
  induction turns generalizing remaining selected total with
  | zero =>
      obtain rfl := List.length_eq_zero_iff.mp (Nat.le_zero.mp hlen)
      exact iff_of_true ⟨_, rfl⟩ (clear_nil required total)
  | succ turns ih =>
      cases remaining with
      | nil => exact iff_of_true ⟨_, rfl⟩ (clear_nil required total)
      | cons first rest =>
          by_cases hshort : total < required
          · rw [clear_cons_iff hshort]
            constructor
            · rintro ⟨result, h⟩
              obtain ⟨m, hm, hnext, h⟩ := (select_loop_cons_eq_ok hshort).mp h
              exact ⟨m, hnext, (ih (length_erase_le hm hlen) ..).mp ⟨result, h⟩⟩
            · rintro ⟨m, hnext, hclear⟩
              have hm := next_pledge_mem hnext
              obtain ⟨result, h⟩ := (ih (length_erase_le hm hlen) (selected ++ [m]) _).mpr hclear
              exact ⟨result, (select_loop_cons_eq_ok hshort).mpr ⟨m, hm, hnext, h⟩⟩
          · refine iff_of_true ⟨(selected, total), ?_⟩ (clear_of_le (not_lt.mp hshort) _)
            rw [select_loop, if_neg hshort]
            rfl

theorem select_loop_fails {turns : ℕ} {remaining selected : List PreparedPledge} {total : ℤ}
    {e : PyError} (h : select_loop required turns remaining selected total = .error e) :
    IsTypeError e := by
  induction turns generalizing remaining selected total with
  | zero => cases h
  | succ turns ih =>
      cases remaining with
      | nil => cases h
      | cons first rest =>
          rw [select_loop] at h
          split_ifs at h with hshort
          · cases hnext : next_pledge (required - total) first rest with
            | error e' =>
                rw [hnext] at h
                obtain rfl := Except.error.inj h
                rw [next_pledge] at hnext
                split at hnext
                · exact min_by_key_error hnext
                · exact min_by_key_error hnext
            | ok m =>
                rw [hnext, ok_bind] at h
                exact ih h
          · cases h

/-- **What the loop selects.** Where it reaches the required total it has added a tight cover
of what was missing. The turns that find no pledge to finish with grow the cover, the one
that finds one finishes it. -/
theorem select_loop_tight {turns : ℕ} {remaining selected : List PreparedPledge} {total : ℤ}
    {result : List PreparedPledge × ℤ} (hnodup : remaining.Nodup) (hlen : remaining.length ≤ turns)
    (h : select_loop required turns remaining selected total = .ok result)
    (hreached : required ≤ result.2) :
    ∃ chosen, result.1 = selected ++ chosen ∧
      TightCover (fun x : PreparedPledge => x.pledge.value_sats) (required - total) remaining
        chosen := by
  induction turns generalizing remaining selected total with
  | zero =>
      obtain rfl := Except.ok.inj h
      exact ⟨[], (List.append_nil _).symm, .nil (by simpa using hreached)⟩
  | succ turns ih =>
      cases remaining with
      | nil =>
          obtain rfl := Except.ok.inj h
          exact ⟨[], (List.append_nil _).symm, .nil (by simpa using hreached)⟩
      | cons first rest =>
          by_cases hshort : total < required
          · obtain ⟨m, hm, hnext, h⟩ := (select_loop_cons_eq_ok hshort).mp h
            obtain ⟨chosen, hresult, htight⟩ := ih (hnodup.erase m) (length_erase_le hm hlen) h
            have hamount : 0 < required - total := by omega
            rw [← Int.sub_sub] at htight
            refine ⟨m :: chosen, by rw [hresult, List.append_assoc]; rfl, ?_⟩
            -- a turn that finishes, and one that takes the largest
            rcases next_pledge_spec hnext with ⟨hcovers, hleast⟩ | ⟨hbelow, hlargest⟩
            · obtain rfl := htight.eq_nil (by omega)
              exact .finish hamount hm hcovers hleast
            · obtain ⟨rest', hfirst⟩ := min_by_key_first hlargest
              exact .grow hnodup hamount hm (hbelow m hm) hfirst.largest htight
          · rw [select_loop, if_neg hshort] at h
            obtain rfl := Except.ok.inj h
            exact ⟨[], (List.append_nil _).symm, .nil (by omega)⟩

end

/-! ## The selection -/

/-- The error of a list that is worth too little. -/
def not_enough (total required : ℤ) : PyError :=
  .ValueError s!"Not enough valid pledges. Have {total} sats, need {required} sats."

section

variable {campaign : FundingCampaign} {prepared_pledges : List PreparedPledge} {fee : ℤ}

/-- The loop ends by itself; the selection is refused exactly where the list is worth less than
the required total; otherwise it is a tight cover of the required total, which falls short
without any of its pledges. -/
structure SelectsTightCover (campaign : FundingCampaign) (prepared_pledges : List PreparedPledge)
    (fee : ℤ) : Prop where
  terminates : ∀ turns, prepared_pledges.length ≤ turns →
    select_loop (campaign.asking_price_sats + fee) turns prepared_pledges [] 0 =
      select_loop (campaign.asking_price_sats + fee) prepared_pledges.length prepared_pledges [] 0
  not_enough : select_pledges campaign prepared_pledges fee =
      .error (not_enough (total_sats prepared_pledges) (campaign.asking_price_sats + fee)) ↔
    total_sats prepared_pledges < campaign.asking_price_sats + fee
  selects : campaign.asking_price_sats + fee ≤ total_sats prepared_pledges →
    ∃ selected, select_pledges campaign prepared_pledges fee = .ok selected ∧
      TightCover (fun x : PreparedPledge => x.pledge.value_sats) (campaign.asking_price_sats + fee)
        prepared_pledges selected ∧
      ∀ x ∈ selected, total_sats (selected.erase x) < campaign.asking_price_sats + fee

/-- What comes of a loop that returns. -/
theorem select_pledges_of_loop (hfee : 0 ≤ fee) {result : List PreparedPledge × ℤ}
    (h : select_loop (campaign.asking_price_sats + fee) prepared_pledges.length prepared_pledges
      [] 0 = .ok result) :
    select_pledges campaign prepared_pledges fee =
      if total_sats prepared_pledges < campaign.asking_price_sats + fee then
        .error (FundingService.not_enough (total_sats prepared_pledges)
          (campaign.asking_price_sats + fee))
      else .ok result.1 := by
  obtain ⟨chosen, left, -, hperm, hresult, hstop⟩ := select_loop_run h
  have htotal := total_sats_perm hperm
  rw [total_sats_append] at htotal
  have hleft := total_sats_nonneg left
  rw [select_pledges, if_neg (not_lt.mpr hfee)]
  simp only [h, ok_bind]
  by_cases hshort : result.2 < campaign.asking_price_sats + fee
  -- the loop ended for want of pledges, so the total is that of the list
  · have hnil : left = [] := (hstop le_rfl).resolve_left (not_le.mpr hshort)
    rw [hnil, total_sats_nil] at htotal
    have hall : total_sats prepared_pledges = result.2 := by omega
    rw [if_pos hshort, if_pos (hall ▸ hshort), hall]
    rfl
  · rw [if_neg hshort, if_neg (by omega)]
    rfl

/-- What a turn raises is what the selection raises. -/
theorem select_pledges_of_loop_error (hfee : 0 ≤ fee) {e : PyError}
    (h : select_loop (campaign.asking_price_sats + fee) prepared_pledges.length prepared_pledges
      [] 0 = .error e) : select_pledges campaign prepared_pledges fee = .error e := by
  rw [select_pledges, if_neg (not_lt.mpr hfee)]
  simp only [h]
  rfl

/-- A loop that raises spoils the selection: its error is not that of a small total. -/
theorem SelectsTightCover.loop_isOk (hfee : 0 ≤ fee)
    (h : SelectsTightCover campaign prepared_pledges fee) :
    ∃ result, select_loop (campaign.asking_price_sats + fee) prepared_pledges.length
      prepared_pledges [] 0 = .ok result := by
  cases hloop : select_loop (campaign.asking_price_sats + fee) prepared_pledges.length
      prepared_pledges [] 0 with
  | ok result => exact ⟨result, rfl⟩
  | error e =>
      have hselect := select_pledges_of_loop_error hfee hloop
      rcases lt_or_ge (total_sats prepared_pledges) (campaign.asking_price_sats + fee) with
        hshort | henough
      · obtain ⟨message, rfl⟩ := select_loop_fails hloop
        have hrefused := h.not_enough.mpr hshort
        rw [hselect] at hrefused
        exact nomatch hrefused
      · obtain ⟨selected, hselected, -⟩ := h.selects henough
        rw [hselect] at hselected
        exact nomatch hselected

/-- Where the list is worth enough, the loop does not end before the required total. -/
theorem loop_reaches {result : List PreparedPledge × ℤ}
    (h : select_loop (campaign.asking_price_sats + fee) prepared_pledges.length prepared_pledges
      [] 0 = .ok result)
    (henough : campaign.asking_price_sats + fee ≤ total_sats prepared_pledges) :
    campaign.asking_price_sats + fee ≤ result.2 := by
  obtain ⟨chosen, left, -, hperm, hresult, hstop⟩ := select_loop_run h
  rcases hstop le_rfl with hreached | rfl
  · exact hreached
  · have htotal := total_sats_perm hperm
    rw [List.append_nil] at htotal
    omega

theorem selectsTightCover_of_loop (hfee : 0 ≤ fee) (hnodup : prepared_pledges.Nodup)
    {result : List PreparedPledge × ℤ}
    (h : select_loop (campaign.asking_price_sats + fee) prepared_pledges.length prepared_pledges
      [] 0 = .ok result) : SelectsTightCover campaign prepared_pledges fee := by
  have hselect := select_pledges_of_loop hfee h
  refine ⟨fun turns => select_loop_turns, ?_, fun henough => ?_⟩
  · rw [hselect]
    split_ifs with hshort
    · exact iff_of_true rfl hshort
    · exact iff_of_false (fun h => nomatch h) hshort
  · rw [if_neg (not_lt.mpr henough)] at hselect
    obtain ⟨chosen, hchosen, htight⟩ :=
      select_loop_tight hnodup le_rfl h (loop_reaches h henough)
    rw [Int.sub_zero] at htight
    refine ⟨chosen, by rw [hselect, hchosen, List.nil_append], htight, fun x hx => ?_⟩
    exact htight.irredundant hx

/-- **When the selection is what it should be.** On a list of distinct pledges it is refused
for too small a total or has the fewest pledges and a tight finish, exactly when none of the
turns meets two pledges of one value with timestamps of different kinds: with the largest
pledges gone, as long as they fall short of the required total, what is left does not clash. -/
theorem selects_tight_cover_iff (hfee : 0 ≤ fee) (hnodup : prepared_pledges.Nodup) :
    SelectsTightCover campaign prepared_pledges fee ↔
      ∀ front left, Leads prepared_pledges front left →
        total_sats front < campaign.asking_price_sats + fee →
        ¬ TurnClashes (campaign.asking_price_sats + fee - total_sats front) left := by
  have hiff := select_loop_isOk_iff (le_refl prepared_pledges.length) [] 0
    (campaign.asking_price_sats + fee)
  simp only [Clear, Int.zero_add] at hiff
  rw [← hiff]
  constructor
  · intro h
    exact h.loop_isOk hfee
  · rintro ⟨result, hloop⟩
    exact selectsTightCover_of_loop hfee hnodup hloop

end

end FundingService

/-! ## Two pledges of one value -/

/-- A pledge of 60000 satoshis whose date was written without a time zone. -/
def naivePledge : FundingPledge :=
  { examplePledge 13 true 60000 "cHNidP8D" firstPledge.value_pos incompletePledge.psbt_valid with
    created_at := .naive 1700000001000000 "2023-11-14T22:13:21" }

def preparedFirst : PreparedPledge := ⟨firstPledge, "00"⟩

def preparedSecond : PreparedPledge := ⟨secondPledge, "00"⟩

def preparedNaive : PreparedPledge := ⟨naivePledge, "00"⟩

theorem comparable_two_pledges : FundingService.Comparable [preparedSecond, preparedFirst] := by
  have haware : ∀ x ∈ [preparedSecond, preparedFirst], x.pledge.created_at.kind = .aware := by
    simp [preparedSecond, preparedFirst, secondPledge, firstPledge, examplePledge, CreatedAt.kind]
  intro a ha b hb _
  rw [haware a ha, haware b hb]

/-- One turn takes the larger pledge and the next one the other. -/
theorem selects_tight_cover_two_pledges :
    FundingService.SelectsTightCover exampleCampaign [preparedSecond, preparedFirst] 0 := by
  refine (FundingService.selects_tight_cover_iff le_rfl
    (.of_map (fun x => x.pledge.id) (by decide))).mpr fun front left hleads _ => ?_
  exact (comparable_two_pledges.subset hleads.subset).not_turnClashes

/-- Two pledges of one value, one dated with a time zone and one without, are worth more than
the campaign asks for; nothing is selected, and the error is not that of too small a total. -/
theorem selection_fails_on_naive_date : [preparedFirst, preparedNaive].Nodup ∧
    ¬ FundingService.SelectsTightCover exampleCampaign [preparedFirst, preparedNaive] 0 := by
  refine ⟨.of_map (fun x => x.pledge.id) (by decide), fun h => ?_⟩
  obtain ⟨selected, hselected, -⟩ := h.selects (by decide)
  have hrun : FundingService.select_pledges exampleCampaign [preparedFirst, preparedNaive] 0 =
      .error (.TypeError "can't compare offset-naive and offset-aware datetimes") := rfl
  rw [hrun] at hselected
  cases hselected

end Superorganism.Funding

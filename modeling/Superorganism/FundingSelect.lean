/-
The selection loop of `_select_pledges`.

`min` compares keys, and two keys can be compared unless they start with the same
amount and their timestamps are of different kinds (`key_lt_isOk`). What the loop
needs is therefore that pledges of the same value have timestamps of one kind
(`Comparable`).

Under it the loop returns (`select_loop_isOk`). What it returns is always part of what
it was given, each pledge at most once, and it stops short of the required total only
when everything is selected (`select_loop_run`). When everything is needed, the loop
takes the pledges one by one in order of value, so a pair that cannot be compared is
met and the loop raises (`select_loop_error`).
-/
import Mathlib.Algebra.BigOperators.Group.List.Basic
import Superorganism.FundingService

set_option autoImplicit false

open Superorganism.Py

namespace Superorganism.Funding

/-! ## Comparing keys -/

/-- The three kinds of `created_at` values. -/
inductive TimeKind where
  | naive
  | aware
  | text
deriving DecidableEq

def CreatedAt.kind : CreatedAt → TimeKind
  | .naive _ _ => .naive
  | .aware _ _ => .aware
  | .text _ => .text

theorem CreatedAt.lt_isOk (a b : CreatedAt) : (∃ r, a.lt b = .ok r) ↔ a.kind = b.kind := by
  cases a <;> cases b <;> simp [CreatedAt.lt, CreatedAt.kind, pure, Except.pure, throw, throwThe,
    MonadExceptOf.throw]

theorem CreatedAt.kind_of_eq {a b : CreatedAt} (h : a.eq b = true) : a.kind = b.kind := by
  cases a <;> cases b <;> simp [CreatedAt.eq, CreatedAt.kind] at h ⊢

namespace FundingService

/-- Two keys can be compared unless they agree on the amount and not on the kind of
timestamp. -/
theorem key_lt_isOk (a b : SelectionKey) :
    (∃ r, key_lt a b = .ok r) ↔ (a.1 = b.1 → a.2.1.kind = b.2.1.kind) := by
  rw [key_lt]
  split_ifs with h1 h2 h3
  · exact ⟨fun _ h => absurd h h1, fun _ => ⟨_, rfl⟩⟩
  · rw [CreatedAt.lt_isOk]
    exact ⟨fun h _ => h, fun h => h (not_not.mp h1)⟩
  · exact ⟨fun _ _ => CreatedAt.kind_of_eq (by simpa using h2), fun _ => ⟨_, rfl⟩⟩
  · exact ⟨fun _ _ => CreatedAt.kind_of_eq (by simpa using h2), fun _ => ⟨_, rfl⟩⟩

/-- The first field of a smaller key is no larger. -/
theorem key_lt_true {a b : SelectionKey} (h : key_lt a b = .ok true) : a.1 ≤ b.1 := by
  rw [key_lt] at h
  split_ifs at h with h1
  · exact (of_decide_eq_true (Except.ok.inj h)).le
  all_goals exact (not_not.mp h1).le

theorem key_lt_false {a b : SelectionKey} (h : key_lt a b = .ok false) : b.1 ≤ a.1 := by
  rw [key_lt] at h
  split_ifs at h with h1
  · exact not_lt.mp (of_decide_eq_false (Except.ok.inj h))
  all_goals exact (not_not.mp h1).ge

/-! ## `min` -/

section

variable {key : PreparedPledge → SelectionKey}

/-- Items with the same amount have timestamps of one kind. -/
def ComparableBy (key : PreparedPledge → SelectionKey) (items : List PreparedPledge) : Prop :=
  ∀ a ∈ items, ∀ b ∈ items, (key a).1 = (key b).1 → (key a).2.1.kind = (key b).2.1.kind

/-- One step of `min`: it keeps the new item or the best one so far. -/
theorem min_by_key_cons_eq_ok {best item m : PreparedPledge} {items : List PreparedPledge} :
    min_by_key key best (item :: items) = .ok m ↔
      (key_lt (key item) (key best) = .ok true ∧ min_by_key key item items = .ok m) ∨
        (key_lt (key item) (key best) = .ok false ∧ min_by_key key best items = .ok m) := by
  rw [min_by_key, bind_eq_ok]
  constructor
  · rintro ⟨r, hr, h⟩
    cases r with
    | true => exact .inl ⟨hr, by simpa using h⟩
    | false => exact .inr ⟨hr, by simpa using h⟩
  · rintro (⟨hr, h⟩ | ⟨hr, h⟩)
    · exact ⟨true, hr, by simpa using h⟩
    · exact ⟨false, hr, by simpa using h⟩

/-- `min` returns one of the items, and no item has a smaller amount in its key. -/
theorem min_by_key_spec {best m : PreparedPledge} {items : List PreparedPledge}
    (h : min_by_key key best items = .ok m) :
    m ∈ best :: items ∧ ∀ x ∈ best :: items, (key m).1 ≤ (key x).1 := by
  induction items generalizing best with
  | nil =>
      obtain rfl := Except.ok.inj h
      simp
  | cons item items ih =>
      rcases min_by_key_cons_eq_ok.mp h with ⟨hr, h⟩ | ⟨hr, h⟩
      · obtain ⟨hmem, hle⟩ := ih h
        refine ⟨List.mem_cons_of_mem _ hmem, fun x hx => ?_⟩
        rcases List.mem_cons.mp hx with rfl | hx
        · exact (hle item List.mem_cons_self).trans (key_lt_true hr)
        · exact hle x hx
      · obtain ⟨hmem, hle⟩ := ih h
        refine ⟨?_, fun x hx => ?_⟩
        · rcases List.mem_cons.mp hmem with rfl | hmem
          · exact List.mem_cons_self
          · exact List.mem_cons_of_mem _ (List.mem_cons_of_mem _ hmem)
        · rcases List.mem_cons.mp hx with rfl | hx
          · exact hle _ List.mem_cons_self
          · rcases List.mem_cons.mp hx with rfl | hx
            · exact (hle best List.mem_cons_self).trans (key_lt_false hr)
            · exact hle x (List.mem_cons_of_mem _ hx)

theorem min_by_key_isOk {best : PreparedPledge} {items : List PreparedPledge}
    (h : ComparableBy key (best :: items)) : ∃ m, min_by_key key best items = .ok m := by
  induction items generalizing best with
  | nil => exact ⟨best, rfl⟩
  | cons item items ih =>
      have hsub : ∀ x ∈ [best, item], ComparableBy key (x :: items) := by
        intro x hx a ha b hb
        have hmem : ∀ y ∈ x :: items, y ∈ best :: item :: items := by
          intro y hy
          rcases List.mem_cons.mp hy with rfl | hy
          · exact List.mem_append_left items hx
          · exact List.mem_cons_of_mem _ (List.mem_cons_of_mem _ hy)
        exact h a (hmem a ha) b (hmem b hb)
      obtain ⟨r, hr⟩ := (key_lt_isOk _ _).mpr (h item (by simp) best (by simp))
      cases r with
      | true =>
          obtain ⟨m, hm⟩ := ih (hsub item (by simp))
          exact ⟨m, min_by_key_cons_eq_ok.mpr (.inl ⟨hr, hm⟩)⟩
      | false =>
          obtain ⟨m, hm⟩ := ih (hsub best (by simp))
          exact ⟨m, min_by_key_cons_eq_ok.mpr (.inr ⟨hr, hm⟩)⟩

/-- When `min` returns, the items of the smallest amount all have the kind of timestamp of
the one it returns: each was compared with one of them. -/
theorem min_by_key_kind {best m : PreparedPledge} {items : List PreparedPledge}
    (h : min_by_key key best items = .ok m) :
    ∀ x ∈ best :: items, (key x).1 = (key m).1 → (key x).2.1.kind = (key m).2.1.kind := by
  induction items generalizing best with
  | nil =>
      obtain rfl := Except.ok.inj h
      simp
  | cons item items ih =>
      have hstep : (key item).1 = (key best).1 → (key item).2.1.kind = (key best).2.1.kind := by
        rw [← key_lt_isOk]
        rcases min_by_key_cons_eq_ok.mp h with ⟨hr, -⟩ | ⟨hr, -⟩
        · exact ⟨_, hr⟩
        · exact ⟨_, hr⟩
      intro x hx hxm
      rcases min_by_key_cons_eq_ok.mp h with ⟨hr, hrec⟩ | ⟨hr, hrec⟩
      · rcases List.mem_cons.mp hx with rfl | hx
        · -- `best` was dropped for `item`: both amounts are the smallest one
          have hle := (min_by_key_spec hrec).2 item List.mem_cons_self
          have hitem : (key item).1 = (key m).1 := by
            have := key_lt_true hr
            omega
          rw [← hstep (hitem.trans hxm.symm)]
          exact ih hrec item List.mem_cons_self hitem
        · exact ih hrec x hx hxm
      · rcases List.mem_cons.mp hx with rfl | hx
        · exact ih hrec _ List.mem_cons_self hxm
        · rcases List.mem_cons.mp hx with rfl | hx
          · have hle := (min_by_key_spec hrec).2 best List.mem_cons_self
            have hbest : (key best).1 = (key m).1 := by
              have := key_lt_false hr
              omega
            rw [hstep (hxm.trans hbest.symm)]
            exact ih hrec best List.mem_cons_self hbest
          · exact ih hrec x (List.mem_cons_of_mem _ hx) hxm

end

/-! ## The next pledge -/

/-- Pledges of the same value have timestamps of one kind. -/
def Comparable (items : List PreparedPledge) : Prop :=
  ∀ a ∈ items, ∀ b ∈ items, a.pledge.value_sats = b.pledge.value_sats →
    a.pledge.created_at.kind = b.pledge.created_at.kind

theorem Comparable.subset {items items' : List PreparedPledge} (h : Comparable items)
    (hsub : ∀ x ∈ items', x ∈ items) : Comparable items' :=
  fun a ha b hb => h a (hsub a ha) b (hsub b hb)

theorem Comparable.smallest {items : List PreparedPledge} (h : Comparable items) :
    ComparableBy prepared_pledge_smallest_first_key items :=
  fun a ha b hb hab => h a ha b hb hab

theorem Comparable.largest {items : List PreparedPledge} (h : Comparable items) :
    ComparableBy prepared_pledge_largest_first_key items :=
  fun a ha b hb hab => h a ha b hb (neg_inj.mp hab)

section

variable {shortfall : ℤ} {first m : PreparedPledge} {rest : List PreparedPledge}

theorem mem_finishing_pledges {items : List PreparedPledge} {x : PreparedPledge}
    (h : x ∈ finishing_pledges shortfall items) : x ∈ items :=
  List.mem_of_mem_filter h

theorem next_pledge_mem (h : next_pledge shortfall first rest = .ok m) : m ∈ first :: rest := by
  rw [next_pledge] at h
  split at h
  · rename_i best finishing hfin
    have hmem := (min_by_key_spec h).1
    rw [← hfin] at hmem
    exact mem_finishing_pledges hmem
  · exact (min_by_key_spec h).1

theorem next_pledge_isOk (h : Comparable (first :: rest)) :
    ∃ m, next_pledge shortfall first rest = .ok m := by
  rw [next_pledge]
  split
  · rename_i best finishing hfin
    refine min_by_key_isOk (h.subset fun x hx => ?_).smallest
    rw [← hfin] at hx
    exact mem_finishing_pledges hx
  · exact min_by_key_isOk h.largest

/-- When no pledge covers the shortfall alone, the largest is next. -/
theorem next_pledge_largest (h : ∀ x ∈ first :: rest, x.pledge.value_sats < shortfall) :
    next_pledge shortfall first rest = min_by_key prepared_pledge_largest_first_key first rest := by
  have hnil : finishing_pledges shortfall (first :: rest) = [] := by
    refine List.filter_eq_nil_iff.mpr fun x hx => ?_
    rw [decide_eq_true_eq]
    exact not_le.mpr (h x hx)
  rw [next_pledge, hnil]

end

/-! ## Totals -/

theorem total_sats_perm {a b : List PreparedPledge} (h : a.Perm b) : total_sats a = total_sats b :=
  (h.map _).sum_eq

@[simp] theorem total_sats_nil : total_sats [] = 0 := rfl

@[simp] theorem total_sats_cons (x : PreparedPledge) (items : List PreparedPledge) :
    total_sats (x :: items) = x.pledge.value_sats + total_sats items := by
  rw [total_sats, total_sats, List.map_cons, List.sum_cons]

@[simp] theorem total_sats_append (a b : List PreparedPledge) :
    total_sats (a ++ b) = total_sats a + total_sats b := by
  rw [total_sats, total_sats, total_sats, List.map_append, List.sum_append]

theorem total_sats_erase {x : PreparedPledge} {items : List PreparedPledge} (h : x ∈ items) :
    total_sats items = x.pledge.value_sats + total_sats (items.erase x) := by
  rw [total_sats_perm (List.perm_cons_erase h), total_sats_cons]

theorem total_sats_nonneg (items : List PreparedPledge) : 0 ≤ total_sats items := by
  induction items with
  | nil => exact le_rfl
  | cons x items ih =>
      rw [total_sats_cons]
      have := x.pledge.value_pos
      omega

/-- One of two different pledges is worth less than all of them. -/
theorem value_lt_total {items : List PreparedPledge} {x y : PreparedPledge} (hx : x ∈ items)
    (hy : y ∈ items) (hne : y ≠ x) : x.pledge.value_sats < total_sats items := by
  have hy' : y ∈ items.erase x := (List.mem_erase_of_ne hne).mpr hy
  rw [total_sats_erase hx, total_sats_erase hy']
  have := y.pledge.value_pos
  have := total_sats_nonneg ((items.erase x).erase y)
  omega

/-! ## The loop -/

section

variable {required : ℤ}

/-- One turn of the loop that is not the last. -/
theorem select_loop_cons_eq_ok {turns : ℕ} {first : PreparedPledge}
    {rest selected : List PreparedPledge} {total : ℤ} {result : List PreparedPledge × ℤ}
    (hshort : total < required) :
    select_loop required (turns + 1) (first :: rest) selected total = .ok result ↔
      ∃ m ∈ first :: rest, next_pledge (required - total) first rest = .ok m ∧
        select_loop required turns ((first :: rest).erase m) (selected ++ [m])
          (total + m.pledge.value_sats) = .ok result := by
  rw [select_loop, if_pos hshort, bind_eq_ok]
  constructor
  · rintro ⟨m, hm, h⟩
    exact ⟨m, next_pledge_mem hm, hm, h⟩
  · rintro ⟨m, -, hm, h⟩
    exact ⟨m, hm, h⟩

/-- **The loop.** It appends some of what it was given, counts its value, and stops below
the required total only when nothing is left. -/
theorem select_loop_run {turns : ℕ} {remaining selected : List PreparedPledge} {total : ℤ}
    {result : List PreparedPledge × ℤ}
    (h : select_loop required turns remaining selected total = .ok result) :
    ∃ chosen left, result.1 = selected ++ chosen ∧ (chosen ++ left).Perm remaining ∧
      result.2 = total + total_sats chosen ∧
      (remaining.length ≤ turns → required ≤ result.2 ∨ left = []) := by
  induction turns generalizing remaining selected total with
  | zero =>
      obtain rfl := Except.ok.inj h
      exact ⟨[], remaining, by simp, .refl _, by simp, fun hlen =>
        .inr (List.length_eq_zero_iff.mp (Nat.le_zero.mp hlen))⟩
  | succ turns ih =>
      cases remaining with
      | nil =>
          obtain rfl := Except.ok.inj h
          exact ⟨[], [], by simp, .refl _, by simp, fun _ => .inr rfl⟩
      | cons first rest =>
          by_cases hshort : total < required
          · -- the pledge chosen leaves `remaining` and goes to the front of the later choice
            obtain ⟨m, hm, -, h⟩ := (select_loop_cons_eq_ok hshort).mp h
            obtain ⟨chosen, left, hsel, hperm, htotal, hstop⟩ := ih h
            refine ⟨m :: chosen, left, ?_, ?_, ?_, fun hlen => hstop ?_⟩
            · rw [hsel, List.append_assoc]
              rfl
            · exact (hperm.cons m).trans (List.perm_cons_erase hm).symm
            · rw [htotal, total_sats_cons]
              omega
            · rw [List.length_erase_of_mem hm]
              omega
          · rw [select_loop, if_neg hshort] at h
            obtain rfl := Except.ok.inj h
            exact ⟨[], first :: rest, by simp, .refl _, by simp, fun _ => .inl (not_lt.mp hshort)⟩

theorem select_loop_isOk {turns : ℕ} {remaining selected : List PreparedPledge} {total : ℤ}
    (h : Comparable remaining) :
    ∃ result, select_loop required turns remaining selected total = .ok result := by
  induction turns generalizing remaining selected total with
  | zero => exact ⟨_, rfl⟩
  | succ turns ih =>
      cases remaining with
      | nil => exact ⟨_, rfl⟩
      | cons first rest =>
          by_cases hshort : total < required
          · have hnext : ∃ m, next_pledge (required - total) first rest = .ok m :=
              next_pledge_isOk h
            obtain ⟨m, hm⟩ := hnext
            have hcomp : Comparable ((first :: rest).erase m) :=
              h.subset fun x hx => List.mem_of_mem_erase (a := x) (b := m) hx
            have hrest : ∃ result, select_loop required turns ((first :: rest).erase m)
                (selected ++ [m]) (total + m.pledge.value_sats) = .ok result := ih hcomp
            obtain ⟨result, hresult⟩ := hrest
            exact ⟨result, (select_loop_cons_eq_ok hshort).mpr ⟨m, next_pledge_mem hm, hm, hresult⟩⟩
          · exact ⟨_, by rw [select_loop, if_neg hshort]; rfl⟩

/-- When every pledge is needed, two of one value that cannot be compared make the loop
raise. The induction is on the turns: the pledges are taken in order of value, so the two
stay until their value is the largest left, and then `min` compares timestamps of both
kinds. -/
theorem select_loop_error {turns : ℕ} {remaining selected : List PreparedPledge} {total : ℤ}
    (hlen : remaining.length ≤ turns) (hall : required = total + total_sats remaining)
    {x y : PreparedPledge} (hx : x ∈ remaining) (hy : y ∈ remaining)
    (hvalue : x.pledge.value_sats = y.pledge.value_sats)
    (hkind : x.pledge.created_at.kind ≠ y.pledge.created_at.kind)
    {result : List PreparedPledge × ℤ} :
    select_loop required turns remaining selected total ≠ .ok result := by
  have hxy : x ≠ y := fun h => hkind (by rw [h])
  induction turns generalizing remaining selected total with
  | zero =>
      obtain rfl := List.length_eq_zero_iff.mp (Nat.le_zero.mp hlen)
      exact absurd hx List.not_mem_nil
  | succ turns ih =>
      cases remaining with
      | nil => exact absurd hx List.not_mem_nil
      | cons first rest =>
          have hbelow : ∀ z ∈ first :: rest, z.pledge.value_sats < required - total := by
            intro z hz
            have hother : ∃ w ∈ first :: rest, w ≠ z := by
              by_cases hzx : x = z
              · exact ⟨y, hy, fun h => hxy (hzx.trans h.symm)⟩
              · exact ⟨x, hx, hzx⟩
            obtain ⟨w, hw, hwz⟩ := hother
            have := value_lt_total hz hw hwz
            omega
          have hshort : total < required := by
            have := hbelow x hx
            have := x.pledge.value_pos
            omega
          intro h
          obtain ⟨m, hm, hnext, h⟩ := (select_loop_cons_eq_ok hshort).mp h
          rw [next_pledge_largest hbelow] at hnext
          have hmax := (min_by_key_spec hnext).2
          have hone := min_by_key_kind hnext
          -- the two are not among the largest, and stay
          have hxm : x.pledge.value_sats ≠ m.pledge.value_sats := by
            intro heq
            have h1 := hone x hx (neg_inj.mpr heq)
            have h2 := hone y hy (neg_inj.mpr (hvalue.symm.trans heq))
            exact hkind (h1.trans h2.symm)
          have hstay : ∀ z ∈ first :: rest, z.pledge.value_sats = x.pledge.value_sats →
              z ∈ (first :: rest).erase m := by
            intro z hz hzx
            refine (List.mem_erase_of_ne fun hzm => hxm ?_).mpr hz
            rw [← hzx, hzm]
          refine ih ?_ ?_ (hstay x hx rfl) (hstay y hy hvalue.symm) h
          · rw [List.length_erase_of_mem hm]
            omega
          · rw [hall, total_sats_erase hm]
            omega

end

/-! ## The selection -/

section

variable {campaign : FundingCampaign} {prepared_pledges selected : List PreparedPledge} {fee : ℤ}

/-- What is selected is part of what was given and reaches the required total. -/
theorem select_pledges_eq_ok (h : select_pledges campaign prepared_pledges fee = .ok selected) :
    ∃ left, (selected ++ left).Perm prepared_pledges ∧
      campaign.asking_price_sats + fee ≤ total_sats selected := by
  rw [select_pledges] at h
  split_ifs at h with hfee
  obtain ⟨result, hloop, h⟩ := bind_eq_ok.mp h
  obtain ⟨chosen, left, hsel, hperm, htotal, -⟩ := select_loop_run hloop
  split_ifs at h with hshort
  obtain rfl := Except.ok.inj h
  rw [hsel, List.nil_append]
  exact ⟨left, hperm, by omega⟩

/-- Enough comparable pledges give a selection. -/
theorem select_pledges_isOk (hfee : 0 ≤ fee) (hcomp : Comparable prepared_pledges)
    (htotal : campaign.asking_price_sats + fee ≤ total_sats prepared_pledges) :
    ∃ selected, select_pledges campaign prepared_pledges fee = .ok selected := by
  have hruns : ∃ result, select_loop (campaign.asking_price_sats + fee) prepared_pledges.length
      prepared_pledges [] 0 = .ok result := select_loop_isOk hcomp
  obtain ⟨result, hloop⟩ := hruns
  obtain ⟨chosen, left, -, hperm, hresult, hstop⟩ := select_loop_run hloop
  have hreached : ¬ result.2 < campaign.asking_price_sats + fee := by
    rcases hstop le_rfl with h | rfl
    · omega
    · rw [List.append_nil] at hperm
      have := total_sats_perm hperm
      omega
  refine ⟨result.1, ?_⟩
  rw [select_pledges, if_neg (not_lt.mpr hfee)]
  simp only [hloop, ok_bind, if_neg hreached]
  rfl

/-- When every pledge is needed, pledges that cannot be compared leave no selection. -/
theorem select_pledges_error
    (hall : campaign.asking_price_sats + fee = total_sats prepared_pledges)
    (hcomp : ¬ Comparable prepared_pledges) :
    select_pledges campaign prepared_pledges fee ≠ .ok selected := by
  intro h
  rw [Comparable] at hcomp
  push Not at hcomp
  obtain ⟨x, hx, y, hy, hvalue, hkind⟩ := hcomp
  rw [select_pledges] at h
  split_ifs at h with hfee
  obtain ⟨result, hloop, -⟩ := bind_eq_ok.mp h
  exact select_loop_error le_rfl (by omega) hx hy hvalue hkind hloop

end

end FundingService

end Superorganism.Funding

/-
The order in which `_select_pledges` is given the pledges.

The keys end in transaction id and output index, and no two pledges of a campaign agree on
both, so no two have the same key: as long as every comparison can be made there is one
smallest pledge, wherever it stands in the list. A pair that cannot be compared is another
matter. `min` comes to compare it in some orders and not in others, so what counts is
whether there is such a pair among the pledges of the first turn (`turn_pledges`); the later
turns see fewer.
-/
import Superorganism.FundingOptimal

set_option autoImplicit false

open Superorganism.Py

namespace Superorganism.Funding

namespace FundingService

/-- The output a prepared pledge spends. -/
def spends (prepared : PreparedPledge) : String × ℤ := (prepared.pledge.txid, prepared.pledge.vout)

/-- What a turn takes the minimum of: the pledges that cover the shortfall, or all if none
does. -/
def turn_pledges (shortfall : ℤ) (remaining : List PreparedPledge) : List PreparedPledge :=
  if finishing_pledges shortfall remaining = [] then remaining
  else finishing_pledges shortfall remaining

theorem finishing_pledges_perm (shortfall : ℤ) {items items' : List PreparedPledge}
    (h : items.Perm items') :
    (finishing_pledges shortfall items).Perm (finishing_pledges shortfall items') :=
  h.filter _

theorem turn_pledges_perm (shortfall : ℤ) {items items' : List PreparedPledge}
    (h : items.Perm items') :
    (turn_pledges shortfall items).Perm (turn_pledges shortfall items') := by
  have hfin := finishing_pledges_perm shortfall h
  have hnil : finishing_pledges shortfall items = [] ↔ finishing_pledges shortfall items' = [] := by
    rw [← List.length_eq_zero_iff, ← List.length_eq_zero_iff, hfin.length_eq]
  rw [turn_pledges, turn_pledges]
  by_cases hempty : finishing_pledges shortfall items = []
  · rwa [if_pos hempty, if_pos (hnil.mp hempty)]
  · rwa [if_neg hempty, if_neg (mt hnil.mpr hempty)]

theorem mem_of_mem_turn_pledges {shortfall : ℤ} {items : List PreparedPledge} {x : PreparedPledge}
    (h : x ∈ turn_pledges shortfall items) : x ∈ items := by
  rw [turn_pledges] at h
  split_ifs at h
  · exact h
  · exact mem_finishing_pledges h

/-! ## One smallest pledge -/

section

variable {key : PreparedPledge → SelectionKey} {items rest : List PreparedPledge}

/-- The key ends in the output that is spent. -/
def EndsInOutput (key : PreparedPledge → SelectionKey) : Prop := ∀ x, (key x).2.2 = spends x

theorem endsInOutput_smallest : EndsInOutput prepared_pledge_smallest_first_key := fun _ => rfl

theorem endsInOutput_largest : EndsInOutput prepared_pledge_largest_first_key := fun _ => rfl

theorem FirstLeast.rank_le {m : PreparedPledge} (h : FirstLeast key items m rest) :
    ∀ x ∈ items, key_rank (key m) ≤ key_rank (key x) := by
  obtain ⟨before, after, rfl, -, hbefore, hafter⟩ := h
  intro x hx
  rcases List.mem_append.mp hx with hx | hx
  · exact (of_decide_eq_true (key_lt_eq_ok.mp (hbefore x hx)).2.symm).le
  · rcases List.mem_cons.mp hx with rfl | hx
    · exact le_rfl
    · exact not_lt.mp (of_decide_eq_false (key_lt_eq_ok.mp (hafter x hx)).2.symm)

theorem spends_of_rank (hkey : EndsInOutput key) {x y : PreparedPledge}
    (h : key_rank (key x) = key_rank (key y)) : spends x = spends y := by
  simp only [key_rank, toLex_inj, Prod.mk.injEq] at h
  rw [← hkey x, ← hkey y]
  exact Prod.ext h.2.2.1 h.2.2.2

/-- Pledges of different outputs that can be compared have one smallest key, in any order. -/
theorem min_by_key_perm {best best' : PreparedPledge} {items items' : List PreparedPledge}
    (hkey : EndsInOutput key) (hperm : (best :: items).Perm (best' :: items'))
    (hdistinct : ((best :: items).map spends).Nodup) (hcomp : ComparableBy key (best :: items)) :
    min_by_key key best items = min_by_key key best' items' := by
  obtain ⟨m, hm⟩ := min_by_key_isOk hcomp
  have hcomp' : ComparableBy key (best' :: items') := fun a ha b hb =>
    hcomp a (hperm.mem_iff.mpr ha) b (hperm.mem_iff.mpr hb)
  obtain ⟨m', hm'⟩ := min_by_key_isOk hcomp'
  have hmem := (min_by_key_spec hm).1
  have hmem' := hperm.mem_iff.mpr (min_by_key_spec hm').1
  obtain ⟨rest, hfirst⟩ := min_by_key_first hm
  obtain ⟨rest', hfirst'⟩ := min_by_key_first hm'
  have hrank : key_rank (key m) = key_rank (key m') :=
    le_antisymm (hfirst.rank_le m' hmem') (hfirst'.rank_le m (hperm.mem_iff.mp hmem))
  rw [hm, hm', List.inj_on_of_nodup_map hdistinct hmem hmem' (spends_of_rank hkey hrank)]

end

/-! ## The turns in another order -/

section

variable {first first' : PreparedPledge} {rest rest' remaining remaining' : List PreparedPledge}

theorem next_pledge_perm {shortfall : ℤ} (hperm : (first :: rest).Perm (first' :: rest'))
    (hdistinct : ((first :: rest).map spends).Nodup)
    (hcomp : Comparable (turn_pledges shortfall (first :: rest))) :
    next_pledge shortfall first rest = next_pledge shortfall first' rest' := by
  have hfin := finishing_pledges_perm shortfall hperm
  rw [turn_pledges] at hcomp
  rw [next_pledge, next_pledge]
  cases hf : finishing_pledges shortfall (first :: rest) with
  | nil =>
      rw [hf] at hfin hcomp
      rw [if_pos rfl] at hcomp
      rw [List.nil_perm.mp hfin]
      exact min_by_key_perm endsInOutput_largest hperm hdistinct hcomp.largest
  | cons best finishing =>
      have hsub : ((best :: finishing).map spends).Nodup := by
        rw [← hf]
        exact hdistinct.sublist (List.filter_sublist.map spends)
      rw [hf] at hfin hcomp
      rw [if_neg (List.cons_ne_nil _ _)] at hcomp
      cases hf' : finishing_pledges shortfall (first' :: rest') with
      | nil =>
          rw [hf'] at hfin
          exact absurd (List.perm_nil.mp hfin) (List.cons_ne_nil _ _)
      | cons best' finishing' =>
          rw [hf'] at hfin
          exact min_by_key_perm endsInOutput_smallest hfin hsub hcomp.smallest

theorem next_pledge_isOk_of_turn {shortfall : ℤ}
    (hcomp : Comparable (turn_pledges shortfall (first :: rest))) :
    ∃ m, next_pledge shortfall first rest = .ok m := by
  rw [turn_pledges] at hcomp
  rw [next_pledge]
  cases hf : finishing_pledges shortfall (first :: rest) with
  | nil =>
      rw [hf, if_pos rfl] at hcomp
      exact min_by_key_isOk hcomp.largest
  | cons best finishing =>
      rw [hf, if_neg (List.cons_ne_nil _ _)] at hcomp
      exact min_by_key_isOk hcomp.smallest

/-- The loop does the same on a list in another order. A turn that finishes is the last one; a
turn that does not looks at all pledges, and leaves fewer of them. -/
theorem select_loop_perm {required : ℤ} (turns : ℕ) {selected : List PreparedPledge} {total : ℤ}
    (hperm : remaining.Perm remaining') (hdistinct : (remaining.map spends).Nodup)
    (hcomp : required ≤ total ∨ Comparable (turn_pledges (required - total) remaining)) :
    select_loop required turns remaining selected total =
        select_loop required turns remaining' selected total ∧
      ∃ result, select_loop required turns remaining selected total = .ok result := by
  induction turns generalizing remaining remaining' selected total with
  | zero => exact ⟨rfl, _, rfl⟩
  | succ turns ih =>
      cases remaining with
      | nil =>
          rw [List.nil_perm.mp hperm]
          exact ⟨rfl, _, rfl⟩
      | cons first rest =>
          cases remaining' with
          | nil => exact absurd hperm.length_eq (by simp)
          | cons first' rest' =>
              by_cases hshort : total < required
              · have hcomp := hcomp.resolve_left (not_le.mpr hshort)
                obtain ⟨m, hm⟩ := next_pledge_isOk_of_turn hcomp
                have hm' := hm
                rw [next_pledge_perm hperm hdistinct hcomp] at hm'
                rw [select_loop, select_loop, if_pos hshort, if_pos hshort, hm, hm', ok_bind, ok_bind]
                refine ih (hperm.erase m) (hdistinct.sublist (List.erase_sublist.map spends)) ?_
                -- the turn finishes, or it looked at all pledges and the next one looks at fewer
                rcases next_pledge_spec hm with ⟨hcovers, -⟩ | ⟨hbelow, -⟩
                · exact .inl (by omega)
                · have hnil : finishing_pledges (required - total) (first :: rest) = [] := by
                    refine List.filter_eq_nil_iff.mpr fun x hx => ?_
                    rw [decide_eq_true_eq]
                    exact not_le.mpr (hbelow x hx)
                  rw [turn_pledges, if_pos hnil] at hcomp
                  exact .inr (hcomp.subset fun x hx =>
                    List.mem_of_mem_erase (mem_of_mem_turn_pledges hx))
              · rw [select_loop, select_loop, if_neg hshort, if_neg hshort]
                exact ⟨rfl, _, rfl⟩

/-- Two pledges that a turn cannot compare make it raise when they come first. -/
theorem turnClashes_of_first {shortfall : ℤ} {x y : PreparedPledge}
    (hx : x ∈ turn_pledges shortfall (x :: y :: rest))
    (hy : y ∈ turn_pledges shortfall (x :: y :: rest))
    (hvalue : x.pledge.value_sats = y.pledge.value_sats)
    (hkind : x.pledge.created_at.kind ≠ y.pledge.created_at.kind) :
    TurnClashes shortfall (x :: y :: rest) := by
  rw [turn_pledges] at hx hy
  rw [TurnClashes]
  split
  -- none covers the shortfall: the largest is taken, among all pledges
  · exact ⟨[x], x, y, rest, rfl, by simp, neg_inj.mpr hvalue, hkind, by simp⟩
  -- the two stand in front among those that cover it as well
  · rename_i hne
    rw [if_neg hne] at hx hy
    have hsplit : finishing_pledges shortfall (x :: y :: rest) =
        [x] ++ y :: finishing_pledges shortfall rest := by
      rw [finishing_pledges] at hx hy
      have hxs : decide (x.pledge.value_sats ≥ shortfall) = true := (List.mem_filter.mp hx).2
      have hys : decide (y.pledge.value_sats ≥ shortfall) = true := (List.mem_filter.mp hy).2
      rw [finishing_pledges, List.filter_cons, if_pos hxs, List.filter_cons, if_pos hys]
      rfl
    exact ⟨[x], x, y, _, hsplit, by simp, hvalue, hkind, by simp⟩

end

/-! ## The selection in any order -/

section

variable {campaign : FundingCampaign} {prepared_pledges : List PreparedPledge} {fee : ℤ}

/-- Every order of the list has the same outcome, and that is a selection or the error of a
list that is worth too little. -/
structure IgnoresOrder (campaign : FundingCampaign) (prepared_pledges : List PreparedPledge)
    (fee : ℤ) : Prop where
  same : ∀ reordered, reordered.Perm prepared_pledges →
    select_pledges campaign reordered fee = select_pledges campaign prepared_pledges fee
  clean : (∃ selected, select_pledges campaign prepared_pledges fee = .ok selected) ∨
    select_pledges campaign prepared_pledges fee =
      .error (not_enough (total_sats prepared_pledges) (campaign.asking_price_sats + fee))

/-- An order that puts two pledges of the first turn first which it cannot compare is an order
with a `TypeError`. -/
theorem IgnoresOrder.same_kind (hfee : 0 ≤ fee) (h : IgnoresOrder campaign prepared_pledges fee)
    (hpos : 0 < campaign.asking_price_sats + fee) {x y : PreparedPledge}
    (hx : x ∈ turn_pledges (campaign.asking_price_sats + fee) prepared_pledges)
    (hy : y ∈ turn_pledges (campaign.asking_price_sats + fee) prepared_pledges)
    (hvalue : x.pledge.value_sats = y.pledge.value_sats) :
    x.pledge.created_at.kind = y.pledge.created_at.kind := by
  by_contra hkind
  have hxy : y ≠ x := fun h => hkind (by rw [h])
  -- the two in front
  let reordered := x :: y :: (prepared_pledges.erase x).erase y
  have hperm : reordered.Perm prepared_pledges := by
    have hymem : y ∈ prepared_pledges.erase x :=
      (List.mem_erase_of_ne hxy).mpr (mem_of_mem_turn_pledges hy)
    exact ((List.perm_cons_erase hymem).cons x).symm.trans
      (List.perm_cons_erase (mem_of_mem_turn_pledges hx)).symm
  have hturn := turn_pledges_perm (campaign.asking_price_sats + fee) hperm
  have hclash : TurnClashes (campaign.asking_price_sats + fee) reordered :=
    turnClashes_of_first (hturn.mem_iff.mpr hx) (hturn.mem_iff.mpr hy) hvalue hkind
  cases hloop : select_loop (campaign.asking_price_sats + fee) reordered.length reordered [] 0 with
  | ok result =>
      have hclear := (select_loop_isOk_iff le_rfl ..).mp ⟨result, hloop⟩ [] _ (.nil _)
        (by simpa using hpos)
      exact hclear (by simpa using hclash)
  | error e =>
      -- a `TypeError` is neither a selection nor the error of a small total
      obtain ⟨message, rfl⟩ := select_loop_fails hloop
      have herror : select_pledges campaign prepared_pledges fee = .error (.TypeError message) :=
        (h.same _ hperm).symm.trans (select_pledges_of_loop_error hfee hloop)
      rcases h.clean with ⟨selected, hselected⟩ | hrefused
      · exact nomatch herror.symm.trans hselected
      · exact nomatch herror.symm.trans hrefused

theorem ignoresOrder_of_comparable (hfee : 0 ≤ fee)
    (hdistinct : (prepared_pledges.map spends).Nodup)
    (hcond : campaign.asking_price_sats + fee ≤ 0 ∨
      Comparable (turn_pledges (campaign.asking_price_sats + fee) prepared_pledges)) :
    IgnoresOrder campaign prepared_pledges fee := by
  have hturn : campaign.asking_price_sats + fee ≤ 0 ∨
      Comparable (turn_pledges (campaign.asking_price_sats + fee - 0) prepared_pledges) := by
    rwa [Int.sub_zero]
  have hloop (reordered : List PreparedPledge) (hperm : reordered.Perm prepared_pledges) :
      select_loop (campaign.asking_price_sats + fee) prepared_pledges.length prepared_pledges [] 0 =
          select_loop (campaign.asking_price_sats + fee) prepared_pledges.length reordered [] 0 ∧
        ∃ result, select_loop (campaign.asking_price_sats + fee) prepared_pledges.length
          prepared_pledges [] 0 = .ok result :=
    select_loop_perm _ hperm.symm hdistinct hturn
  refine ⟨fun reordered hperm => ?_, ?_⟩
  · simp only [select_pledges, hperm.length_eq, (hloop reordered hperm).1]
  · obtain ⟨result, hresult⟩ := (hloop prepared_pledges (.refl _)).2
    rw [select_pledges_of_loop hfee hresult]
    split_ifs
    · exact .inr rfl
    · exact .inl ⟨_, rfl⟩

/-- **When the order does not matter.** Pledges of different outputs are selected, or refused
for too small a total, in the same way in every order, exactly when nothing is asked for or
those of the first turn that have the same value have timestamps of one kind. -/
theorem ignores_order_iff (hfee : 0 ≤ fee) (hdistinct : (prepared_pledges.map spends).Nodup) :
    IgnoresOrder campaign prepared_pledges fee ↔
      campaign.asking_price_sats + fee ≤ 0 ∨
        Comparable (turn_pledges (campaign.asking_price_sats + fee) prepared_pledges) := by
  constructor
  · intro h
    rcases le_or_gt (campaign.asking_price_sats + fee) 0 with hle | hpos
    · exact .inl hle
    · exact .inr fun x hx y hy hvalue => h.same_kind hfee hpos hx hy hvalue
  · intro hcond
    exact ignoresOrder_of_comparable hfee hdistinct hcond

end

end FundingService

theorem ignores_order_two_pledges :
    FundingService.IgnoresOrder exampleCampaign [preparedSecond, preparedFirst] 0 := by
  refine (FundingService.ignores_order_iff le_rfl (by decide)).mpr (.inr ?_)
  exact comparable_two_pledges.subset fun x => FundingService.mem_of_mem_turn_pledges

/-- Two pledges of one value, dated with a time zone and without: no selection, and not the
error of a list that is worth too little. -/
theorem naive_date_fails_in_any_order :
    ([preparedFirst, preparedNaive].map FundingService.spends).Nodup ∧
      ¬ FundingService.IgnoresOrder exampleCampaign [preparedFirst, preparedNaive] 0 := by
  refine ⟨by decide, fun h => ?_⟩
  have hrun : FundingService.select_pledges exampleCampaign [preparedFirst, preparedNaive] 0 =
      .error (.TypeError "can't compare offset-naive and offset-aware datetimes") := rfl
  rcases h.clean with ⟨selected, hselected⟩ | hrefused
  · rw [hrun] at hselected
    cases hselected
  · rw [hrun] at hrefused
    cases hrefused

end Superorganism.Funding

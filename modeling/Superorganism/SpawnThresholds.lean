/-
`modules/orchestration/spawn_thresholds.py`: when a node can afford a child, and whether
the bill it reckons with is the one it gets.

The same bill is worked out twice. `_vps_cost_sat` takes the target days of the VPS in
cents, rounded down, and `_mint_funding_invoice` asks for whole dollars, rounded up. They
agree exactly when the target comes to whole dollars or is no more than the smallest
invoice (`bill_agrees_iff`); otherwise the invoice is for more than the node was found to
afford.

Floating point is replaced by exact rationals. A rate of zero is a documented setting; the
functions then raise `ZeroDivisionError`, for which `none` stands here.
-/
import Superorganism.SpawnOutline

set_option autoImplicit false

open Superorganism.Process Superorganism.Process.Prog

namespace Superorganism.Spawn

/-- The settings that only this module reads. That the ratio is a share of what is left, and so not
negative, only `bill_agrees_iff` needs: with a negative one a balance is found eligible that does not
cover the bill and the fee. -/
structure Thresholds where
  SPAWN_THRESHOLD_DAYS : ℤ
  INHERITANCE_RATIO : ℚ
  VPS_MONTHLY_COST_CENTS : ℤ
  BTC_USD_RATE : ℚ
  ratio_nonneg : 0 ≤ INHERITANCE_RATIO

structure SpawnEligibility where
  eligible : Bool
  reason : String
  effective_threshold : ℤ
  post_spawn_runway_days : ℤ
  post_spawn_btc_sat : ℤ
  child_share_sat : ℤ
deriving DecidableEq, Repr

/-- `int(x)`. -/
def int (x : ℚ) : ℤ := if 0 ≤ x then ⌊x⌋ else ⌈x⌉

section
variable (cfg : Config) (th : Thresholds)

/-- What a number of cents is in sats, rounded down. -/
def cents_to_sat (cents : ℚ) : Option ℤ :=
  if th.BTC_USD_RATE = 0 then none else some (int (cents / 100 / th.BTC_USD_RATE * 100000000))

/-- The cents of `_vps_cost_sat`. -/
def vps_cost_cents : ℤ :=
  max (cfg.SPORESTACK_MIN_INVOICE_DOLLARS * 100)
    (int (th.VPS_MONTHLY_COST_CENTS * cfg.TOPUP_TARGET_DAYS / 30))

def _vps_cost_sat : Option ℤ := cents_to_sat th (vps_cost_cents cfg th)

def _cost_per_day_sat : Option ℤ := cents_to_sat th (th.VPS_MONTHLY_COST_CENTS / 30)

def compute_child_share (btc_balance_sat : ℤ) : Option ℤ :=
  (_vps_cost_sat cfg th).map fun vps_cost =>
    let transferable := max 0 (btc_balance_sat - vps_cost)
    int (transferable * th.INHERITANCE_RATIO)

/-- The part of `check_spawn_eligibility` after the costs are known. -/
def weigh (node_state : NodeState) (effective_threshold runway_basis vps_cost inheritance
    cost_per_day : ℤ) : SpawnEligibility :=
  let fee := cfg.SPAWN_FEE_BUFFER_SAT
  let spawn_cost_sat := vps_cost + inheritance + fee
  -- the one division that the source guards
  let spawn_cost_days : ℚ := if 0 < cost_per_day then spawn_cost_sat / cost_per_day else 0
  let post_spawn_runway_days := int (runway_basis - spawn_cost_days)
  let post_spawn_btc := node_state.btc_balance_sat - vps_cost - inheritance - fee
  let affordable := decide (0 ≤ post_spawn_btc)
  let runway_ok := decide (effective_threshold ≤ post_spawn_runway_days)
  let eligible := runway_ok && affordable
  let child_share := if eligible then inheritance else 0
  let reason :=
    if eligible then "eligible (child share: " ++ toString child_share ++ " sat)"
    else if !affordable then
      "can't afford spawn outlay: btc " ++ toString node_state.btc_balance_sat ++ " sat < vps " ++
        toString vps_cost ++ " + inheritance " ++ toString inheritance ++ " + fee " ++ toString fee
    else
      "post-spawn runway " ++ toString post_spawn_runway_days ++ "d < " ++
        toString effective_threshold ++ "d required"
  { eligible, reason, effective_threshold, post_spawn_runway_days
    post_spawn_btc_sat := post_spawn_btc
    child_share_sat := child_share }

def check_spawn_eligibility (node_state : NodeState) (caution_trait : ℚ) :
    Option SpawnEligibility :=
  let c := max 0 (min 1 caution_trait)
  let effective_threshold := int (th.SPAWN_THRESHOLD_DAYS * (1 + c))
  match node_state.days_remaining with
  -- answered before any cost is computed
  | none => some ⟨false, "days_remaining unknown", effective_threshold, 0, 0, 0⟩
  | some days_remaining => do
    let runway_basis := node_state.total_runway_days.getD days_remaining
    let vps_cost ← _vps_cost_sat cfg th
    let inheritance ← compute_child_share cfg th node_state.btc_balance_sat
    let cost_per_day ← _cost_per_day_sat th
    some (weigh cfg node_state effective_threshold runway_basis vps_cost inheritance cost_per_day)

end

/-- The pipeline with these thresholds. An exception of the check ends the round of the
decision loop, as a refusal does. -/
def Setup.withThresholds (cfg : Setup) (th : Thresholds) : Setup :=
  { cfg with
    check_spawn_eligibility := fun node_state caution_trait =>
      ((Spawn.check_spawn_eligibility cfg.toConfig th node_state caution_trait).map (·.eligible)).getD
        false }

/-! ## The bill -/

section
variable (cfg : Setup) (th : Thresholds)

/-- SporeStack quotes the configured monthly cost. -/
def Quoted : (c : Cmd) → Except Exc c.Ret → Prop
  | .calculate_monthly_vps_cost _, r => r = .ok th.VPS_MONTHLY_COST_CENTS
  | _, _ => True

/-- The operation asks for an invoice over so many dollars only if they satisfy `P`. -/
def AsksFor (P : ℤ → Prop) (c : Cmd) : Prop :=
  ∀ purpose token dollars, c = .create_invoice purpose token dollars → P dollars

/-- The wallet has this balance. -/
def Holding (wallet_sat : ℤ) : (c : Cmd) → Except Exc c.Ret → Prop
  | .get_balance_satoshis, r => r = .ok wallet_sat
  | _, _ => True

/-- `_check_parent_balance` does not raise on this balance. -/
def PassesBalance (amount_sat wallet_sat : ℤ) : Prop :=
  (_check_parent_balance cfg amount_sat).Along (Holding wallet_sat) (fun _ => True)
    (fun _ => True) fun _ => False

/-- What an invoice comes to at the configured rate, in whole sats. -/
def invoice_sat (dollars : ℤ) : ℤ := ⌊(dollars : ℚ) / th.BTC_USD_RATE * 100000000⌋

/-- The bill of a child is the one the node reckoned with. -/
structure BillAgrees : Prop where
  /-- The invoice is requested for the dollars of `_vps_cost_sat`. -/
  requested : ∀ spawn_id token, (_mint_funding_invoice cfg spawn_id token).Along (Quoted th)
    (AsksFor fun dollars => vps_cost_cents cfg.toConfig th = 100 * dollars)
    (fun _ => True) fun _ => True
  /-- A balance that makes the node eligible covers the invoice. -/
  covered : ∀ spawn_id token node_state caution_trait,
    (cfg.withThresholds th).check_spawn_eligibility node_state caution_trait = true →
      (_mint_funding_invoice cfg spawn_id token).Along (Quoted th)
        (AsksFor fun dollars =>
          PassesBalance cfg (invoice_sat th dollars) node_state.btc_balance_sat)
        (fun _ => True) fun _ => True

/-- The target comes to whole dollars, or the smallest invoice covers it. -/
def WholeDollars : Prop :=
  targetCents cfg th.VPS_MONTHLY_COST_CENTS ≤ 100 * cfg.SPORESTACK_MIN_INVOICE_DOLLARS ∨
    100 ∣ targetCents cfg th.VPS_MONTHLY_COST_CENTS

end

variable {cfg : Setup} {th : Thresholds}

theorem int_div (a : ℤ) : int (a / 30) = a.tdiv 30 := by
  have hfloor (n : ℤ) : ⌊(n / 30 : ℚ)⌋ = n / 30 := by
    exact_mod_cast Rat.floor_intCast_div_natCast n 30
  unfold int
  by_cases h : 0 ≤ a
  · have hq : (0 : ℚ) ≤ a / 30 := by positivity
    rw [if_pos hq, hfloor, Int.tdiv_eq_ediv_of_nonneg h]
  · have hq : ¬ (0 : ℚ) ≤ a / 30 := by
      rw [not_le] at h ⊢
      exact div_neg_of_neg_of_pos (by exact_mod_cast h) (by norm_num)
    have hneg : a = -(-a) := (neg_neg a).symm
    rw [if_neg hq, hneg, Int.neg_tdiv, Int.tdiv_eq_ediv_of_nonneg (by omega), ← hfloor]
    push_cast
    rw [neg_div, Int.ceil_neg]

/-- `_vps_cost_sat` works from the cents that the invoice is requested for. -/
theorem vps_cost_cents_eq :
    vps_cost_cents cfg.toConfig th =
      max (cfg.SPORESTACK_MIN_INVOICE_DOLLARS * 100) (targetCents cfg th.VPS_MONTHLY_COST_CENTS) := by
  have h := int_div (th.VPS_MONTHLY_COST_CENTS * cfg.TOPUP_TARGET_DAYS)
  rw [vps_cost_cents, targetCents, ← h]
  push_cast
  rfl

/-- Rounding up to dollars changes nothing exactly on whole dollars and below the minimum. -/
theorem max_eq_invoiceDollars_iff (minimum cents : ℤ) :
    max (minimum * 100) cents = 100 * invoiceDollars minimum cents ↔
      cents ≤ 100 * minimum ∨ 100 ∣ cents := by
  unfold invoiceDollars
  omega

/-! ## What is asked for, and what passes -/

theorem AsksFor.of_ne {P : ℤ → Prop} {c : Cmd}
    (h : ∀ purpose token dollars, c ≠ .create_invoice purpose token dollars) : AsksFor P c :=
  fun purpose token dollars hc => absurd hc (h purpose token dollars)

/-- Nothing is asked for after the invoice. -/
theorem intent_of_response_along {P : ℤ → Prop} (spawn_id token : String)
    (response : Option InvoiceResponse) :
    (intent_of_response cfg spawn_id token response).Along (Quoted th) (AsksFor P)
      (fun _ => True) fun _ => True := by
  unfold intent_of_response
  cases response with
  | none => exact trivial
  | some response =>
      dsimp only
      cases cfg.parse_bitcoin_uri (response.invoice.getD response.toInvoice).payment_uri with
      | error e => exact trivial
      | ok parsed =>
          cases parsed with
          | none => exact trivial
          | some parsed => exact trivial

/-- **The one invoice `_mint_funding_invoice` asks for**, when the quote is the configured
cost. -/
theorem mint_along_iff {P : ℤ → Prop} (spawn_id token : String) :
    (_mint_funding_invoice cfg spawn_id token).Along (Quoted th) (AsksFor P)
        (fun _ => True) (fun _ => True) ↔
      P (invoiceDollars cfg.SPORESTACK_MIN_INVOICE_DOLLARS
        (targetCents cfg th.VPS_MONTHLY_COST_CENTS)) := by
  constructor
  · intro h
    -- a first attempt, along which every call before the invoice succeeds
    have hset := h.2 (.ok none) trivial
    have hquote := hset.2 (.ok ()) trivial
    have hinvoice := hquote.2 (.ok th.VPS_MONTHLY_COST_CENTS) rfl
    exact hinvoice.1 _ _ _ rfl
  · intro h
    have hother {c : Cmd} (hc : ∀ purpose token dollars, c ≠ .create_invoice purpose token dollars)
        {φ : c.Ret → Prop} (hφ : ∀ a, Quoted th c (.ok a) → φ a) :
        (perform c).Along (Quoted th) (AsksFor P) φ fun _ => True :=
      .call (.of_ne hc) hφ fun _ _ => trivial
    refine .bind (hother (by exact fun _ _ _ h => nomatch h) fun stored _ => ?_)
    refine .bind ?_
    by_cases hattempts : Option.getD stored 0 < _MAX_FUNDING_ATTEMPTS
    · rw [require, if_pos (decide_eq_true hattempts)]
      refine .bind (hother (by exact fun _ _ _ h => nomatch h) fun _ _ => ?_)
      refine .bind (hother (by exact fun _ _ _ h => nomatch h) fun monthly_cents hquote => ?_)
      cases hquote
      refine .bind (.call ?_ (fun response _ => ?_) fun _ _ => trivial)
      · intro purpose token' dollars heq
        cases heq
        exact h
      · refine .bind ((intent_of_response_along spawn_id token response).mono fun intent _ => ?_)
        refine .bind (hother (by exact fun _ _ _ h => nomatch h) fun _ _ => ?_)
        exact trivial
    · rw [require, if_neg (by simpa using hattempts)]
      exact trivial

theorem passesBalance_iff {amount_sat wallet_sat : ℤ} :
    PassesBalance cfg amount_sat wallet_sat ↔ amount_sat + cfg.SPAWN_FEE_BUFFER_SAT ≤ wallet_sat := by
  constructor
  · intro h
    have hrest : (require (decide (amount_sat + cfg.SPAWN_FEE_BUFFER_SAT ≤ wallet_sat)) _).Along
        (Holding wallet_sat) (fun _ => True) (fun _ => True) (fun _ => False) :=
      h.2 (.ok wallet_sat) rfl
    by_contra hshort
    rw [require, if_neg (by simpa using hshort)] at hrest
    exact hrest
  · intro h
    refine .bind (.call trivial (fun balance hbalance => ?_) fun e he => nomatch he)
    cases hbalance
    rw [require, if_pos (decide_eq_true h)]
    exact trivial

theorem int_nonneg {x : ℚ} (h : 0 ≤ x) : 0 ≤ int x := by
  rw [int, if_pos h]
  exact Int.floor_nonneg.mpr h

theorem floor_le_int (x : ℚ) : ⌊x⌋ ≤ int x := by
  unfold int
  by_cases h : 0 ≤ x
  · rw [if_pos h]
  · rw [if_neg h]
    exact Int.floor_le_ceil x

/-- What an eligible node can pay for. -/
theorem affordable_of_eligible {node_state : NodeState} {caution_trait : ℚ}
    (h : (cfg.withThresholds th).check_spawn_eligibility node_state caution_trait = true) :
    ∃ vps_cost, _vps_cost_sat cfg.toConfig th = some vps_cost ∧
      vps_cost + cfg.SPAWN_FEE_BUFFER_SAT ≤ node_state.btc_balance_sat := by
  unfold Setup.withThresholds Spawn.check_spawn_eligibility at h
  dsimp only at h
  cases hdays : node_state.days_remaining with
  | none =>
      rw [hdays] at h
      exact absurd h Bool.false_ne_true
  | some days_remaining =>
      rw [hdays] at h
      cases hcost : _vps_cost_sat cfg.toConfig th with
      | none =>
          simp only [hcost, Option.bind_eq_bind, Option.bind_none, Option.map_none,
            Option.getD_none] at h
          exact absurd h Bool.false_ne_true
      | some vps_cost =>
          refine ⟨vps_cost, rfl, ?_⟩
          cases hday : _cost_per_day_sat th with
          | none =>
              simp only [hcost, hday, Spawn.compute_child_share, Option.bind_eq_bind,
                Option.bind_some, Option.bind_none, Option.map_some, Option.map_none,
                Option.getD_none] at h
              exact absurd h Bool.false_ne_true
          | some cost_per_day =>
              simp only [hcost, hday, Spawn.compute_child_share, Option.bind_eq_bind,
                Option.bind_some, Option.map_some, Option.getD_some, weigh, Bool.and_eq_true,
                decide_eq_true_eq] at h
              -- the share is not negative, whatever the balance, and can be left out of the sum
              have hshare : 0 ≤ int ((max 0 (node_state.btc_balance_sat - vps_cost) : ℤ) *
                  th.INHERITANCE_RATIO) := by
                apply int_nonneg
                exact mul_nonneg (by exact_mod_cast le_max_left _ _) th.ratio_nonneg
              push_cast at h hshare
              omega

/-- **When the bill is the one the node reckoned with**: exactly when the target comes to
whole dollars, or is no more than the smallest invoice. -/
theorem bill_agrees_iff (cfg : Setup) (th : Thresholds) :
    BillAgrees cfg th ↔ WholeDollars cfg th := by
  have hcents : vps_cost_cents cfg.toConfig th = 100 * invoiceDollars
      cfg.SPORESTACK_MIN_INVOICE_DOLLARS (targetCents cfg th.VPS_MONTHLY_COST_CENTS) ↔
      WholeDollars cfg th := by
    rw [vps_cost_cents_eq, max_eq_invoiceDollars_iff]
    rfl
  constructor
  · intro h
    exact hcents.mp ((mint_along_iff "" "").mp (h.requested "" ""))
  · intro h
    refine ⟨fun spawn_id token => (mint_along_iff spawn_id token).mpr (hcents.mpr h), ?_⟩
    intro spawn_id token node_state caution_trait heligible
    rw [mint_along_iff, passesBalance_iff]
    obtain ⟨vps_cost, hcost, hle⟩ := affordable_of_eligible heligible
    -- the same cents, so the invoice comes to no more sats than were reckoned with
    have hsat : invoice_sat th (invoiceDollars cfg.SPORESTACK_MIN_INVOICE_DOLLARS
        (targetCents cfg th.VPS_MONTHLY_COST_CENTS)) ≤ vps_cost := by
      rw [_vps_cost_sat, cents_to_sat, hcents.mpr h] at hcost
      split_ifs at hcost
      cases hcost
      refine le_trans (le_of_eq ?_) (floor_le_int _)
      rw [invoice_sat]
      push_cast
      rw [mul_div_cancel_left₀ _ (by norm_num)]
    omega

/-! ## A cent over thirty dollars -/

def demoThresholds : Thresholds where
  SPAWN_THRESHOLD_DAYS := 60
  INHERITANCE_RATIO := 2 / 5
  VPS_MONTHLY_COST_CENTS := 3001
  BTC_USD_RATE := 20000
  ratio_nonneg := by norm_num

/-- A long runway, and a balance that just pays for a child of 3001 cents. -/
def demoNode : NodeState where
  btc_balance_sat := 158383
  sporestack_balance_cents := 0
  days_remaining := some 30
  total_runway_days := some 1000
  last_updated := 1
  vps_provider := ""

/-- The node is found eligible for a bill of 3001 cents and is then asked for 31 dollars,
which it does not have. -/
theorem bill_exceeds_estimate :
    vps_cost_cents calmSetup.toConfig demoThresholds = 3001 ∧
      (calmSetup.withThresholds demoThresholds).check_spawn_eligibility demoNode 0 = true ∧
      ¬ (_mint_funding_invoice calmSetup "spawn-0" "token").Along (Quoted demoThresholds)
        (AsksFor fun dollars => 100 * dollars ≠ 3100) (fun _ => True) (fun _ => True) ∧
      ¬ PassesBalance calmSetup (invoice_sat demoThresholds 31) demoNode.btc_balance_sat ∧
      ¬ BillAgrees calmSetup demoThresholds := by
  refine ⟨by decide +kernel, by decide +kernel, ?_, ?_, ?_⟩
  · rw [mint_along_iff]
    decide +kernel
  · rw [passesBalance_iff]
    decide +kernel
  · intro h
    have hcents := (mint_along_iff "" "").mp (h.requested "" "")
    exact absurd hcents (by decide +kernel)

end Superorganism.Spawn

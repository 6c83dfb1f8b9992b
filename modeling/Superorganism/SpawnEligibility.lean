/-
When `check_spawn_eligibility` can be relied on.

Both costs are converted to sats by a division by `BTC_USD_RATE`, and zero is a documented value
of that setting. Neither `compute_child_share` nor, once the runway is known,
`check_spawn_eligibility` returns then. With any other rate both return, an eligible node can pay
for the child and keeps the runway it is asked to keep, and a smaller caution only lowers what is
asked.

The last point supposes that `SPAWN_THRESHOLD_DAYS` is not negative, since caution multiplies it.
With a negative number of days it fails, unless the settings let no balance pay for a child.
-/
import Superorganism.SpawnThresholds

set_option autoImplicit false

namespace Superorganism.Spawn

section
variable (cfg : Config) (th : Thresholds)

/-- The settings the configuration file admits: no cost and no rate is negative. -/
structure Admitted : Prop where
  fee_nonneg : 0 ≤ cfg.SPAWN_FEE_BUFFER_SAT
  invoice_nonneg : 0 ≤ cfg.SPORESTACK_MIN_INVOICE_DOLLARS
  cost_nonneg : 0 ≤ th.VPS_MONTHLY_COST_CENTS
  rate_nonneg : 0 ≤ th.BTC_USD_RATE

/-- The days of runway that the spawn leaves, not rounded; days that cost nothing are not
counted. -/
def runwayLeft (node_state : NodeState) (days_remaining vps_cost inheritance cost_per_day : ℤ) : ℚ :=
  node_state.total_runway_days.getD days_remaining -
    (vps_cost + inheritance + cfg.SPAWN_FEE_BUFFER_SAT : ℤ) / cost_per_day

/-- The threshold of a caution, in whole days. -/
def scaledThreshold (caution_trait : ℚ) : ℤ :=
  int (th.SPAWN_THRESHOLD_DAYS * (1 + max 0 (min 1 caution_trait)))

/-- What the answer that a node is eligible promises. -/
structure Sustained (node_state : NodeState) (caution_trait : ℚ) (answer : SpawnEligibility)
    (days_remaining vps_cost inheritance cost_per_day : ℤ) : Prop where
  days_known : node_state.days_remaining = some days_remaining
  vps_cost_sat : _vps_cost_sat cfg th = some vps_cost
  child_share : compute_child_share cfg th node_state.btc_balance_sat = some inheritance
  cost_per_day_sat : _cost_per_day_sat th = some cost_per_day
  affordable : vps_cost + inheritance + cfg.SPAWN_FEE_BUFFER_SAT ≤ node_state.btc_balance_sat
  threshold : answer.effective_threshold = scaledThreshold th caution_trait
  runway : answer.post_spawn_runway_days =
    int (runwayLeft cfg node_state days_remaining vps_cost inheritance cost_per_day)
  runway_ok : answer.effective_threshold ≤ answer.post_spawn_runway_days
  /-- Rounding does not make up for a part of a day, once there is a threshold to keep. -/
  runway_exact : 0 < answer.effective_threshold → (answer.effective_threshold : ℚ) ≤
    runwayLeft cfg node_state days_remaining vps_cost inheritance cost_per_day

/-- Both functions return, and what they return can be acted on. -/
def Dependable : Prop :=
  ∀ node_state caution_trait, ∃ share answer,
    compute_child_share cfg th node_state.btc_balance_sat = some share ∧
    check_spawn_eligibility cfg th node_state caution_trait = some answer ∧
    (answer.eligible = true →
      (∃ days_remaining vps_cost inheritance cost_per_day, Sustained cfg th node_state caution_trait
        answer days_remaining vps_cost inheritance cost_per_day) ∧
      ∀ caution_trait' ≤ caution_trait, ∃ answer',
        check_spawn_eligibility cfg th node_state caution_trait' = some answer' ∧
        answer'.eligible = true)

/-- No balance is found to pay for a child: the child inherits all that is left, and the fee is
still to be paid. -/
def NeverAffordable : Prop := 0 < cfg.SPAWN_FEE_BUFFER_SAT ∧ 1 ≤ th.INHERITANCE_RATIO

end

variable {cfg : Config} {th : Thresholds}

/-! ## Truncation -/

theorem int_intCast (n : ℤ) : int n = n := by
  unfold int
  simp only [Int.floor_intCast, Int.ceil_intCast, ite_self]

theorem int_mono {x y : ℚ} (h : x ≤ y) : int x ≤ int y := by
  unfold int
  by_cases hx : 0 ≤ x
  · rw [if_pos hx, if_pos (hx.trans h)]
    exact Int.floor_le_floor h
  · rw [if_neg hx]
    by_cases hy : 0 ≤ y
    · rw [if_pos hy]
      have hneg : ⌈x⌉ ≤ 0 := Int.ceil_le.mpr (by push_cast; linarith)
      exact hneg.trans (Int.floor_nonneg.mpr hy)
    · rw [if_neg hy]
      exact Int.ceil_le_ceil h

/-- A positive number of whole days is never more than the days there are. -/
theorem le_of_le_int {x : ℚ} {n : ℤ} (hn : 0 < n) (h : n ≤ int x) : (n : ℚ) ≤ x := by
  unfold int at h
  by_cases hx : 0 ≤ x
  · rw [if_pos hx] at h
    exact Int.le_floor.mp h
  · rw [if_neg hx] at h
    have hneg : ⌈x⌉ ≤ 0 := Int.ceil_le.mpr (by push_cast; linarith)
    omega

/-! ## What the functions return -/

theorem cents_to_sat_eq (h : th.BTC_USD_RATE ≠ 0) (cents : ℚ) :
    cents_to_sat th cents = some (int (cents / 100 / th.BTC_USD_RATE * 100000000)) := by
  rw [cents_to_sat, if_neg h]

theorem compute_child_share_eq {vps_cost : ℤ} (h : _vps_cost_sat cfg th = some vps_cost)
    (btc_balance_sat : ℤ) :
    compute_child_share cfg th btc_balance_sat =
      some (int ((max 0 (btc_balance_sat - vps_cost) : ℤ) * th.INHERITANCE_RATIO)) := by
  rw [compute_child_share, h]
  rfl

/-- A node whose runway is known is weighed against its threshold. -/
theorem check_eq {node_state : NodeState} {caution_trait : ℚ}
    {days_remaining vps_cost inheritance cost_per_day : ℤ}
    (hdays : node_state.days_remaining = some days_remaining)
    (hvps : _vps_cost_sat cfg th = some vps_cost)
    (hshare : compute_child_share cfg th node_state.btc_balance_sat = some inheritance)
    (hday : _cost_per_day_sat th = some cost_per_day) :
    check_spawn_eligibility cfg th node_state caution_trait =
      some (weigh cfg node_state (scaledThreshold th caution_trait)
        (node_state.total_runway_days.getD days_remaining) vps_cost inheritance cost_per_day) := by
  unfold check_spawn_eligibility
  rw [hdays]
  simp only [hvps, hshare, hday, Option.bind_eq_bind, Option.bind_some]
  rfl

/-- The days a spawn costs, as `weigh` reckons them. -/
theorem weigh_runway {cost_per_day : ℤ} (h : 0 ≤ cost_per_day) (node_state : NodeState)
    (threshold days_remaining vps_cost inheritance : ℤ) :
    (weigh cfg node_state threshold (node_state.total_runway_days.getD days_remaining) vps_cost
        inheritance cost_per_day).post_spawn_runway_days =
      int (runwayLeft cfg node_state days_remaining vps_cost inheritance cost_per_day) := by
  -- where a day costs nothing the source leaves the runway as it is, and `x / 0` is zero here
  rcases h.eq_or_lt with rfl | hpos
  · simp only [weigh, runwayLeft, lt_irrefl, if_false, Int.cast_zero, div_zero]
  · simp only [weigh, runwayLeft, if_pos hpos]

theorem weigh_eligible {node_state : NodeState}
    {threshold runway_basis vps_cost inheritance cost_per_day : ℤ} :
    (weigh cfg node_state threshold runway_basis vps_cost inheritance cost_per_day).eligible = true ↔
      threshold ≤ (weigh cfg node_state threshold runway_basis vps_cost inheritance
        cost_per_day).post_spawn_runway_days ∧
      vps_cost + inheritance + cfg.SPAWN_FEE_BUFFER_SAT ≤ node_state.btc_balance_sat := by
  simp only [weigh, Bool.and_eq_true, decide_eq_true_eq]
  refine and_congr_right fun _ => ?_
  omega

/-- Less caution asks for no more days. -/
theorem scaledThreshold_mono (h : 0 ≤ th.SPAWN_THRESHOLD_DAYS) {c c' : ℚ} (hc : c' ≤ c) :
    scaledThreshold th c' ≤ scaledThreshold th c := by
  apply int_mono
  have hdays : (0 : ℚ) ≤ th.SPAWN_THRESHOLD_DAYS := by exact_mod_cast h
  gcongr

theorem scaledThreshold_zero (th : Thresholds) :
    scaledThreshold th 0 = th.SPAWN_THRESHOLD_DAYS := by
  rw [scaledThreshold, min_eq_right zero_le_one, max_self, add_zero, mul_one]
  exact int_intCast _

/-- The utmost caution asks for twice the days. -/
theorem scaledThreshold_one (th : Thresholds) :
    scaledThreshold th 1 = 2 * th.SPAWN_THRESHOLD_DAYS := by
  rw [scaledThreshold, min_self, max_eq_right zero_le_one, one_add_one_eq_two, mul_comm,
    ← int_intCast (2 * th.SPAWN_THRESHOLD_DAYS)]
  push_cast
  rfl

/-- The costs, once there is a rate to convert them at. -/
theorem Admitted.costs (h : Admitted cfg th) (hrate : th.BTC_USD_RATE ≠ 0) :
    ∃ vps_cost cost_per_day, _vps_cost_sat cfg th = some vps_cost ∧
      _cost_per_day_sat th = some cost_per_day ∧ 0 ≤ vps_cost ∧ 0 ≤ cost_per_day := by
  have hnonneg {cents : ℚ} (hcents : 0 ≤ cents) :
      0 ≤ int (cents / 100 / th.BTC_USD_RATE * 100000000) := by
    apply int_nonneg
    have := h.rate_nonneg
    positivity
  refine ⟨_, _, cents_to_sat_eq hrate _, cents_to_sat_eq hrate _, hnonneg ?_, hnonneg ?_⟩
  · have hinvoice := h.invoice_nonneg
    have hcents : 0 ≤ vps_cost_cents cfg th := le_max_of_le_left (by omega)
    exact_mod_cast hcents
  · have hcost : (0 : ℚ) ≤ th.VPS_MONTHLY_COST_CENTS := by exact_mod_cast h.cost_nonneg
    positivity

/-! ## Eligible nodes -/

/-- Some balance pays for a child, unless the settings exclude it. -/
theorem exists_affordable (h : Admitted cfg th) (hpays : ¬ NeverAffordable cfg th) (vps_cost : ℤ) :
    ∃ balance : ℤ, vps_cost + int ((max 0 (balance - vps_cost) : ℤ) * th.INHERITANCE_RATIO) +
      cfg.SPAWN_FEE_BUFFER_SAT ≤ balance := by
  rcases not_and_or.mp hpays with hfee | hratio
  · -- without a fee the bill itself is enough
    refine ⟨vps_cost, ?_⟩
    have hzero : int (((max 0 (vps_cost - vps_cost) : ℤ) : ℚ) * th.INHERITANCE_RATIO) = 0 := by
      rw [sub_self, max_self, Int.cast_zero, zero_mul]
      exact int_intCast 0
    rw [hzero]
    omega
  · -- what is not inherited grows with the balance
    have hkept : 0 < 1 - th.INHERITANCE_RATIO := by linarith [not_le.mp hratio]
    have hfee : (0 : ℚ) ≤ cfg.SPAWN_FEE_BUFFER_SAT := by exact_mod_cast h.fee_nonneg
    let rest := ⌈(cfg.SPAWN_FEE_BUFFER_SAT : ℚ) / (1 - th.INHERITANCE_RATIO)⌉
    have hrest : 0 ≤ rest := Int.ceil_nonneg (by positivity)
    have hle : (cfg.SPAWN_FEE_BUFFER_SAT : ℚ) ≤ rest * (1 - th.INHERITANCE_RATIO) :=
      (div_le_iff₀ hkept).mp (Int.le_ceil _)
    refine ⟨vps_cost + rest, ?_⟩
    rw [add_sub_cancel_left, max_eq_right hrest]
    have hshare : rest * th.INHERITANCE_RATIO ≤ (rest - cfg.SPAWN_FEE_BUFFER_SAT : ℤ) := by
      push_cast
      linarith
    have hint : int (rest * th.INHERITANCE_RATIO) ≤ rest - cfg.SPAWN_FEE_BUFFER_SAT := by
      rw [← int_intCast (rest - cfg.SPAWN_FEE_BUFFER_SAT)]
      exact int_mono hshare
    omega

/-- Where nothing is affordable, nothing is. -/
theorem NeverAffordable.lt (h : NeverAffordable cfg th) (vps_cost balance : ℤ) :
    balance < vps_cost + int ((max 0 (balance - vps_cost) : ℤ) * th.INHERITANCE_RATIO) +
      cfg.SPAWN_FEE_BUFFER_SAT := by
  obtain ⟨hfee, hratio⟩ := h
  have hrest : max 0 (balance - vps_cost) ≤
      int ((max 0 (balance - vps_cost) : ℤ) * th.INHERITANCE_RATIO) := by
    rw [← int_intCast (max 0 (balance - vps_cost))]
    apply int_mono
    rw [int_intCast]
    have hnonneg : (0 : ℚ) ≤ (max 0 (balance - vps_cost) : ℤ) := by
      exact_mod_cast le_max_left 0 (balance - vps_cost)
    exact le_mul_of_one_le_right hnonneg hratio
  have hle := le_max_right 0 (balance - vps_cost)
  omega

/-- A node with an affordable child and just the runway asked of the utmost caution. -/
def cautiousNode (balance runway : ℤ) : NodeState where
  btc_balance_sat := balance
  sporestack_balance_cents := 0
  days_remaining := some 0
  total_runway_days := some runway
  last_updated := 0
  vps_provider := ""

/-- Twice a negative number of days, less a part of a day, are so many whole days: `int` drops the
part towards zero. -/
theorem int_runway_of_neg {days : ℤ} (hdays : days < 0) (spent : ℚ) :
    int ((2 * days + ⌊spent⌋ : ℤ) - spent) = 2 * days := by
  have hlow := Int.floor_le spent
  have hhigh := Int.lt_floor_add_one spent
  have hneg : (days : ℚ) ≤ -1 := by exact_mod_cast Int.le_sub_one_of_lt hdays
  rw [int, if_neg]
  · rw [Int.ceil_eq_iff]
    push_cast
    constructor <;> linarith
  · push_cast
    linarith

/-- With a negative threshold, caution asks for less runway than boldness. -/
theorem not_dependable_of_neg (h : Admitted cfg th) (hrate : th.BTC_USD_RATE ≠ 0)
    (hdays : th.SPAWN_THRESHOLD_DAYS < 0) (hpays : ¬ NeverAffordable cfg th) :
    ¬ Dependable cfg th := by
  obtain ⟨vps_cost, cost_per_day, hvps, hday, -, hdaynonneg⟩ := h.costs hrate
  obtain ⟨balance, hbalance⟩ := exists_affordable h hpays vps_cost
  let inheritance := int ((max 0 (balance - vps_cost) : ℤ) * th.INHERITANCE_RATIO)
  let spent : ℚ := (vps_cost + inheritance + cfg.SPAWN_FEE_BUFFER_SAT : ℤ) / cost_per_day
  let node_state := cautiousNode balance (2 * th.SPAWN_THRESHOLD_DAYS + ⌊spent⌋)
  have hshare : compute_child_share cfg th node_state.btc_balance_sat = some inheritance :=
    compute_child_share_eq hvps balance
  have hcheck (caution_trait : ℚ) : check_spawn_eligibility cfg th node_state caution_trait = _ :=
    check_eq rfl hvps hshare hday
  have hrunway : int (runwayLeft cfg node_state 0 vps_cost inheritance cost_per_day) =
      2 * th.SPAWN_THRESHOLD_DAYS := int_runway_of_neg hdays spent
  intro hdependable
  obtain ⟨share, answer, -, hanswer, hsustained⟩ := hdependable node_state 1
  obtain rfl := Option.some.inj ((hcheck 1).symm.trans hanswer)
  obtain ⟨-, hbolder⟩ := hsustained (by
    rw [weigh_eligible, weigh_runway hdaynonneg, hrunway, scaledThreshold_one]
    exact ⟨le_rfl, hbalance⟩)
  obtain ⟨answer', hanswer', heligible⟩ := hbolder 0 zero_le_one
  obtain rfl := Option.some.inj ((hcheck 0).symm.trans hanswer')
  rw [weigh_eligible, weigh_runway hdaynonneg, hrunway, scaledThreshold_zero] at heligible
  omega

/-- At a rate of zero not even the inheritance is worked out. -/
theorem not_dependable_of_zero (h : th.BTC_USD_RATE = 0) : ¬ Dependable cfg th := by
  intro hdependable
  obtain ⟨share, -, hshare, -⟩ := hdependable (cautiousNode 0 0) 0
  rw [compute_child_share, _vps_cost_sat, cents_to_sat, if_pos h] at hshare
  cases hshare

/-- A node that is found eligible can pay and keeps its runway. -/
theorem sustained_of_eligible {node_state : NodeState} {caution_trait : ℚ}
    {days_remaining vps_cost inheritance cost_per_day : ℤ}
    (hdays : node_state.days_remaining = some days_remaining)
    (hvps : _vps_cost_sat cfg th = some vps_cost)
    (hshare : compute_child_share cfg th node_state.btc_balance_sat = some inheritance)
    (hday : _cost_per_day_sat th = some cost_per_day) (hnonneg : 0 ≤ cost_per_day)
    (heligible : (weigh cfg node_state (scaledThreshold th caution_trait)
      (node_state.total_runway_days.getD days_remaining) vps_cost inheritance
      cost_per_day).eligible = true) :
    Sustained cfg th node_state caution_trait (weigh cfg node_state (scaledThreshold th caution_trait)
        (node_state.total_runway_days.getD days_remaining) vps_cost inheritance cost_per_day)
      days_remaining vps_cost inheritance cost_per_day := by
  obtain ⟨hrunway, haffordable⟩ := weigh_eligible.mp heligible
  have hleft : _ = int (runwayLeft cfg node_state days_remaining vps_cost inheritance
      cost_per_day) := weigh_runway hnonneg node_state (scaledThreshold th caution_trait) ..
  refine ⟨hdays, hvps, hshare, hday, haffordable, rfl, hleft, hrunway, fun hpos => ?_⟩
  rw [hleft] at hrunway
  exact le_of_le_int hpos hrunway

/-- With a rate to convert at, and a threshold that caution raises, the check can be relied on. -/
theorem dependable_of_rate (h : Admitted cfg th) (hrate : th.BTC_USD_RATE ≠ 0)
    (hthreshold : 0 ≤ th.SPAWN_THRESHOLD_DAYS ∨ NeverAffordable cfg th) : Dependable cfg th := by
  intro node_state caution_trait
  obtain ⟨vps_cost, cost_per_day, hvps, hday, -, hdaynonneg⟩ := h.costs hrate
  have hshare := compute_child_share_eq hvps node_state.btc_balance_sat
  cases hdays : node_state.days_remaining with
  | none =>
      have hunknown : check_spawn_eligibility cfg th node_state caution_trait =
          some ⟨false, "days_remaining unknown", scaledThreshold th caution_trait, 0, 0, 0⟩ := by
        unfold check_spawn_eligibility
        rw [hdays]
        rfl
      exact ⟨_, _, hshare, hunknown, fun heligible => absurd heligible Bool.false_ne_true⟩
  | some days_remaining =>
      refine ⟨_, _, hshare, check_eq hdays hvps hshare hday, fun heligible => ⟨?_, ?_⟩⟩
      · exact ⟨_, _, _, _, sustained_of_eligible hdays hvps hshare hday hdaynonneg heligible⟩
      · intro caution_trait' hcaution
        refine ⟨_, check_eq hdays hvps hshare hday, ?_⟩
        rw [weigh_eligible, weigh_runway hdaynonneg] at heligible ⊢
        obtain ⟨hrunway, haffordable⟩ := heligible
        rcases hthreshold with hthreshold | hnever
        · exact ⟨(scaledThreshold_mono hthreshold hcaution).trans hrunway, haffordable⟩
        · exact absurd haffordable (not_le.mpr (hnever.lt vps_cost node_state.btc_balance_sat))

/-- **When the check can be relied on**: exactly when there is a rate to convert at, and the
threshold is not negative or no child is ever affordable. -/
theorem dependable_iff (h : Admitted cfg th) :
    Dependable cfg th ↔ th.BTC_USD_RATE ≠ 0 ∧
      (0 ≤ th.SPAWN_THRESHOLD_DAYS ∨ NeverAffordable cfg th) := by
  constructor
  · intro hdependable
    have hrate : th.BTC_USD_RATE ≠ 0 := fun hzero => not_dependable_of_zero hzero hdependable
    refine ⟨hrate, ?_⟩
    by_contra hboth
    obtain ⟨hdays, hpays⟩ := not_or.mp hboth
    exact not_dependable_of_neg h hrate (not_le.mp hdays) hpays hdependable
  · rintro ⟨hrate, hthreshold⟩
    exact dependable_of_rate h hrate hthreshold

theorem dependable_demo : Dependable calmSetup.toConfig demoThresholds :=
  (dependable_iff ⟨by decide, by decide, by decide, by decide +kernel⟩).mpr
    ⟨by decide +kernel, .inl (by decide)⟩

/-- The setting that is documented to leave the wallet out of the runway. -/
def walletExcluded : Thresholds := { demoThresholds with BTC_USD_RATE := 0 }

/-- The wallet is left out of the runway, and the check of a node with a known runway ends in a
division by zero. -/
theorem zero_rate_divides :
    compute_child_share calmSetup.toConfig walletExcluded demoNode.btc_balance_sat = none ∧
      check_spawn_eligibility calmSetup.toConfig walletExcluded demoNode 0 = none ∧
      Admitted calmSetup.toConfig walletExcluded ∧
      ¬ Dependable calmSetup.toConfig walletExcluded :=
  ⟨rfl, rfl, ⟨by decide, by decide, by decide, le_rfl⟩, not_dependable_of_zero rfl⟩

end Superorganism.Spawn

/-
The pull counts of a community over a run.

Nothing between the wire and the aggregates looks at the sign of a reported count. A single
negative one takes the aggregate of an arm below the peer's own count, and what
`confidence_bounds` and `select_arm` divide by to zero and below; the guards are for zero
alone. There is a second way to a division by zero: `select_arm` reads the clock anew in its
second loop, when what made a count positive may have expired (`negative_pulls`).

In every run in which no message taken in reports a negative count, all of this is as it
should be, as long as nothing expires inside a call (`counts_of_run`).
-/
import Superorganism.LtrMab
import Superorganism.MabCounts
import Superorganism.Runs

set_option autoImplicit false

open Superorganism.Py Superorganism.Mab Superorganism.Runs

namespace Superorganism.LtrMab

variable {F : Type}

/-! ## The invariant -/

/-- Every arm has a table, and no count is negative. -/
structure Sums (b : Bandit F) : Prop where
  tabled : b.Tabled
  counted : b.Counted

theorem sums_accept {b : Bandit F} (h : Sums b) {d : Delivery F}
    (hknown : (b.own.get? d.observation.arm).isSome) (hpulls : 0 ≤ d.observation.pulls) :
    Sums (b.accept d) := by
  refine ⟨?_, h.counted.own, fun arm sender obs hobs => ?_⟩
  · have harm : d.observation.arm ∈ b.peer_observations.keys := by
      rw [← h.tabled]
      exact PyDict.mem_keys.mpr hknown
    exact h.tabled.trans ((PyDict.keys_set ..).trans (if_pos harm)).symm
  · rw [Bandit.table_accept] at hobs
    by_cases harm : arm = d.observation.arm
    · rw [if_pos harm, PyDict.get?_set] at hobs
      by_cases hsender : sender = d.observation.sender
      · rw [if_pos hsender] at hobs
        cases hobs
        exact hpulls
      · rw [if_neg hsender] at hobs
        exact h.counted.reported arm sender obs hobs
    · rw [if_neg harm] at hobs
      exact h.counted.reported arm sender obs hobs

theorem sums_evict {b : Bandit F} (h : Sums b) (now : ℚ) : Sums (b.evict_all_stale now).1 := by
  refine ⟨?_, h.counted.own, fun arm sender obs hobs => ?_⟩
  · exact h.tabled.trans (PyDict.keys_mapValues ..).symm
  · rw [Bandit.table_evict, PyDict.get?_filterValues, Option.filter_eq_some_iff] at hobs
    exact h.counted.reported arm sender obs hobs.1

variable [PyFloat F]

theorem sums_add_arm {b : Bandit F} (h : Sums b) (name : String) : Sums (b.add_arm name) := by
  refine ⟨?_, fun arm own hown => ?_, fun arm sender obs hobs => ?_⟩
  · unfold Bandit.add_arm
    by_cases hname : (b.own.get? name).isSome = true
    · rw [if_pos hname]
      exact h.tabled
    · rw [if_neg hname]
      show (b.own.set name Bandit.flat_prior).keys = (b.peer_observations.set name (b.table name)).keys
      rw [PyDict.keys_set, PyDict.keys_set, h.tabled]
  · unfold Bandit.add_arm at hown
    split at hown
    · exact h.counted.own arm own hown
    · have hget : (b.own.set name Bandit.flat_prior).get? arm = some own := hown
      rw [PyDict.get?_set] at hget
      split at hget
      · cases hget
        exact le_refl _
      · exact h.counted.own arm own hget
  · rw [table_add_arm] at hobs
    exact h.counted.reported arm sender obs hobs

theorem sums_update {b b' : Bandit F} (h : Sums b) {now : ℚ} {name : String} {reward : F}
    (hupdate : update b now name reward = .ok b') : Sums b' := by
  obtain ⟨hpeers, own, own', hown, hpulls, hset⟩ := update_counts hupdate
  have hname : name ∈ b.own.keys := PyDict.mem_keys.mpr (by rw [hown]; rfl)
  refine ⟨?_, fun arm row hrow => ?_, fun arm sender obs hobs => ?_⟩
  · rw [Bandit.Tabled, hset, hpeers, PyDict.keys_set, if_pos hname]
    exact h.tabled
  · rw [hset, PyDict.get?_set] at hrow
    split at hrow
    · cases hrow
      rw [hpulls]
      exact add_nonneg (h.counted.own name own hown) zero_le_one
    · exact h.counted.own arm row hrow
  · rw [Bandit.table, hpeers] at hobs
    exact h.counted.reported arm sender obs hobs

theorem sums_plain {b b' : Bandit F} (h : Sums b) (hplain : Plain b b') : Sums b' := by
  cases hplain with
  | same => exact h
  | add_arm name => exact sums_add_arm h name
  | update hupdate => exact sums_update h hupdate
  | next_lamport => exact ⟨h.tabled, h.counted.own, h.counted.reported⟩

theorem sums_new (algorithm : Algorithm F) (arm_names : List String) (peer_id : String) :
    Sums (.new algorithm arm_names peer_id) := by
  refine ⟨PyDict.keys_fromkeys .., fun arm own hown => ?_, fun arm sender obs hobs => ?_⟩
  · have hget : (PyDict.fromkeys arm_names (Bandit.flat_prior : PeerObservation F)).get? arm =
        some own := hown
    rw [PyDict.get?_fromkeys] at hget
    split at hget
    · cases hget
      exact le_refl _
    · exact absurd hget (Option.some_ne_none own).symm
  · rw [Bandit.table_new] at hobs
    exact absurd hobs (Option.some_ne_none obs).symm

/-! ## Every run -/

variable {B : Type} [LinearOrder B] [Zero B] (crypto : Crypto F)

/-- A message that is taken in reports no negative count. -/
def ReportsCounts (s : Sys F) (e : Event F B) : Prop :=
  ∀ payload, Takes crypto s e payload → 0 ≤ payload.pulls

theorem sums_apply {s : Sys F} (h : Sums s.community.bandit) {e : Event F B}
    (he : ReportsCounts crypto s e) : Sums (apply crypto s e).community.bandit := by
  rcases bandit_apply crypto s e with
    ⟨-, hplain⟩ | ⟨now, payload, rfl, htaken, hbandit⟩ | ⟨now, rfl, hbandit⟩
  · exact sums_plain h hplain
  · rw [hbandit]
    exact sums_accept h htaken.known (he payload ⟨⟨now, rfl⟩, htaken⟩)
  · rw [hbandit]
    exact sums_evict h now

theorem sums_run {s : Sys F} (h : Sums s.community.bandit) {events : List (Event F B)}
    (hevents : Along (apply crypto) (ReportsCounts crypto) s events) :
    Sums (run crypto s events).community.bandit := by
  induction events generalizing s with
  | nil => exact h
  | cons e events ih => exact ih (sums_apply crypto h hevents.1) hevents.2

/-- **The counts of every run whose messages report none that is negative**: what is
aggregated for an arm is at least the peer's own count, the total is the sum over the arms,
and the operands of `confidence_bounds` are sound, and those of every call of `select_arm`
in which nothing expires. -/
theorem counts_of_run {start s : Sys F} (hstart : Initial start) (events : List (Event F B))
    (hevents : Along (apply crypto) (ReportsCounts crypto) start events)
    (hs : run crypto start events = s) :
    (∀ now arm own, s.community.bandit.own.get? arm = some own →
      own.pulls ≤ s.community.bandit._aggregate_pulls now arm) ∧
    (∀ now, s.community.bandit.total_pulls now =
      (s.community.bandit.own.keys.map (s.community.bandit._aggregate_pulls now)).sum) ∧
    (∀ now now' arm, ∀ o ∈ (UCB1.confidence_bounds s.community.bandit now now' arm).operands,
      o.Sound) ∧
    ∀ c integers clock candidates, s.community.bandit.Steady clock →
      ∀ o ∈ (UCB1.select_arm s.community.bandit c integers clock candidates).operands, o.Sound := by
  subst hs
  obtain ⟨peer_id, public_key, algorithm, model_names, hcommunity, -, -⟩ := hstart
  have hnew : Sums start.community.bandit := by
    rw [hcommunity]
    exact sums_new ..
  have hsums := sums_run crypto hnew hevents
  refine ⟨fun now arm own hown => hsums.counted.own_le hown now,
    fun now => Bandit.total_pulls_eq hsums.tabled now,
    fun now now' arm => (UCB1.confidence_bounds_sound hsums.counted hsums.tabled now now' arm).1,
    fun c integers clock candidates hsteady => ?_⟩
  exact (UCB1.select_arm_sound hsums.counted hsums.tabled c integers hsteady candidates).1

/-! ## Three runs -/

/-- What the peer of `demoStart` holds after one signed message about an arm. -/
def heardPulls (pulls : ℤ) : Bandit ℚ :=
  (run (B := ℚ) demoCrypto demoStart [.on_gossip 0 (pullsGossip "lightgbm" pulls 1)]
  ).community.bandit

theorem steady_const (b : Bandit ℚ) (now : ℚ) : b.Steady fun _ => now :=
  fun _ _ _ _ _ _ _ hfresh => hfresh

/-- A peer hears five pulls of an arm it has not pulled, and selects an arm. -/
theorem counts_of_run_heard :
    ((heardPulls 5)._aggregate_pulls 10 "lightgbm" = 5) ∧
    (∀ now, (heardPulls 5).total_pulls now =
      ((heardPulls 5).own.keys.map ((heardPulls 5)._aggregate_pulls now)).sum) ∧
    (UCB1.select_arm (heardPulls 5) 2 (fun n => Fin.last n) (fun _ => 10) ["lightgbm"]).operands =
      [.logarithm 6, .divisor 6, .divisor 5] ∧
    ∀ o ∈ (UCB1.select_arm (heardPulls 5) 2 (fun n => Fin.last n) (fun _ => 10)
      ["lightgbm"]).operands, o.Sound := by
  have hreports : Along (apply (B := ℚ) demoCrypto) (ReportsCounts demoCrypto) demoStart
      [.on_gossip 0 (pullsGossip "lightgbm" 5 1)] := by
    refine ⟨?_, trivial⟩
    rintro payload ⟨⟨now, hevent⟩, -⟩
    cases hevent
    decide
  obtain ⟨-, htotal, -, hselect⟩ := counts_of_run demoCrypto demoStart_initial
    [.on_gossip 0 (pullsGossip "lightgbm" 5 1)] hreports rfl
  have hsound := hselect 2 (fun n => Fin.last n) (fun _ => 10) ["lightgbm"] (steady_const _ 10)
  refine ⟨by decide +kernel, ?_, by decide +kernel, ?_⟩
  · unfold heardPulls
    exact htotal
  · unfold heardPulls
    exact hsound

/-- **One signed message with a negative count**: the aggregate is below the own count, and
bounds and selection divide by it. And with a count of five, an observation that expires
between the two loops of `select_arm` leaves it dividing by zero. -/
theorem negative_pulls :
    (heardPulls (-1))._aggregate_pulls 0 "lightgbm" = -1 ∧
    ((heardPulls (-1)).own_observation "lightgbm").map PeerObservation.pulls = some 0 ∧
    (UCB1.confidence_bounds (heardPulls (-1)) 0 0 "lightgbm").operands =
      [.divisor (-1), .logarithm 0, .divisor (-2)] ∧
    (UCB1.select_arm (heardPulls (-1)) 2 (fun n => Fin.last n) (fun _ => 0) ["lightgbm"]).operands =
      [.logarithm 0, .divisor 0, .divisor (-1)] ∧
    (UCB1.select_arm (heardPulls 5) 2 (fun n => Fin.last n) (fun i => if i = 0 then 0 else 301)
      ["lightgbm"]).operands = [.logarithm 1, .divisor 1, .divisor 0] ∧
    (UCB1.select_arm (heardPulls 5) 2 (fun n => Fin.last n) (fun i => if i = 0 then 0 else 301)
      ["lightgbm"]).raised = some .ZeroDivisionError := by
  refine ⟨by decide +kernel, by decide +kernel, by decide +kernel, by decide +kernel,
    by decide +kernel, by decide +kernel⟩

end Superorganism.LtrMab

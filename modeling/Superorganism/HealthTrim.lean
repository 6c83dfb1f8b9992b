/-
What a purge keeps of the samples: `purge_stale_entries` of `healthchecker/db.py`.

The statement that trims counts, for every sample, the samples of its infohash that are no older.
Samples of one time count against each other. Where the last place that is kept falls among
samples of one time, all of these are deleted, and the infohash keeps fewer than it may: none at
all, if its samples are all of one time (`ties_are_deleted`). In every other case it keeps exactly
its last ones (`keeps_latest_iff`).
-/
import Superorganism.HealthChecker
import Superorganism.Ranking

set_option autoImplicit false

open Superorganism.Py Superorganism.Ranking

namespace Superorganism.HealthChecker

/-- The samples of one infohash, in the order of the table. -/
def samples_of (infohash : String) (db : Db) : List Sample :=
  db.dht_samples.filter fun sample => sample.infohash = infohash

/-- One infohash keeps exactly its latest samples, so many of them if it has as many. -/
def KeepsLatest (keep_samples : ℕ) (before after : List Sample) : Prop :=
  after.Sublist before ∧ after.length = min before.length keep_samples ∧
    ∀ kept ∈ after, ∀ deleted ∈ before, deleted ∉ after → deleted.ts ≤ kept.ts

/-- The purge returns, every infohash that was not stale has its latest samples, and the stale
ones have none. -/
def PurgesSamples (max_variables : ℕ) (cutoff_ts : ℤ) (keep_samples : ℕ) (db : Db) : Prop :=
  let purge := purge_stale_entries max_variables cutoff_ts keep_samples db
  (∃ deleted, purge.1 = .ok deleted) ∧
    (∀ infohash ∉ stale cutoff_ts db,
      KeepsLatest keep_samples (samples_of infohash db) (samples_of infohash purge.2)) ∧
    ∀ infohash ∈ stale cutoff_ts db, samples_of infohash purge.2 = []

/-- Some of the samples of one time are among the last `keep_samples` and some are not. -/
def TiedAtBoundary (keep_samples : ℕ) (samples : List Sample) : Prop :=
  ∃ ts, Straddles Sample.ts samples keep_samples ts

/-! ## The statement that trims -/

/-- The count goes over the samples of one infohash. -/
theorem count_eq_rank (samples : List Sample) (d : Sample) :
    (samples.filter fun d2 => d2.infohash = d.infohash ∧ d.ts ≤ d2.ts).length =
      rank Sample.ts (samples.filter fun s => s.infohash = d.infohash) d.ts := by
  rw [rank, List.countP_filter, List.countP_eq_length_filter]
  congr 2
  funext d2
  rw [Bool.decide_and, Bool.and_comm]

theorem samples_of_trim (samples : List Sample) (keep_samples : ℕ) (infohash : String) :
    (trim_samples keep_samples samples).filter (fun s => s.infohash = infohash) =
      kept Sample.ts (samples.filter fun s => s.infohash = infohash) keep_samples := by
  rw [trim_samples, kept, List.filter_filter, List.filter_filter]
  refine List.filter_congr fun d _ => ?_
  rw [Bool.and_comm, count_eq_rank]
  by_cases h : d.infohash = infohash
  · rw [h]
  · simp only [h, decide_false, Bool.and_false]

theorem keepsLatest_kept_iff (keep_samples : ℕ) (samples : List Sample) :
    KeepsLatest keep_samples samples (kept Sample.ts samples keep_samples) ↔
      ¬ TiedAtBoundary keep_samples samples := by
  rw [TiedAtBoundary, not_exists, ← length_kept_eq_iff]
  constructor
  · rintro ⟨-, hlength, -⟩
    exact hlength
  · intro hlength
    refine ⟨kept_sublist, hlength, fun a ha b hb hdeleted => ?_⟩
    exact (lt_of_mem_kept ha hb hdeleted).le

/-! ## The purge -/

theorem samples_of_purge {max_variables : ℕ} {cutoff_ts : ℤ} {keep_samples : ℕ} {db : Db}
    (hok : Bindable cutoff_ts ∧ (stale cutoff_ts db).length ≤ max_variables ∧ Bindable keep_samples)
    (infohash : String) :
    samples_of infohash (purge_stale_entries max_variables cutoff_ts keep_samples db).2 =
      if infohash ∈ stale cutoff_ts db then []
      else kept Sample.ts (samples_of infohash db) keep_samples := by
  rcases purge_cases max_variables cutoff_ts keep_samples db with ⟨hfail, -⟩ | ⟨-, hdone⟩
  · exact absurd hok hfail
  · rw [hdone, samples_of, samples_of_trim, List.filter_filter]
    by_cases hstale : infohash ∈ stale cutoff_ts db
    · have hnone : db.dht_samples.filter (fun s => decide (s.infohash = infohash) &&
          decide (s.infohash ∉ stale cutoff_ts db)) = [] := by
        refine List.filter_eq_nil_iff.mpr fun s _ => ?_
        simp only [Bool.and_eq_true, decide_eq_true_eq, not_and, not_not]
        rintro rfl
        exact hstale
      rw [hnone, if_pos hstale]
      rfl
    · rw [if_neg hstale]
      congr 1
      refine List.filter_congr fun s _ => ?_
      by_cases h : s.infohash = infohash
      · simp only [h, hstale, not_false_eq_true, decide_true, Bool.and_true]
      · simp only [h, decide_false, Bool.false_and]

/-- **The purge keeps the latest samples exactly if there is no tie at the boundary**: the
statements take their parameters, and no infohash that is left has samples of one time on both
sides of the last place that is kept. -/
theorem keeps_latest_iff (max_variables : ℕ) (cutoff_ts : ℤ) (keep_samples : ℕ) (db : Db) :
    PurgesSamples max_variables cutoff_ts keep_samples db ↔
      (Bindable cutoff_ts ∧ (stale cutoff_ts db).length ≤ max_variables ∧
        Bindable keep_samples) ∧
      ∀ infohash ∉ stale cutoff_ts db, ¬ TiedAtBoundary keep_samples (samples_of infohash db) := by
  constructor
  · rintro ⟨⟨deleted, hreturns⟩, hlatest, -⟩
    rcases purge_cases max_variables cutoff_ts keep_samples db with ⟨-, e, hfail⟩ | ⟨hok, -⟩
    · rw [hfail] at hreturns
      cases hreturns
    · refine ⟨hok, fun infohash hleft => ?_⟩
      have h := hlatest infohash hleft
      rw [samples_of_purge hok, if_neg hleft] at h
      exact (keepsLatest_kept_iff keep_samples _).mp h
  · rintro ⟨hok, hties⟩
    refine ⟨?_, fun infohash hleft => ?_, fun infohash hstale => ?_⟩
    · rcases purge_cases max_variables cutoff_ts keep_samples db with ⟨hfail, -⟩ | ⟨-, hdone⟩
      · exact absurd hok hfail
      · exact ⟨_, congrArg Prod.fst hdone⟩
    · rw [samples_of_purge hok, if_neg hleft]
      exact (keepsLatest_kept_iff keep_samples _).mpr (hties infohash hleft)
    · rw [samples_of_purge hok, if_pos hstale]

/-- Two samples of one second, of which one may be kept. -/
def demoTie : Db := ⟨PyDict.empty, [⟨1, "c0ffee", 43000⟩, ⟨2, "c0ffee", 43000⟩]⟩

/-- Neither of the two is kept. -/
theorem ties_are_deleted :
    ¬ PurgesSamples 32766 36000 1 demoTie ∧
      samples_of "c0ffee" (purge_stale_entries 32766 36000 1 demoTie).2 = [] := by
  have hnone : samples_of "c0ffee" (purge_stale_entries 32766 36000 1 demoTie).2 = [] := by
    decide +kernel
  refine ⟨?_, hnone⟩
  rintro ⟨-, hlatest, -⟩
  have hlength := (hlatest "c0ffee" (by decide +kernel)).2.1
  rw [hnone] at hlength
  revert hlength
  decide +kernel

end Superorganism.HealthChecker

/-
The list of torrents that the health checker shows: `get_all_torrents_with_health` of
`healthchecker/db.py`, over the samples that `insert_sample` writes.

The latest sample of an infohash is found by its time: the query takes the largest time and joins
back what has it. Samples of one second are all joined, and the torrent is listed once for each of
them (`two_samples_of_one_second`). A limit cuts the list wherever it falls. It hides the second
row of a torrent only if that torrent is the last one of all, and the list is cut at exactly as
many rows as there are torrents (`lists_each_once_iff`).
-/
import Superorganism.HealthChecker
import Superorganism.Queries
import Mathlib.Data.Int.ConditionallyCompleteOrder
import Mathlib.Order.WithBot

set_option autoImplicit false

open Superorganism.Py Superorganism.Sql

namespace Superorganism.HealthChecker

/-! ## The table of samples -/

/-- A row of `dht_samples`. A float of the type `F` is no NaN: SQLite keeps that one as NULL. -/
structure SampleRow (F : Type) extends Sample where
  peers_dht : ℤ
  raw_peers : Option String
  url : Option String
  license : Option String
  magnet_link : Option String
  seeders : Option ℤ
  leechers : Option ℤ
  total_peers : Option ℤ
  growth : Option F
  shrink : Option F
  exploding_estimator : Option F

/-- The database with all columns of the samples, and the last id that was given to one. -/
structure HealthDb (F : Type) where
  received_content : PyDict String ReceivedContent
  dht_samples : List (SampleRow F)
  sqlite_sequence : ℕ

variable {F : Type}

/-- A float is `none` if it is a NaN. -/
def insert_sample (infohash_hex : String) (ts peers_dht : ℤ)
    (raw_peers_json url license magnet_link : Option String) (seeders leechers total_peers : ℤ)
    (growth shrink exploding_estimator : Option F) (db : HealthDb F) :
    Except PyError Unit × HealthDb F :=
  if ∃ n ∈ [ts, peers_dht, seeders, leechers, total_peers], ¬ Bindable n then
    (.error intTooLarge, db)
  else if 2 ^ 63 ≤ db.sqlite_sequence + 1 then
    (.error (.OperationalError "database or disk is full"), db)
  else
    (.ok (), { db with
      sqlite_sequence := db.sqlite_sequence + 1
      dht_samples := db.dht_samples ++ [{
        id := db.sqlite_sequence + 1
        infohash := infohash_hex
        ts, peers_dht
        raw_peers := raw_peers_json
        url, license, magnet_link
        seeders := some seeders
        leechers := some leechers
        total_peers := some total_peers
        growth, shrink, exploding_estimator }] })

/-! ## The query -/

/-- `MAX(ts)` of the group of an infohash. -/
def max_ts (infohash : String) (samples : List (SampleRow F)) : Option ℤ :=
  ((samples.filter fun s => s.infohash = infohash).map fun s => s.ts).max?

/-- `s.infohash = rc.infohash AND s.ts = latest.max_ts`. -/
def latest_samples (infohash : String) (samples : List (SampleRow F)) : List (SampleRow F) :=
  samples.filter fun s => s.infohash = infohash ∧ max_ts infohash samples = some s.ts

abbrev Joined (F : Type) := (String × ReceivedContent) × Option (SampleRow F)

/-- `received_content rc LEFT JOIN ... latest LEFT JOIN dht_samples s`. -/
def joined (db : HealthDb F) : List (Joined F) :=
  leftJoin (fun entry s => s.infohash = entry.1 ∧ max_ts entry.1 db.dht_samples = some s.ts)
    db.dht_samples db.received_content.entries

/-- A value in descending order, NULLS LAST. -/
def nullsLast : Option ℤ → WithBot ℤ
  | none => ⊥
  | some n => n

/-- `ORDER BY s.ts DESC NULLS LAST, rc.received_at DESC`. -/
def order_key (row : Joined F) : WithBot ℤ ×ₗ ℤ :=
  toLex (nullsLast (row.2.map fun s => s.ts), row.1.2.received_at)

structure TorrentHealth (F : Type) where
  infohash : String
  timestamp : Option ℤ
  url : String
  license : String
  magnet_link : String
  seeders : ℤ
  leechers : ℤ
  total_peers : ℤ
  growth : F
  shrink : F
  exploding_estimator : F

variable [Zero F]

/-- One row of the answer; what is NULL is zero. -/
def torrent_health (row : Joined F) : TorrentHealth F where
  infohash := row.1.1
  timestamp := row.2.map fun s => s.ts
  url := row.1.2.url
  license := row.1.2.license
  magnet_link := row.1.2.magnet_link
  seeders := (row.2.bind fun s => s.seeders).getD 0
  leechers := (row.2.bind fun s => s.leechers).getD 0
  total_peers := (row.2.bind fun s => s.total_peers).getD 0
  growth := (row.2.bind fun s => s.growth).getD 0
  shrink := (row.2.bind fun s => s.shrink).getD 0
  exploding_estimator := (row.2.bind fun s => s.exploding_estimator).getD 0

def get_all_torrents_with_health (order : OrderBy (order_key (F := F))) (limit : ℤ)
    (db : HealthDb F) : Except PyError (List (TorrentHealth F)) :=
  if ¬ Bindable limit then .error intTooLarge
  else .ok ((takeLimit limit (order.sort (joined db))).map torrent_health)

/-! ## What the list should be -/

/-- One of the latest samples of an infohash, or `none` if it has no sample. -/
def IsLatest (db : HealthDb F) (infohash : String) : Option (SampleRow F) → Prop
  | none => ∀ s ∈ db.dht_samples, s.infohash ≠ infohash
  | some sample => sample ∈ db.dht_samples ∧ sample.infohash = infohash ∧
      ∀ s ∈ db.dht_samples, s.infohash = infohash → s.ts ≤ sample.ts

/-- The statistics are those of the sample, or zeros. -/
def Shows (health : TorrentHealth F) : Option (SampleRow F) → Prop
  | none => health.timestamp = none ∧ health.seeders = 0 ∧ health.leechers = 0 ∧
      health.total_peers = 0 ∧ health.growth = 0 ∧ health.shrink = 0 ∧
      health.exploding_estimator = 0
  | some sample => health.timestamp = some sample.ts ∧ health.seeders = sample.seeders.getD 0 ∧
      health.leechers = sample.leechers.getD 0 ∧
      health.total_peers = sample.total_peers.getD 0 ∧ health.growth = sample.growth.getD 0 ∧
      health.shrink = sample.shrink.getD 0 ∧
      health.exploding_estimator = sample.exploding_estimator.getD 0

/-- A row of the list is about a received infohash and shows one of its latest samples. -/
def HealthOf (db : HealthDb F) (health : TorrentHealth F) : Prop :=
  ∃ row sample, db.received_content.get? health.infohash = some row ∧
    health.url = row.url ∧ health.license = row.license ∧
    health.magnet_link = row.magnet_link ∧
    IsLatest db health.infohash sample ∧ Shows health sample

/-- The call returns a list of such rows, with exactly one for each received infohash. -/
def ListsEachOnce (order : OrderBy (order_key (F := F))) (limit : ℤ) (db : HealthDb F) : Prop :=
  ∃ healths, get_all_torrents_with_health order limit db = .ok healths ∧
    (∀ infohash ∈ db.received_content.keys,
      healths.countP (fun health => health.infohash = infohash) = 1) ∧
    ∀ health ∈ healths, HealthOf db health

/-! ## The latest samples -/

section

omit [Zero F]

variable {db : HealthDb F} {samples : List (SampleRow F)} {infohash : String}

theorem max_ts_eq_some {ts : ℤ} : max_ts infohash samples = some ts ↔
    (∃ s ∈ samples, s.infohash = infohash ∧ s.ts = ts) ∧
      ∀ s ∈ samples, s.infohash = infohash → s.ts ≤ ts := by
  rw [max_ts, List.max?_eq_some_iff]
  simp only [List.mem_map, List.mem_filter, decide_eq_true_eq, and_assoc, forall_exists_index,
    and_imp]
  refine and_congr_right fun _ => ⟨fun h s hs hin => h _ s hs hin rfl, ?_⟩
  rintro h _ s hs hin rfl
  exact h s hs hin

theorem max_ts_eq_none : max_ts infohash samples = none ↔ ∀ s ∈ samples, s.infohash ≠ infohash := by
  rw [max_ts, List.max?_eq_none_iff, List.map_eq_nil_iff, List.filter_eq_nil_iff]
  simp only [decide_eq_true_eq]

/-- Where there is a sample there is a latest one. -/
theorem latest_samples_eq_nil :
    latest_samples infohash samples = [] ↔ max_ts infohash samples = none := by
  rw [latest_samples, List.filter_eq_nil_iff]
  constructor
  · intro h
    by_contra hsome
    obtain ⟨ts, hts⟩ := Option.ne_none_iff_exists'.mp hsome
    obtain ⟨s, hs, hin, rfl⟩ := (max_ts_eq_some.mp hts).1
    exact h s hs (decide_eq_true ⟨hin, hts⟩)
  · intro hnone s _ hs
    obtain ⟨-, hts⟩ := of_decide_eq_true hs
    rw [hnone] at hts
    cases hts

/-! ## The rows of the join -/

/-- The key of an infohash: that of all its rows. -/
def entry_key (db : HealthDb F) (entry : String × ReceivedContent) : WithBot ℤ ×ₗ ℤ :=
  toLex (nullsLast (max_ts entry.1 db.dht_samples), entry.2.received_at)

theorem mem_joined {row : Joined F} : row ∈ joined db ↔ row.1 ∈ db.received_content.entries ∧
    row.2.map (fun s => s.ts) = max_ts row.1.1 db.dht_samples ∧ IsLatest db row.1.1 row.2 := by
  rw [joined, mem_leftJoin]
  refine and_congr_right fun _ => ?_
  obtain ⟨entry, sample⟩ := row
  cases sample with
  | none =>
      rw [mem_matched_none, ← List.filter_eq_nil_iff]
      change latest_samples entry.1 db.dht_samples = [] ↔ _
      rw [latest_samples_eq_nil]
      constructor
      · intro hnone
        exact ⟨hnone.symm, max_ts_eq_none.mp hnone⟩
      · rintro ⟨hnone, -⟩
        exact hnone.symm
  | some s =>
      rw [mem_matched_some, decide_eq_true_eq]
      constructor
      · rintro ⟨hs, hin, hts⟩
        exact ⟨hts.symm, hs, hin, (max_ts_eq_some.mp hts).2⟩
      · rintro ⟨hts, hs, hin, -⟩
        exact ⟨hs, hin, hts.symm⟩

theorem order_key_eq {row : Joined F} (h : row ∈ joined db) : order_key row = entry_key db row.1 := by
  rw [order_key, entry_key, (mem_joined.mp h).2.1]

/-- One row for each of the latest samples, but one at least. -/
theorem count_joined {entry : String × ReceivedContent}
    (h : entry ∈ db.received_content.entries) :
    (joined db).countP (fun row => row.1.1 = entry.1) =
      max 1 (latest_samples entry.1 db.dht_samples).length :=
  count_leftJoin Prod.fst db.received_content.nodup h

/-- The torrent is behind all the others, whatever the order of rows of equal keys. -/
def SortsLast (db : HealthDb F) (entry : String × ReceivedContent) : Prop :=
  ∀ other ∈ db.received_content.entries, other ≠ entry → entry_key db entry < entry_key db other

theorem eq_of_fst_eq {entry other : String × ReceivedContent}
    (h : entry ∈ db.received_content.entries) (hother : other ∈ db.received_content.entries)
    (heq : entry.1 = other.1) : entry = other :=
  Unique.inj db.received_content.nodup h hother heq

/-! ## Sorted and cut -/

variable {order : OrderBy (order_key (F := F))} {limit : ℤ}

/-- The rows that are read. -/
def shown (order : OrderBy (order_key (F := F))) (limit : ℤ) (db : HealthDb F) : List (Joined F) :=
  takeLimit limit (order.sort (joined db))

theorem mem_joined_of_shown {row : Joined F} (h : row ∈ shown order limit db) : row ∈ joined db :=
  (order.perm _).mem_iff.mp ((takeLimit_sublist limit _).subset h)

theorem count_sorted {entry : String × ReceivedContent}
    (h : entry ∈ db.received_content.entries) :
    (order.sort (joined db)).countP (fun row => row.1.1 = entry.1) =
      max 1 (latest_samples entry.1 db.dht_samples).length := by
  rw [(order.perm _).countP_eq, count_joined h]

/-- Every received infohash has one row among those that are read. -/
def EachOnce (order : OrderBy (order_key (F := F))) (limit : ℤ) (db : HealthDb F) : Prop :=
  ∀ entry ∈ db.received_content.entries,
    (shown order limit db).countP (fun row => row.1.1 = entry.1) = 1

/-- Rows of the join with each received infohash once are as many as the received infohashes. -/
theorem length_of_joined {rows : List (Joined F)} (hrows : ∀ row ∈ rows, row ∈ joined db)
    (honce : ∀ entry ∈ db.received_content.entries,
      rows.countP (fun row => row.1.1 = entry.1) = 1) :
    rows.length = db.received_content.length := by
  rw [length_of_each_once (fun row : Joined F => row.1.1) db.received_content.nodup,
    List.length_map, PyDict.length]
  · intro row hrow
    exact List.mem_map_of_mem (mem_joined.mp (hrows row hrow)).1
  · intro infohash hmem
    obtain ⟨entry, hentry, rfl⟩ := List.mem_map.mp hmem
    exact honce entry hentry

/-- Without ties the whole table is read. -/
theorem eachOnce_of_untied
    (huntied : ∀ entry ∈ db.received_content.entries,
      (latest_samples entry.1 db.dht_samples).length < 2)
    (hlimit : db.received_content.length ≤ limit) : EachOnce order limit db := by
  have honce (entry : String × ReceivedContent) (h : entry ∈ db.received_content.entries) :
      (order.sort (joined db)).countP (fun row => row.1.1 = entry.1) = 1 := by
    rw [count_sorted h]
    have hfew := huntied entry h
    omega
  have hlength := length_of_joined (fun row hrow => (order.perm _).mem_iff.mp hrow) honce
  rw [EachOnce, shown, takeLimit_of_length_le (by omega)]
  exact honce

/-- The rows of the last torrent are at the end. -/
theorem sort_eq_append {entry : String × ReceivedContent}
    (hentry : entry ∈ db.received_content.entries) (hlast : SortsLast db entry) :
    let rows := order.sort (joined db)
    rows = rows.filter (fun row => row.1.1 ≠ entry.1) ++
      rows.filter (fun row => !decide (row.1.1 ≠ entry.1)) := by
  intro rows
  have hmem (row : Joined F) : row ∈ rows ↔ row ∈ joined db := (order.perm _).mem_iff
  refine eq_filter_append ((order.descending _).imp_of_mem fun {a b} ha hb hle hother => ?_)
  have hb' := (mem_joined.mp ((hmem b).mp hb)).1
  by_contra hown
  have ha' : a.1 = entry := by
    refine eq_of_fst_eq (mem_joined.mp ((hmem a).mp ha)).1 hentry ?_
    simpa using hown
  have hne : b.1 ≠ entry := by
    rintro rfl
    simp at hother
  rw [order_key_eq ((hmem a).mp ha), order_key_eq ((hmem b).mp hb), ha'] at hle
  exact absurd (hlast b.1 hb' hne) (not_lt.mpr hle)

/-- If the last torrent is the only one with ties, the list ends with its first row. -/
theorem eachOnce_of_sortsLast {entry : String × ReceivedContent}
    (hentry : entry ∈ db.received_content.entries) (hlast : SortsLast db entry)
    (huntied : ∀ other ∈ db.received_content.entries, other ≠ entry →
      (latest_samples other.1 db.dht_samples).length < 2) :
    EachOnce order db.received_content.length db := by
  let rows := order.sort (joined db)
  let others := rows.filter fun row => row.1.1 ≠ entry.1
  let own := rows.filter fun row => !decide (row.1.1 ≠ entry.1)
  have hsplit : rows = others ++ own := sort_eq_append hentry hlast
  have hown (row : Joined F) (h : row ∈ own) : row.1.1 = entry.1 := by
    simpa using (List.mem_filter.mp h).2
  have hnone : others.countP (fun row => row.1.1 = entry.1) = 0 := by
    refine List.countP_eq_zero.mpr fun row hrow => ?_
    simpa using (List.mem_filter.mp hrow).2
  obtain ⟨first, rest, hcons⟩ : ∃ first rest, own = first :: rest := by
    cases hcases : own with
    | cons first rest => exact ⟨first, rest, rfl⟩
    | nil =>
        have hcount : rows.countP (fun row => row.1.1 = entry.1) = _ := count_sorted hentry
        rw [hsplit, hcases, List.append_nil, hnone] at hcount
        omega
  have honce (other : String × ReceivedContent) (h : other ∈ db.received_content.entries) :
      (others ++ [first]).countP (fun row => row.1.1 = other.1) = 1 := by
    have hfirst : first.1.1 = entry.1 := hown first (by rw [hcons]; exact List.mem_cons_self)
    rw [List.countP_append, List.countP_singleton]
    by_cases heq : other = entry
    · rw [heq, hnone, if_pos (decide_eq_true hfirst)]
    · have hne : other.1 ≠ entry.1 := fun h' => heq (eq_of_fst_eq h hentry h')
      have hcount : rows.countP (fun row => row.1.1 = other.1) = _ := count_sorted h
      have hzero : own.countP (fun row => row.1.1 = other.1) = 0 := by
        refine List.countP_eq_zero.mpr fun row hrow => ?_
        simpa [hown row hrow] using Ne.symm hne
      rw [hsplit, List.countP_append, hzero] at hcount
      rw [if_neg (by simpa [hfirst] using Ne.symm hne)]
      have hfew := huntied other h heq
      omega
  have hlength : (others ++ [first]).length = db.received_content.length := by
    refine length_of_joined (fun row hrow => (order.perm _).mem_iff.mp ?_) honce
    change row ∈ rows
    rw [hsplit, hcons]
    rcases List.mem_append.mp hrow with hother | hown
    · exact List.mem_append_left _ hother
    · rw [List.mem_singleton.mp hown]
      exact List.mem_append_right _ List.mem_cons_self
  have hshown : shown order db.received_content.length db = others ++ [first] := by
    have hrows : rows = (others ++ [first]) ++ rest := by
      rw [List.append_assoc, List.singleton_append, ← hcons]
      exact hsplit
    change takeLimit _ rows = _
    rw [takeLimit, if_neg (by omega), Int.toNat_natCast, hrows, ← hlength, List.take_left]
  rw [EachOnce, hshown]
  exact honce

/-- If a torrent with ties is listed once whatever the order, it is the last one and the list is
cut behind its first row. -/
theorem sortsLast_of_eachOnce (hlimit : db.received_content.length ≤ limit)
    (h : ∀ order : OrderBy (order_key (F := F)), EachOnce order limit db)
    {entry : String × ReceivedContent} (hentry : entry ∈ db.received_content.entries)
    (htied : 2 ≤ (latest_samples entry.1 db.dht_samples).length) :
    limit = db.received_content.length ∧ SortsLast db entry := by
  -- the rows of this torrent come first among those of their key
  let order := OrderBy.prefer (order_key (F := F)) fun row => row.1.1 = entry.1
  let rows := order.sort (joined db)
  have hmem (row : Joined F) : row ∈ rows ↔ row ∈ joined db := (order.perm _).mem_iff
  have htake : shown order limit db = rows.take limit.toNat := by
    change takeLimit limit rows = _
    rw [takeLimit, if_neg (by omega)]
  have hlength := length_of_joined (fun row => mem_joined_of_shown) (h order)
  have hcount : rows.countP (fun row => row.1.1 = entry.1) = _ := count_sorted hentry
  have hone := h order entry hentry
  have hdrop : 1 ≤ (rows.drop limit.toNat).countP (fun row => row.1.1 = entry.1) := by
    rw [← List.take_append_drop limit.toNat rows, List.countP_append] at hcount
    rw [htake] at hone
    omega
  rw [htake, List.length_take] at hlength
  constructor
  · have hrest := hdrop.trans List.countP_le_length
    rw [List.length_drop] at hrest
    omega
  · intro other hother hne
    by_contra hlt
    obtain ⟨own, hown, hid⟩ := List.countP_pos_iff.mp (Nat.lt_of_lt_of_le Nat.zero_lt_one hdrop)
    have hotherone := h order other hother
    rw [htake] at hotherone
    obtain ⟨row, hrow, hrowid⟩ := List.countP_pos_iff.mp (hotherone.symm ▸ Nat.zero_lt_one)
    have hownmem := (hmem own).mp (List.mem_of_mem_drop hown)
    have hrowmem := (hmem row).mp (List.mem_of_mem_take hrow)
    have howneq : own.1 = entry :=
      eq_of_fst_eq (mem_joined.mp hownmem).1 hentry (of_decide_eq_true hid)
    have hroweq : row.1 = other :=
      eq_of_fst_eq (mem_joined.mp hrowmem).1 hother (of_decide_eq_true hrowid)
    have hpair : rows.Pairwise _ := OrderBy.prefer_pairwise order_key _ (joined db)
    rw [← List.take_append_drop limit.toNat rows, List.pairwise_append] at hpair
    rcases hpair.2.2 row hrow own hown with hkey | hfirst
    · rw [order_key_eq hownmem, order_key_eq hrowmem, howneq, hroweq] at hkey
      exact hlt hkey
    · have hsame := of_decide_eq_true (hfirst hid)
      rw [hroweq] at hsame
      exact hne (eq_of_fst_eq hother hentry hsame)

end

/-! ## The answer -/

variable {db : HealthDb F} {order : OrderBy (order_key (F := F))} {limit : ℤ}

theorem shows_torrent_health (row : Joined F) : Shows (torrent_health row) row.2 := by
  obtain ⟨entry, sample⟩ := row
  cases sample with
  | none => exact ⟨rfl, rfl, rfl, rfl, rfl, rfl, rfl⟩
  | some s => exact ⟨rfl, rfl, rfl, rfl, rfl, rfl, rfl⟩

/-- Whatever is cut, what is listed is about a received infohash. -/
theorem healthOf_torrent_health {row : Joined F} (h : row ∈ joined db) :
    HealthOf db (torrent_health row) := by
  obtain ⟨hentry, -, hlatest⟩ := mem_joined.mp h
  exact ⟨row.1.2, row.2, PyDict.get?_eq_some.mpr hentry, rfl, rfl, rfl, hlatest,
    shows_torrent_health row⟩

theorem listsEachOnce_iff :
    ListsEachOnce order limit db ↔ Bindable limit ∧ EachOnce order limit db := by
  unfold ListsEachOnce get_all_torrents_with_health
  by_cases hbind : Bindable limit
  · rw [if_neg (not_not.mpr hbind)]
    constructor
    · rintro ⟨healths, heq, honce, -⟩
      cases heq
      refine ⟨hbind, fun entry hentry => ?_⟩
      have h := honce entry.1 (List.mem_map_of_mem hentry)
      rw [List.countP_map] at h
      exact h
    · rintro ⟨-, honce⟩
      refine ⟨_, rfl, fun infohash hmem => ?_, fun health hmem => ?_⟩
      · obtain ⟨entry, hentry, rfl⟩ := List.mem_map.mp hmem
        rw [List.countP_map]
        exact honce entry hentry
      · obtain ⟨row, hrow, rfl⟩ := List.mem_map.mp hmem
        exact healthOf_torrent_health (mem_joined_of_shown hrow)
  · rw [if_pos hbind]
    constructor
    · rintro ⟨healths, heq, -⟩
      cases heq
    · rintro ⟨h, -⟩
      exact absurd h hbind

/-- **Each torrent is listed once exactly if the ties fall behind the limit**: the limit is an
integer of the database, and no received infohash has two latest samples, unless it is the only
one, comes behind all the others and the limit is the number of torrents. -/
theorem lists_each_once_iff (db : HealthDb F) (limit : ℤ)
    (hlimit : db.received_content.length ≤ limit) :
    (∀ order : OrderBy (order_key (F := F)), ListsEachOnce order limit db) ↔
      limit < 2 ^ 63 ∧ ∀ entry ∈ db.received_content.entries,
        2 ≤ (latest_samples entry.1 db.dht_samples).length →
          limit = db.received_content.length ∧ SortsLast db entry := by
  simp only [listsEachOnce_iff]
  constructor
  · intro h
    have hbind : Bindable limit := (h (OrderBy.prefer order_key fun _ => false)).1
    exact ⟨hbind.2, fun entry hentry htied =>
      sortsLast_of_eachOnce hlimit (fun order => (h order).2) hentry htied⟩
  · rintro ⟨hlt, hties⟩ order
    refine ⟨⟨by omega, hlt⟩, ?_⟩
    by_cases htied : ∃ entry ∈ db.received_content.entries,
        2 ≤ (latest_samples entry.1 db.dht_samples).length
    · obtain ⟨entry, hentry, htwo⟩ := htied
      obtain ⟨rfl, hlast⟩ := hties entry hentry htwo
      refine eachOnce_of_sortsLast hentry hlast fun other hother hne => not_le.mp fun hother2 => ?_
      -- two torrents with ties would each be behind the other
      obtain ⟨-, hlast'⟩ := hties other hother hother2
      exact (hlast other hother hne).asymm (hlast' entry hentry hne.symm)
    · refine eachOnce_of_untied (fun entry hentry => not_le.mp fun htwo => ?_) hlimit
      exact htied ⟨entry, hentry, htwo⟩

/-! ## Two samples of one second -/

def demoReceived : ReceivedContent := ⟨"url", "CC0", "magnet:?xt=urn:btih:c0ffee", 0, "peer", none⟩

/-- A sample with so many seeders. -/
def demoSample (infohash : String) (ts seeders : ℤ) (db : HealthDb ℤ) : HealthDb ℤ :=
  (insert_sample infohash ts seeders none none none none seeders 0 seeders (some 0) (some 0)
    (some 0) db).2

/-- The health of the only torrent is checked once. -/
def demoOnce : HealthDb ℤ :=
  demoSample "c0ffee" 43000 2 ⟨PyDict.empty.set "c0ffee" demoReceived, [], 0⟩

/-- And once more within the same second. -/
def demoTwice : HealthDb ℤ := demoSample "c0ffee" 43000 3 demoOnce

/-- Then the torrent is listed twice. -/
theorem two_samples_of_one_second :
    ¬ ∃ order : OrderBy (order_key (F := ℤ)), ListsEachOnce order 500 demoTwice := by
  rintro ⟨order, hlists⟩
  have hentry : ("c0ffee", demoReceived) ∈ demoTwice.received_content.entries := by
    decide +kernel
  have hlength : (order.sort (joined demoTwice)).length ≤ (500 : ℤ) := by
    rw [(order.perm _).length_eq]
    decide +kernel
  have hone := (listsEachOnce_iff.mp hlists).2 _ hentry
  rw [shown, takeLimit_of_length_le hlength, count_sorted hentry] at hone
  revert hone
  decide +kernel

/-- Of three torrents one has been checked in two seconds, one once and one not yet. -/
def demoSeveral : HealthDb ℤ :=
  demoSample "c0ffee" 43060 3 (demoSample "decade" 43000 0 (demoSample "c0ffee" 43000 2
    ⟨((PyDict.empty.set "c0ffee" demoReceived).set "decade" demoReceived).set "facade" demoReceived,
      [], 0⟩))

/-- Then each of them is listed once. -/
theorem one_sample_of_one_second : demoSeveral.received_content.length = 3 ∧
    demoSeveral.dht_samples.length = 3 ∧
    ∀ order : OrderBy (order_key (F := ℤ)), ListsEachOnce order 500 demoSeveral := by
  have hlimit : demoSeveral.received_content.length ≤ (500 : ℤ) := by decide +kernel
  refine ⟨by decide +kernel, by decide +kernel,
    (lists_each_once_iff demoSeveral 500 hlimit).mpr ⟨by norm_num, ?_⟩⟩
  have huntied : ∀ entry ∈ demoSeveral.received_content.entries,
      ¬ 2 ≤ (latest_samples entry.1 demoSeveral.dht_samples).length := by
    decide +kernel
  exact fun entry hentry htied => absurd htied (huntied entry hentry)

end Superorganism.HealthChecker

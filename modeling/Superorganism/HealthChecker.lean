/-
The received content of the torrent health checker: `healthchecker/liberation_service.py`
over the table of `healthchecker/db.py`.

Two views of what was received: a set in memory that the service fills at its start, and a
table with the time of the last announcement. An announcement of an infohash in the set is
dropped before it gets to the table, so the upsert that would refresh the time of a row
never finds one; and a purge deletes rows without telling the set, so that a purged
infohash stays away until the next start. Either way content that is still announced can be
missing (`reannounced_and_purged`).

It is there in every run in which no dropped announcement would have changed the table
(`NothingLost`, `present_of_due`).
-/
import Mathlib.Data.Finset.Basic
import Superorganism.Py

set_option autoImplicit false

open Superorganism.Py

namespace Superorganism.HealthChecker

/-! ## The table -/

/-- A row of `received_content` without the columns of the sampler. -/
structure ReceivedContent where
  url : String
  license : String
  magnet_link : String
  received_at : ℤ
  source_peer : String
  last_announced_at : Option ℤ
deriving DecidableEq, Repr

/-- The columns of `dht_samples` that a purge reads. -/
structure Sample where
  id : ℕ
  infohash : String
  ts : ℤ
deriving DecidableEq, Repr

/-- The database; `received_content.infohash` is unique. -/
structure Db where
  received_content : PyDict String ReceivedContent
  dht_samples : List Sample

/-- `COALESCE(last_announced_at, received_at)`. -/
def ReceivedContent.stamp (row : ReceivedContent) : ℤ := row.last_announced_at.getD row.received_at

/-- An integer is bound to a parameter of a statement if it has 64 bits. -/
def Bindable (n : ℤ) : Prop := -2 ^ 63 ≤ n ∧ n < 2 ^ 63

instance (n : ℤ) : Decidable (Bindable n) := inferInstanceAs (Decidable (_ ∧ _))

def intTooLarge : PyError := .OverflowError "Python int too large to convert to SQLite INTEGER"

def insert_received_content (infohash url license magnet_link : String) (received_at : ℤ)
    (source_peer : String) (db : Db) : Except PyError Bool × Db :=
  let row : ReceivedContent :=
    match db.received_content.get? infohash with
    | none => ⟨url, license, magnet_link, received_at, source_peer, some received_at⟩
    | some row => { row with last_announced_at := some received_at }
  if ¬ Bindable received_at then (.error intTooLarge, db)
  else (.ok true, { db with received_content := db.received_content.set infohash row })

def get_all_received_infohashes (db : Db) : Finset String :=
  (db.received_content.entries.map Prod.fst).toFinset

/-- The infohashes a purge finds. -/
def stale (cutoff_ts : ℤ) (db : Db) : List String :=
  (db.received_content.entries.filter fun entry => entry.2.stamp < cutoff_ts).map Prod.fst

/-- The samples that are left when each infohash keeps its last ones. -/
def trim_samples (keep_samples : ℕ) (samples : List Sample) : List Sample :=
  samples.filter fun d =>
    (samples.filter fun d2 => d2.infohash = d.infohash ∧ d.ts ≤ d2.ts).length ≤ keep_samples

/-- One variable is bound for each stale infohash, of which a statement takes so many. What was
deleted before a statement fails is not committed. -/
def purge_stale_entries (max_variables : ℕ) (cutoff_ts : ℤ) (keep_samples : ℕ) (db : Db) :
    Except PyError ℕ × Db :=
  let stale := stale cutoff_ts db
  if ¬ Bindable cutoff_ts then (.error intTooLarge, db)
  else if max_variables < stale.length then
    (.error (.OperationalError "too many SQL variables"), db)
  else if ¬ Bindable keep_samples then (.error intTooLarge, db)
  else
    (.ok stale.length, {
      received_content := stale.foldl PyDict.erase db.received_content
      dht_samples := trim_samples keep_samples
        (db.dht_samples.filter fun sample => sample.infohash ∉ stale) })

/-- A purge fails as a whole, or does both deletions. -/
theorem purge_cases (max_variables : ℕ) (cutoff_ts : ℤ) (keep_samples : ℕ) (db : Db) :
    (¬ (Bindable cutoff_ts ∧ (stale cutoff_ts db).length ≤ max_variables ∧
        Bindable keep_samples) ∧
      ∃ e, purge_stale_entries max_variables cutoff_ts keep_samples db = (.error e, db)) ∨
    ((Bindable cutoff_ts ∧ (stale cutoff_ts db).length ≤ max_variables ∧
        Bindable keep_samples) ∧
      purge_stale_entries max_variables cutoff_ts keep_samples db =
        (.ok (stale cutoff_ts db).length, {
          received_content := (stale cutoff_ts db).foldl PyDict.erase db.received_content
          dht_samples := trim_samples keep_samples
            (db.dht_samples.filter fun sample => sample.infohash ∉ stale cutoff_ts db) })) := by
  unfold purge_stale_entries
  dsimp only
  by_cases hcutoff : Bindable cutoff_ts
  · by_cases hmany : max_variables < (stale cutoff_ts db).length
    · rw [if_neg (not_not.mpr hcutoff), if_pos hmany]
      exact .inl ⟨fun h => absurd h.2.1 (not_le.mpr hmany), _, rfl⟩
    · by_cases hkeep : Bindable keep_samples
      · rw [if_neg (not_not.mpr hcutoff), if_neg hmany, if_neg (not_not.mpr hkeep)]
        exact .inr ⟨⟨hcutoff, not_lt.mp hmany, hkeep⟩, rfl⟩
      · rw [if_neg (not_not.mpr hcutoff), if_neg hmany, if_pos hkeep]
        exact .inl ⟨fun h => hkeep h.2.2, _, rfl⟩
  · rw [if_pos hcutoff]
    exact .inl ⟨fun h => hcutoff h.1, _, rfl⟩

/-! ## The service -/

/-- An integer goes over the wire in 64 bits. -/
structure LiberatedContentPayload where
  url : String
  license : String
  magnet_link : String
  timestamp : ℤ
  timestamp_fits : Bindable timestamp := by decide
deriving DecidableEq, Repr

/-- The parts of a text before and after the first separator. -/
def splitOnce (sep : List Char) : List Char → Option (List Char × List Char)
  | [] => none
  | c :: cs =>
    if sep <+: c :: cs then some ([], (c :: cs).drop sep.length)
    else (splitOnce sep cs).map fun parts => (c :: parts.1, parts.2)

def _extract_infohash (magnet_link : String) : Option String :=
  match splitOnce "btih:".toList magnet_link.toList with
  | none => none
  | some (_, rest) =>
    let part := match splitOnce "btih:".toList rest with
      | none => rest
      | some (part, _) => part
    some (String.ofList (part.takeWhile (· ≠ '&')))

structure LiberationService where
  received_content : Finset String
  db : Db

namespace LiberationService

/-- The part of `start` that fills the set. -/
def start (db : Db) : LiberationService := ⟨get_all_received_infohashes db, db⟩

/-- The infohash of an announcement that is not refused. -/
def announced (payload : LiberatedContentPayload) : Option String :=
  (_extract_infohash payload.magnet_link).filter (· ≠ "")

/-- An exception of `insert_received_content` is logged by the community. -/
def on_content_received (from_peer : String) (payload : LiberatedContentPayload)
    (service : LiberationService) : LiberationService :=
  match announced payload with
  | none => service
  | some infohash =>
    if infohash ∈ service.received_content then service
    else {
      received_content := insert infohash service.received_content
      db := (insert_received_content infohash payload.url payload.license payload.magnet_link
        payload.timestamp from_peer service.db).2 }

end LiberationService

/-! ## Runs -/

def _STALE_CONTENT_THRESHOLD_SECONDS : ℤ := 7200

def _DHT_SAMPLES_KEEP : ℕ := 30

inductive Event where
  | announcement (from_peer : String) (payload : LiberatedContentPayload)
  /-- A purge of `_run_health_checker` at a time of `now_unix`. -/
  | purge (now : ℤ)
  | restart
deriving DecidableEq, Repr

def cutoff (now : ℤ) : ℤ := now - _STALE_CONTENT_THRESHOLD_SECONDS

def step (max_variables : ℕ) (service : LiberationService) : Event → LiberationService
  | .announcement from_peer payload => service.on_content_received from_peer payload
  | .purge now => { service with
      db := (purge_stale_entries max_variables (cutoff now) _DHT_SAMPLES_KEEP service.db).2 }
  | .restart => LiberationService.start service.db

/-- The state after some events, the latest of which comes first. -/
def after (max_variables : ℕ) (service : LiberationService) : List Event → LiberationService
  | [] => service
  | e :: events => step max_variables (after max_variables service events) e

open LiberationService (announced)

/-- The timestamp of the latest announcement of an infohash. -/
def latest (infohash : String) : List Event → Option ℤ
  | [] => none
  | .announcement _ payload :: events =>
    if announced payload = some infohash then some payload.timestamp else latest infohash events
  | .purge _ :: events => latest infohash events
  | .restart :: events => latest infohash events

/-- The cutoff of the last purge. -/
def lastCutoff : List Event → Option ℤ
  | [] => none
  | .announcement _ _ :: events => lastCutoff events
  | .purge now :: _ => some (cutoff now)
  | .restart :: events => lastCutoff events

/-- An announcement of the infohash was received after the last purge. -/
def announcedSince (infohash : String) : List Event → Prop
  | [] => False
  | .announcement _ payload :: events =>
    announced payload = some infohash ∨ announcedSince infohash events
  | .purge _ :: _ => False
  | .restart :: events => announcedSince infohash events

/-- The infohash was announced, and its latest announcement is not before the cutoff of the
last purge or was received after that purge. -/
def Due (infohash : String) (events : List Event) : Prop :=
  ∃ timestamp, latest infohash events = some timestamp ∧
    ∀ c ∈ lastCutoff events, c ≤ timestamp ∨ announcedSince infohash events

/-- What the table holds of the infohash is as recent as the time. -/
def Fresh (infohash : String) (timestamp : ℤ) (db : Db) : Prop :=
  ∃ row, db.received_content.get? infohash = some row ∧ timestamp ≤ row.stamp

instance (infohash : String) (timestamp : ℤ) (db : Db) : Decidable (Fresh infohash timestamp db) :=
  decidable_of_iff (((db.received_content.get? infohash).any fun row => timestamp ≤ row.stamp) = true)
    (by simp [Fresh, Option.any_eq_true])

/-- The event drops nothing the table lacks: an announcement of an infohash in the set
finds a row at least as recent. And the cutoff does not go back. -/
def NothingLost (service : LiberationService) (events : List Event) : Event → Prop
  | .announcement _ payload => ∀ infohash ∈ announced payload,
    infohash ∈ service.received_content → Fresh infohash payload.timestamp service.db
  | .purge now => ∀ c ∈ lastCutoff events, c ≤ cutoff now
  | .restart => True

instance (service : LiberationService) (events : List Event) :
    (e : Event) → Decidable (NothingLost service events e)
  | .announcement _ payload => inferInstanceAs (Decidable (∀ infohash ∈ announced payload, _ → _))
  | .purge now => inferInstanceAs (Decidable (∀ c ∈ lastCutoff events, c ≤ cutoff now))
  | .restart => .isTrue trivial

/-- Nothing is lost at any event of the run. -/
def Lossless (max_variables : ℕ) (service : LiberationService) : List Event → Prop
  | [] => True
  | e :: events => NothingLost (after max_variables service events) events e ∧
    Lossless max_variables service events

instance decidableLossless (max_variables : ℕ) (service : LiberationService) :
    (events : List Event) → Decidable (Lossless max_variables service events)
  | [] => .isTrue trivial
  | e :: events =>
    haveI := decidableLossless max_variables service events
    inferInstanceAs (Decidable (NothingLost (after max_variables service events) events e ∧
      Lossless max_variables service events))

/-! ## One event -/

theorem get?_foldl_erase {ν : Type} (keys : List String) (d : PyDict String ν) (k : String) :
    (keys.foldl PyDict.erase d).get? k = if k ∈ keys then none else d.get? k := by
  induction keys generalizing d with
  | nil => rw [List.foldl_nil, if_neg List.not_mem_nil]
  | cons key keys ih =>
      rw [List.foldl_cons, ih, PyDict.get?_erase]
      by_cases hk : k = key
      · simp [hk]
      · simp [hk]

theorem mem_stale {infohash : String} {c : ℤ} {db : Db} (h : infohash ∈ stale c db) :
    ∃ row, db.received_content.get? infohash = some row ∧ row.stamp < c := by
  obtain ⟨entry, hentry, rfl⟩ := List.mem_map.mp h
  obtain ⟨hmem, hstamp⟩ := List.mem_filter.mp hentry
  exact ⟨entry.2, PyDict.get?_eq_some.mpr hmem, of_decide_eq_true hstamp⟩

/-- A purge leaves a row that is no older than the cutoff. -/
theorem Fresh.purge {infohash : String} {timestamp c : ℤ} {db : Db}
    (h : Fresh infohash timestamp db) (hc : c ≤ timestamp) (max_variables keep_samples : ℕ) :
    Fresh infohash timestamp (purge_stale_entries max_variables c keep_samples db).2 := by
  obtain ⟨row, hrow, hstamp⟩ := h
  rcases purge_cases max_variables c keep_samples db with ⟨-, e, hfail⟩ | ⟨-, hdone⟩
  · rw [hfail]
    exact ⟨row, hrow, hstamp⟩
  · rw [hdone]
    have hkept : infohash ∉ stale c db := by
      intro hstale
      obtain ⟨row', hrow', hold⟩ := mem_stale hstale
      rw [hrow] at hrow'
      cases hrow'
      omega
    refine ⟨row, ?_, hstamp⟩
    rw [get?_foldl_erase, if_neg hkept, hrow]

/-- What is written has the time of the announcement. -/
theorem fresh_insert_received_content (infohash url license magnet_link : String) {received_at : ℤ}
    (hfits : Bindable received_at) (source_peer : String) (db : Db) :
    Fresh infohash received_at
      (insert_received_content infohash url license magnet_link received_at source_peer db).2 := by
  unfold insert_received_content
  rw [if_neg (not_not.mpr hfits)]
  cases db.received_content.get? infohash with
  | none => exact ⟨_, by rw [PyDict.get?_set, if_pos rfl], le_rfl⟩
  | some row => exact ⟨_, by rw [PyDict.get?_set, if_pos rfl], le_rfl⟩

theorem Fresh.insert_received_content {infohash : String} {timestamp : ℤ} {db : Db}
    (h : Fresh infohash timestamp db) {other : String} (hother : infohash ≠ other)
    (url license magnet_link : String) (received_at : ℤ) (source_peer : String) :
    Fresh infohash timestamp
      (insert_received_content other url license magnet_link received_at source_peer db).2 := by
  obtain ⟨row, hrow, hstamp⟩ := h
  refine ⟨row, ?_, hstamp⟩
  unfold HealthChecker.insert_received_content
  dsimp only
  split
  · exact hrow
  · rw [PyDict.get?_set, if_neg hother, hrow]

/-- An announcement that loses nothing is in the table afterwards. -/
theorem fresh_on_content_received {service : LiberationService} {from_peer : String}
    {payload : LiberatedContentPayload} {infohash : String}
    (hannounced : announced payload = some infohash)
    (hlost : infohash ∈ service.received_content → Fresh infohash payload.timestamp service.db) :
    Fresh infohash payload.timestamp (service.on_content_received from_peer payload).db := by
  unfold LiberationService.on_content_received
  rw [hannounced]
  dsimp only
  by_cases hmem : infohash ∈ service.received_content
  · rw [if_pos hmem]
    exact hlost hmem
  · rw [if_neg hmem]
    exact fresh_insert_received_content infohash _ _ _ payload.timestamp_fits _ _

theorem Fresh.on_content_received {service : LiberationService} {infohash : String}
    {timestamp : ℤ} (h : Fresh infohash timestamp service.db) {payload : LiberatedContentPayload}
    (hother : announced payload ≠ some infohash) (from_peer : String) :
    Fresh infohash timestamp (service.on_content_received from_peer payload).db := by
  unfold LiberationService.on_content_received
  cases hannounced : announced payload with
  | none => exact h
  | some other =>
      dsimp only
      by_cases hmem : other ∈ service.received_content
      · rw [if_pos hmem]
        exact h
      · rw [if_neg hmem]
        have hne : infohash ≠ other := by
          intro heq
          rw [heq] at hother
          exact hother hannounced
        exact h.insert_received_content hne ..

/-! ## A run -/

/-- What is due is in the table, as recent as its latest announcement. The induction is on
the events from the last one back. -/
theorem fresh_of_due {max_variables : ℕ} {service : LiberationService} {events : List Event}
    (hlossless : Lossless max_variables service events) {infohash : String} {timestamp : ℤ}
    (hlatest : latest infohash events = some timestamp)
    (hdue : ∀ c ∈ lastCutoff events, c ≤ timestamp ∨ announcedSince infohash events) :
    Fresh infohash timestamp (after max_variables service events).db := by
  induction events with
  | nil => exact nomatch hlatest
  | cons e events ih =>
      obtain ⟨hlost, hrest⟩ := hlossless
      cases e with
      | announcement from_peer payload =>
          rw [latest] at hlatest
          by_cases hannounced : announced payload = some infohash
          · rw [if_pos hannounced] at hlatest
            cases hlatest
            exact fresh_on_content_received hannounced (hlost infohash hannounced)
          · rw [if_neg hannounced] at hlatest
            refine (ih hrest hlatest fun c hc => ?_).on_content_received hannounced from_peer
            exact (hdue c hc).imp_right fun h => h.resolve_left hannounced
      | purge now =>
          have hcutoff : cutoff now ≤ timestamp := (hdue (cutoff now) rfl).resolve_right id
          -- the earlier cutoff is no later, so the row was there before this purge
          refine (ih hrest hlatest fun c hc => .inl ?_).purge hcutoff ..
          exact (hlost c hc).trans hcutoff
      | restart => exact ih hrest hlatest hdue

/-- **Content that is still announced is in the table**, in every run that loses no
announcement. -/
theorem present_of_due {max_variables : ℕ} {service : LiberationService} {events : List Event}
    (hlossless : Lossless max_variables service events) {infohash : String}
    (hdue : Due infohash events) :
    ((after max_variables service events).db.received_content.get? infohash).isSome = true := by
  obtain ⟨timestamp, hlatest, hcutoff⟩ := hdue
  obtain ⟨row, hrow, -⟩ := fresh_of_due hlossless hlatest hcutoff
  rw [hrow]
  rfl

/-! ## Announced again, and purged -/

def demoAnnouncement (timestamp : ℤ) (timestamp_fits : Bindable timestamp := by decide) : Event :=
  .announcement "peer" { url := "url", license := "CC0",
                         magnet_link := "magnet:?xt=urn:btih:c0ffee&dn=video", timestamp,
                         timestamp_fits }

def demoStart : LiberationService := LiberationService.start ⟨PyDict.empty, []⟩

/-- The second announcement is a few minutes old when the purge deletes the row. -/
theorem reannounced_and_purged :
    Due "c0ffee" [.purge 43200, demoAnnouncement 43000, demoAnnouncement 0] ∧
      (after 32766 demoStart [.purge 43200, demoAnnouncement 43000, demoAnnouncement 0]
        ).db.received_content.get? "c0ffee" = none := by
  have hlatest : latest "c0ffee" [.purge 43200, demoAnnouncement 43000, demoAnnouncement 0] =
      some 43000 := by decide +kernel
  refine ⟨⟨43000, hlatest, fun c hc => .inl ?_⟩, by decide +kernel⟩
  cases hc
  decide

/-- A run, from its last event back: announced twice, purged away, announced again after a restart,
and kept over another restart and purge. -/
def demoRun : List Event :=
  [.purge 43300, .restart, demoAnnouncement 43100, .restart, .purge 43200, demoAnnouncement 0,
    demoAnnouncement 0]

theorem present_of_due_demo :
    (after 32766 demoStart demoRun).db.received_content.keys = ["c0ffee"] ∧
      ((after 32766 demoStart demoRun).db.received_content.get? "c0ffee").isSome = true := by
  refine ⟨by decide +kernel, present_of_due (by decide +kernel) ⟨43100, by decide +kernel, ?_⟩⟩
  intro c hc
  cases hc
  exact .inl (by decide)

end Superorganism.HealthChecker

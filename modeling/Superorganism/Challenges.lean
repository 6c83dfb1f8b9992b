/-
`authentication/storage/in_memory_challenge_store.py` and the challenges of
`authentication/models/authentication_models.py`.

A datetime is its number of microseconds. Every call is made at a time, the one
`datetime.now` gives throughout it. A call that raises may have changed the store all
the same: `save` removes what has expired before it finds the store still full. So a
call answers with an exception or a value, and with the store it leaves.

The store drops an expired challenge only when it is asked for or in the way. What a
caller sees is another matter: `lastSaved` reads off the calls made so far which
challenge a key should have, and `challenge_store_spec` says that no run can tell the
store from a map of bounded size whose entries vanish as they expire.
-/
import Mathlib.Data.Set.Card
import Superorganism.Py

set_option autoImplicit false

open Superorganism.Py

namespace Superorganism.Authentication

/-! ## Challenges -/

def AUTHENTICATION_CHALLENGE_TTL_SECONDS : ℤ := 300

structure StoredChallenge where
  public_key_hex : String
  message : String
  issued_at : ℤ
deriving DecidableEq, Repr

def StoredChallenge.is_expired (now : ℤ) (challenge : StoredChallenge) : Bool :=
  decide (now > challenge.issued_at + AUTHENTICATION_CHALLENGE_TTL_SECONDS * 1000000)

/-- What has expired stays expired. -/
theorem StoredChallenge.is_expired_mono {challenge : StoredChallenge} {now later : ℤ}
    (h : now ≤ later) (he : challenge.is_expired now = true) : challenge.is_expired later = true := by
  simp only [StoredChallenge.is_expired, decide_eq_true_eq] at he ⊢
  omega

/-! ## The store -/

structure InMemoryChallengeStore where
  challenges : PyDict String StoredChallenge
  max_size : ℕ
  /-- What `__init__` checks. -/
  max_size_pos : 0 < max_size

namespace InMemoryChallengeStore

def new (max_size : ℕ) (h : 0 < max_size) : InMemoryChallengeStore := ⟨PyDict.empty, max_size, h⟩

variable (self : InMemoryChallengeStore)

/-- One turn of the loop of `_cleanup_expired`. -/
def cleanup_entry (now : ℤ) (challenges : PyDict String StoredChallenge)
    (entry : String × StoredChallenge) : PyDict String StoredChallenge :=
  if entry.2.is_expired now then challenges.erase entry.1 else challenges

def cleanup_expired (now : ℤ) : InMemoryChallengeStore :=
  { self with challenges := self.challenges.entries.foldl (cleanup_entry now) self.challenges }

/-- `self._challenges[challenge.public_key_hex] = challenge`. -/
def put (challenge : StoredChallenge) : InMemoryChallengeStore :=
  { self with challenges := self.challenges.set challenge.public_key_hex challenge }

/-- A new key, and no room for it. -/
def blocks (challenge : StoredChallenge) : Prop :=
  self.challenges.get? challenge.public_key_hex = none ∧ self.max_size ≤ self.challenges.length

instance (challenge : StoredChallenge) : Decidable (self.blocks challenge) :=
  inferInstanceAs (Decidable (_ ∧ _))

def save (now : ℤ) (challenge : StoredChallenge) : Except PyError Unit × InMemoryChallengeStore :=
  if self.blocks challenge then
    let cleaned := self.cleanup_expired now
    if cleaned.max_size ≤ cleaned.challenges.length then
      (.error (.ChallengeStoreFullError
        s!"Challenge store is full (max_size={cleaned.max_size})."), cleaned)
    else (.ok (), cleaned.put challenge)
  else (.ok (), self.put challenge)

def delete (public_key_hex : String) : InMemoryChallengeStore :=
  { self with challenges := self.challenges.erase public_key_hex }

def get (now : ℤ) (public_key_hex : String) : Option StoredChallenge × InMemoryChallengeStore :=
  match self.challenges.get? public_key_hex with
  | none => (none, self)
  | some challenge =>
    if challenge.is_expired now then (none, self.delete public_key_hex) else (some challenge, self)

/-! ## What each operation leaves -/

variable {self} {now : ℤ} {key : String} {challenge : StoredChallenge}

theorem get?_cleanup_fold (entries : List (String × StoredChallenge))
    (challenges : PyDict String StoredChallenge) (key : String) :
    (entries.foldl (cleanup_entry now) challenges).get? key =
      if entries.any (fun entry => entry.1 = key && entry.2.is_expired now) then none
      else challenges.get? key := by
  induction entries generalizing challenges with
  | nil => simp
  | cons entry entries ih =>
      rw [List.foldl_cons, ih, List.any_cons]
      unfold cleanup_entry
      by_cases he : entry.2.is_expired now = true
      · rw [if_pos he, PyDict.get?_erase]
        by_cases hk : key = entry.1
        · simp [hk, he]
        · rw [if_neg hk, decide_eq_false (Ne.symm hk), Bool.false_and, Bool.false_or]
      · rw [if_neg he]
        rw [Bool.not_eq_true] at he
        rw [he, Bool.and_false, Bool.false_or]

/-- Cleaning up removes what has expired and nothing else. -/
theorem get?_cleanup_expired : (self.cleanup_expired now).challenges.get? key =
    (self.challenges.get? key).filter fun challenge => !challenge.is_expired now := by
  rw [cleanup_expired, get?_cleanup_fold]
  cases h : self.challenges.get? key with
  | none => simp
  | some challenge =>
      have hmem := PyDict.get?_eq_some.mp h
      -- the entry of the key is the only one under it
      have hany : self.challenges.entries.any
          (fun entry => entry.1 = key && entry.2.is_expired now) = challenge.is_expired now := by
        rw [Bool.eq_iff_iff, List.any_eq_true]
        constructor
        · rintro ⟨entry, hentry, hexp⟩
          rw [Bool.and_eq_true, decide_eq_true_eq] at hexp
          have heq := List.inj_on_of_nodup_map self.challenges.nodup hentry hmem hexp.1
          rw [heq] at hexp
          exact hexp.2
        · intro hexp
          exact ⟨_, hmem, by simp [hexp]⟩
      rw [hany]
      by_cases hexp : challenge.is_expired now = true
      · simp [Option.filter, hexp]
      · simp [Option.filter, hexp]

theorem length_cleanup_fold_le (entries : List (String × StoredChallenge))
    (challenges : PyDict String StoredChallenge) :
    (entries.foldl (cleanup_entry now) challenges).length ≤ challenges.length := by
  induction entries generalizing challenges with
  | nil => exact le_refl _
  | cons entry entries ih =>
      refine (ih _).trans ?_
      unfold cleanup_entry
      split
      · exact PyDict.length_erase_le ..
      · exact le_refl _

theorem length_cleanup_expired_le :
    (self.cleanup_expired now).challenges.length ≤ self.challenges.length :=
  length_cleanup_fold_le ..

/-- The value `get` returns. -/
theorem get_fst : (self.get now key).1 =
    (self.challenges.get? key).filter fun challenge => !challenge.is_expired now := by
  unfold get
  cases h : self.challenges.get? key with
  | none => rfl
  | some challenge =>
      by_cases he : challenge.is_expired now = true
      · simp [Option.filter, he]
      · simp [Option.filter, he]

/-- The store `get` leaves: an expired challenge under the key is gone. -/
theorem get?_get_snd (key' : String) : (self.get now key).2.challenges.get? key' =
    if key' = key then (self.get now key).1 else self.challenges.get? key' := by
  rw [get_fst, get]
  cases h : self.challenges.get? key with
  | none =>
      by_cases hk : key' = key
      · simp [hk, h]
      · simp [hk]
  | some challenge =>
      by_cases he : challenge.is_expired now = true
      · simp only [he, if_true, delete, PyDict.get?_erase]
        simp [Option.filter, he]
      · by_cases hk : key' = key
        · simp [hk, he, h, Option.filter]
        · simp [hk, he]

/-- The keys of the dictionary. -/
def keys (self : InMemoryChallengeStore) : Finset String :=
  (self.challenges.entries.map Prod.fst).toFinset

theorem card_keys : self.keys.card = self.challenges.length := by
  rw [keys, List.toFinset_card_of_nodup self.challenges.nodup, List.length_map, PyDict.length]

theorem mem_keys : key ∈ self.keys ↔ ∃ challenge, self.challenges.get? key = some challenge := by
  rw [keys, List.mem_toFinset, ← PyDict.get?_isSome, Option.isSome_iff_exists]

end InMemoryChallengeStore

/-! ## Histories -/

inductive Call where
  | save (challenge : StoredChallenge)
  | get (public_key_hex : String)
  | delete (public_key_hex : String)

/-- A call that has been made, and whether it raised. -/
structure Event where
  time : ℤ
  call : Call
  raised : Bool

/-- The challenge most recently saved for a key and not deleted since; the newest event
comes first. -/
def lastSaved : List Event → String → Option StoredChallenge
  | [], _ => none
  | event :: history, key =>
    match event.call with
    | .save challenge =>
      if event.raised = false ∧ challenge.public_key_hex = key then some challenge
      else lastSaved history key
    | .get _ => lastSaved history key
    | .delete key' => if key' = key then none else lastSaved history key

/-- The challenge a key should have at a time. -/
def alive (history : List Event) (now : ℤ) (key : String) : Option StoredChallenge :=
  (lastSaved history key).filter fun challenge => !challenge.is_expired now

/-- The keys other than this one that should have a challenge. -/
def otherKeys (history : List Event) (now : ℤ) (key : String) : Set String :=
  {key' | key' ≠ key ∧ alive history now key' ≠ none}

/-- One call, with the history it extends. -/
def perform (now : ℤ) (call : Call) (s : InMemoryChallengeStore × List Event) :
    InMemoryChallengeStore × List Event :=
  match call with
  | .save challenge =>
    ((s.1.save now challenge).2, ⟨now, call, !(s.1.save now challenge).1.isOk⟩ :: s.2)
  | .get key => ((s.1.get now key).2, ⟨now, call, false⟩ :: s.2)
  | .delete key => (s.1.delete key, ⟨now, call, false⟩ :: s.2)

def run (max_size : ℕ) (h : 0 < max_size) (calls : List (ℤ × Call)) :
    InMemoryChallengeStore × List Event :=
  calls.foldl (fun s call => perform call.1 call.2 s) (.new max_size h, [])

/-! ## The store follows its history -/

/-- The store agrees with its history, up to what has expired by `now`. -/
structure Tracks (store : InMemoryChallengeStore) (history : List Event) (now : ℤ) : Prop where
  size : store.challenges.length ≤ store.max_size
  sound : ∀ key challenge, store.challenges.get? key = some challenge →
    lastSaved history key = some challenge
  complete : ∀ key challenge, lastSaved history key = some challenge →
    challenge.is_expired now = false → store.challenges.get? key = some challenge

namespace Tracks

variable {self : InMemoryChallengeStore} {history : List Event} {now later : ℤ}

theorem mono (h : Tracks self history now) (hle : now ≤ later) : Tracks self history later := by
  refine ⟨h.size, h.sound, fun key challenge hlast hexp => h.complete key challenge hlast ?_⟩
  by_contra hn
  rw [Bool.not_eq_false] at hn
  simp [StoredChallenge.is_expired_mono hle hn] at hexp

/-- Under an expiry test the store and the history say the same. -/
theorem filter_eq (h : Tracks self history now) (key : String) :
    (self.challenges.get? key).filter (fun challenge => !challenge.is_expired now) =
      alive history now key := by
  ext challenge
  simp only [alive, Option.filter_eq_some_iff, Bool.not_eq_true']
  constructor
  · rintro ⟨hget, hexp⟩
    exact ⟨h.sound key challenge hget, hexp⟩
  · rintro ⟨hlast, hexp⟩
    exact ⟨h.complete key challenge hlast hexp, hexp⟩

theorem get_eq (h : Tracks self history now) (key : String) :
    (self.get now key).1 = alive history now key := by
  rw [InMemoryChallengeStore.get_fst, h.filter_eq]

theorem cleanup (h : Tracks self history now) : Tracks (self.cleanup_expired now) history now := by
  refine ⟨InMemoryChallengeStore.length_cleanup_expired_le.trans h.size, ?_, ?_⟩
  · intro key challenge hget
    rw [InMemoryChallengeStore.get?_cleanup_expired, Option.filter_eq_some_iff] at hget
    exact h.sound key challenge hget.1
  · intro key challenge hlast hexp
    rw [InMemoryChallengeStore.get?_cleanup_expired, h.filter_eq, alive,
      Option.filter_eq_some_iff]
    exact ⟨hlast, by simp [hexp]⟩

/-- A challenge is written, over an old one or where there is room. -/
theorem put (h : Tracks self history now) {challenge : StoredChallenge}
    (hroom : (self.challenges.get? challenge.public_key_hex).isSome ∨
      self.challenges.length < self.max_size) (time : ℤ) :
    Tracks (self.put challenge) (⟨time, .save challenge, false⟩ :: history) now := by
  refine ⟨?_, fun key old hget => ?_, fun key old hlast hexp => ?_⟩
  · show (self.challenges.set challenge.public_key_hex challenge).length ≤ self.max_size
    rw [PyDict.length_set]
    -- an overwritten key adds nothing to the size, a new one takes the room there is
    have hsize := h.size
    split
    · exact hsize
    · rcases hroom with hold | hlt
      · contradiction
      · omega
  · rw [InMemoryChallengeStore.put, PyDict.get?_set] at hget
    by_cases hk : key = challenge.public_key_hex
    · rw [if_pos hk] at hget
      simpa [lastSaved, hk] using hget
    · rw [if_neg hk] at hget
      simpa [lastSaved, Ne.symm hk] using h.sound key old hget
  · rw [InMemoryChallengeStore.put, PyDict.get?_set]
    by_cases hk : key = challenge.public_key_hex
    · rw [if_pos hk]
      simpa [lastSaved, hk] using hlast
    · rw [if_neg hk]
      have hlast' : lastSaved history key = some old := by
        simpa [lastSaved, Ne.symm hk] using hlast
      exact h.complete key old hlast' hexp

/-- A save that raised is no save. -/
theorem raised (h : Tracks self history now) (time : ℤ) (challenge : StoredChallenge) :
    Tracks self (⟨time, .save challenge, true⟩ :: history) now := by
  refine ⟨h.size, fun key old hget => ?_, fun key old hlast hexp => ?_⟩
  · simpa [lastSaved] using h.sound key old hget
  · exact h.complete key old (by simpa [lastSaved] using hlast) hexp

theorem delete (h : Tracks self history now) (time : ℤ) (key : String) :
    Tracks (self.delete key) (⟨time, .delete key, false⟩ :: history) now := by
  refine ⟨(PyDict.length_erase_le ..).trans h.size, fun key' old hget => ?_,
    fun key' old hlast hexp => ?_⟩
  · rw [InMemoryChallengeStore.delete, PyDict.get?_erase] at hget
    by_cases hk : key' = key
    · simp [hk] at hget
    · rw [if_neg hk] at hget
      simpa [lastSaved, Ne.symm hk] using h.sound key' old hget
  · rw [InMemoryChallengeStore.delete, PyDict.get?_erase]
    by_cases hk : key' = key
    · simp [lastSaved, hk] at hlast
    · rw [if_neg hk]
      exact h.complete key' old (by simpa [lastSaved, Ne.symm hk] using hlast) hexp

theorem get (h : Tracks self history now) (time : ℤ) (key : String) :
    Tracks (self.get now key).2 (⟨time, .get key, false⟩ :: history) now := by
  have hsize : (self.get now key).2.challenges.length ≤ (self.get now key).2.max_size := by
    unfold InMemoryChallengeStore.get
    split
    · exact h.size
    · split
      · exact (PyDict.length_erase_le ..).trans h.size
      · exact h.size
  refine ⟨hsize, fun key' old hget => ?_, fun key' old hlast hexp => ?_⟩
  · show lastSaved history key' = some old
    rw [InMemoryChallengeStore.get?_get_snd] at hget
    -- an expired challenge is dropped when it is asked for, and was not to be found anyway
    by_cases hk : key' = key
    · rw [if_pos hk, h.get_eq, alive, Option.filter_eq_some_iff] at hget
      rw [hk]
      exact hget.1
    · rw [if_neg hk] at hget
      exact h.sound key' old hget
  · have hlast' : lastSaved history key' = some old := hlast
    rw [InMemoryChallengeStore.get?_get_snd]
    by_cases hk : key' = key
    · rw [if_pos hk, h.get_eq, alive, Option.filter_eq_some_iff, ← hk]
      exact ⟨hlast', by simp [hexp]⟩
    · rw [if_neg hk]
      exact h.complete key' old hlast' hexp

/-! ### `save` -/

/-- After a clean-up the keys are those of the unexpired challenges. -/
theorem mem_keys_cleanup (h : Tracks self history now) {key : String} :
    key ∈ (self.cleanup_expired now).keys ↔ alive history now key ≠ none := by
  rw [InMemoryChallengeStore.mem_keys, InMemoryChallengeStore.get?_cleanup_expired, h.filter_eq,
    Option.ne_none_iff_exists']

/-- How many unexpired challenges there are besides that of a key that has none. -/
theorem ncard_otherKeys (h : Tracks self history now) {key : String}
    (hkey : alive history now key = none) :
    (otherKeys history now key).ncard = (self.cleanup_expired now).challenges.length := by
  have hset : otherKeys history now key = ↑(self.cleanup_expired now).keys := by
    ext key'
    rw [Finset.mem_coe, h.mem_keys_cleanup]
    constructor
    · exact And.right
    · intro halive
      refine ⟨?_, halive⟩
      rintro rfl
      exact halive hkey
  rw [hset, Set.ncard_coe_finset, InMemoryChallengeStore.card_keys]

theorem alive_of_get?_none (h : Tracks self history now) {key : String}
    (hkey : self.challenges.get? key = none) : alive history now key = none := by
  rw [← h.filter_eq, hkey, Option.filter_none]

/-- A store that is full of unexpired challenges of other keys has none under this key,
expired or not. -/
theorem get?_none_of_full (h : Tracks self history now) {key : String}
    (hkey : alive history now key = none)
    (hfull : self.max_size ≤ (otherKeys history now key).ncard) :
    self.challenges.get? key = none := by
  by_contra hget
  obtain ⟨challenge, hchallenge⟩ := Option.ne_none_iff_exists'.mp hget
  have hsub : (self.cleanup_expired now).keys ⊂ self.keys := by
    refine Finset.ssubset_iff_subset_ne.mpr ⟨fun key' hkey' => ?_, fun heq => ?_⟩
    · obtain ⟨old, hold⟩ := InMemoryChallengeStore.mem_keys.mp hkey'
      rw [InMemoryChallengeStore.get?_cleanup_expired, Option.filter_eq_some_iff] at hold
      exact InMemoryChallengeStore.mem_keys.mpr ⟨old, hold.1⟩
    · have hmem : key ∈ self.keys := InMemoryChallengeStore.mem_keys.mpr ⟨challenge, hchallenge⟩
      rw [← heq] at hmem
      exact h.mem_keys_cleanup.mp hmem hkey
  have hcard := Finset.card_lt_card hsub
  rw [InMemoryChallengeStore.card_keys, InMemoryChallengeStore.card_keys] at hcard
  rw [h.ncard_otherKeys hkey] at hfull
  have hsize := h.size
  omega

/-- The store is full for a challenge: its key is new, and cleaning up makes no room. -/
def Full (self : InMemoryChallengeStore) (now : ℤ) (challenge : StoredChallenge) : Prop :=
  self.blocks challenge ∧ self.max_size ≤ (self.cleanup_expired now).challenges.length

theorem save_of_full {challenge : StoredChallenge} (hfull : Full self now challenge) :
    self.save now challenge = (.error (.ChallengeStoreFullError
      s!"Challenge store is full (max_size={self.max_size})."), self.cleanup_expired now) := by
  rw [InMemoryChallengeStore.save, if_pos hfull.1]
  exact if_pos hfull.2

theorem save_of_not_full {challenge : StoredChallenge} (hfull : ¬ Full self now challenge) :
    self.save now challenge = (.ok (),
      (if self.blocks challenge then self.cleanup_expired now else self).put challenge) := by
  rw [InMemoryChallengeStore.save]
  by_cases hblocks : self.blocks challenge
  · rw [if_pos hblocks, if_pos hblocks]
    exact if_neg fun hlen => hfull ⟨hblocks, hlen⟩
  · rw [if_neg hblocks, if_neg hblocks]

theorem full_iff (h : Tracks self history now) (challenge : StoredChallenge) :
    Full self now challenge ↔ self.challenges.get? challenge.public_key_hex = none ∧
      self.max_size ≤ (otherKeys history now challenge.public_key_hex).ncard := by
  constructor
  · rintro ⟨⟨hget, -⟩, hlen⟩
    rw [h.ncard_otherKeys (h.alive_of_get?_none hget)]
    exact ⟨hget, hlen⟩
  · rintro ⟨hget, hlen⟩
    rw [h.ncard_otherKeys (h.alive_of_get?_none hget)] at hlen
    exact ⟨⟨hget, hlen.trans InMemoryChallengeStore.length_cleanup_expired_le⟩, hlen⟩

theorem save (h : Tracks self history now) (challenge : StoredChallenge) :
    Tracks (self.save now challenge).2
      (⟨now, .save challenge, !(self.save now challenge).1.isOk⟩ :: history) now := by
  by_cases hfull : Full self now challenge
  · rw [save_of_full hfull]
    exact h.cleanup.raised now challenge
  · rw [save_of_not_full hfull]
    by_cases hblocks : self.blocks challenge
    · rw [if_pos hblocks]
      have hroom : (self.cleanup_expired now).challenges.length < self.max_size :=
        not_le.mp fun hlen => hfull ⟨hblocks, hlen⟩
      exact h.cleanup.put (.inr hroom) now
    · rw [if_neg hblocks]
      refine h.put ?_ now
      by_cases hget : self.challenges.get? challenge.public_key_hex = none
      · exact .inr (not_le.mp fun hlen => hblocks ⟨hget, hlen⟩)
      · exact .inl (Option.isSome_iff_ne_none.mpr hget)

end Tracks

/-! ## Whole runs -/

/-- One call of any kind. -/
theorem tracks_perform {now : ℤ} {s : InMemoryChallengeStore × List Event} (h : Tracks s.1 s.2 now)
    (call : Call) : Tracks (perform now call s).1 (perform now call s).2 now := by
  cases call with
  | save challenge => exact h.save challenge
  | get key => exact h.get now key
  | delete key => exact h.delete now key

theorem max_size_perform (now : ℤ) (call : Call) (s : InMemoryChallengeStore × List Event) :
    (perform now call s).1.max_size = s.1.max_size := by
  cases call with
  | save challenge =>
      show (s.1.save now challenge).2.max_size = s.1.max_size
      unfold InMemoryChallengeStore.save
      split
      · dsimp only
        split
        · rfl
        · rfl
      · rfl
  | get key =>
      show (s.1.get now key).2.max_size = s.1.max_size
      unfold InMemoryChallengeStore.get
      split
      · rfl
      · split
        · rfl
        · rfl
  | delete key => rfl

/-- The store follows its history through every run. -/
theorem tracks_run {max_size : ℕ} (hpos : 0 < max_size) {calls : List (ℤ × Call)}
    (hmono : (calls.map Prod.fst).Pairwise (· ≤ ·)) :
    (run max_size hpos calls).1.max_size = max_size ∧
      ∀ now, (∀ call ∈ calls, call.1 ≤ now) →
        Tracks (run max_size hpos calls).1 (run max_size hpos calls).2 now := by
  induction calls using List.reverseRecOn with
  | nil =>
      refine ⟨rfl, fun now _ => ⟨Nat.zero_le _, fun key challenge hget => ?_,
        fun key challenge hlast _ => ?_⟩⟩
      · simp [run, InMemoryChallengeStore.new] at hget
      · simp [run, lastSaved] at hlast
  | append_singleton calls call ih =>
      rw [List.map_append, List.pairwise_append] at hmono
      obtain ⟨hsize, htracks⟩ := ih hmono.1
      have hrun : run max_size hpos (calls ++ [call]) =
          perform call.1 call.2 (run max_size hpos calls) := by
        rw [run, List.foldl_append]
        rfl
      rw [hrun]
      refine ⟨(max_size_perform ..).trans hsize, fun now hnow => ?_⟩
      have hbefore : ∀ c ∈ calls, c.1 ≤ call.1 := fun c hc =>
        hmono.2.2 c.1 (List.mem_map_of_mem hc) call.1 (by simp)
      exact (tracks_perform (htracks call.1 hbefore) call.2).mono (hnow call (by simp))

/-- The store is never larger than it may be: its size is seen at the time of the last call, which
is the latest. -/
theorem length_run_le {max_size : ℕ} (hpos : 0 < max_size) {calls : List (ℤ × Call)}
    (hmono : (calls.map Prod.fst).Pairwise (· ≤ ·)) :
    (run max_size hpos calls).1.challenges.length ≤ max_size := by
  obtain ⟨hsize, htracks⟩ := tracks_run hpos hmono
  cases hlast : calls.getLast? with
  | none =>
      rw [List.getLast?_eq_none_iff] at hlast
      subst hlast
      exact Nat.zero_le _
  | some call =>
      have hlatest : ∀ c ∈ calls, c.1 ≤ call.1 := by
        intro c hc
        obtain ⟨front, rfl⟩ := List.getLast?_eq_some_iff.mp hlast
        rcases List.mem_append.mp hc with hc | hc
        · rw [List.map_append, List.pairwise_append] at hmono
          exact hmono.2.2 c.1 (List.mem_map_of_mem hc) call.1 (by simp)
        · rw [List.mem_singleton.mp hc]
      exact (htracks call.1 hlatest).size.trans hsize.le

/-- **The store is a map of bounded size whose entries vanish as they expire.** After every
sequence of calls at non-decreasing times it holds at most `max_size` challenges; at any
later time `get` returns the challenge last saved for the key and neither deleted nor
expired; and `save` raises exactly when the key is not stored and there are `max_size`
unexpired challenges of other keys, which are then all still there. -/
theorem challenge_store_spec (max_size : ℕ) (hpos : 0 < max_size) (calls : List (ℤ × Call))
    (hmono : (calls.map Prod.fst).Pairwise (· ≤ ·)) :
    let store := (run max_size hpos calls).1
    let history := (run max_size hpos calls).2
    store.challenges.length ≤ max_size ∧
      ∀ now, (∀ call ∈ calls, call.1 ≤ now) →
        (∀ key, (store.get now key).1 = alive history now key) ∧
        ∀ challenge : StoredChallenge,
          ((store.save now challenge).1 = .ok () ∨
            (store.save now challenge).1 = .error (.ChallengeStoreFullError
              s!"Challenge store is full (max_size={max_size}).")) ∧
          ((store.save now challenge).1 ≠ .ok () ↔
            store.challenges.get? challenge.public_key_hex = none ∧
              max_size ≤ (otherKeys history now challenge.public_key_hex).ncard) ∧
          ((store.save now challenge).1 ≠ .ok () ↔
            alive history now challenge.public_key_hex = none ∧
              max_size ≤ (otherKeys history now challenge.public_key_hex).ncard) ∧
          ((store.save now challenge).1 ≠ .ok () → ∀ key,
            ((store.save now challenge).2.get now key).1 = alive history now key) := by
  intro store history
  obtain ⟨hsize, htracks⟩ := tracks_run hpos hmono
  refine ⟨?_, fun now hnow => ⟨(htracks now hnow).get_eq, fun challenge => ?_⟩⟩
  · exact length_run_le hpos hmono
  have h := htracks now hnow
  -- `save` raises on its own test; the two conditions of the statement are this test over the
  -- dictionary, by `full_iff`, and over the history of the calls
  have hne : (store.save now challenge).1 ≠ .ok () ↔ Tracks.Full store now challenge := by
    constructor
    · intro hraised
      by_contra hfull
      exact hraised (by rw [Tracks.save_of_not_full hfull])
    · intro hfull
      rw [Tracks.save_of_full hfull]
      exact nofun
  have hfull := h.full_iff challenge
  rw [hsize] at hfull
  refine ⟨?_, hne.trans hfull, hne.trans (hfull.trans ?_), fun hraised key => ?_⟩
  · by_cases hn : Tracks.Full store now challenge
    · right
      rw [Tracks.save_of_full hn]
      show (Except.error (PyError.ChallengeStoreFullError
        s!"Challenge store is full (max_size={(run max_size hpos calls).1.max_size}).") :
          Except PyError Unit) = _
      rw [hsize]
    · exact .inl (by rw [Tracks.save_of_not_full hn])
  · constructor
    · rintro ⟨hget, hlen⟩
      exact ⟨h.alive_of_get?_none hget, hlen⟩
    · rintro ⟨halive, hlen⟩
      exact ⟨h.get?_none_of_full halive (by rw [hsize]; exact hlen), hlen⟩
  -- a save that raises has cleaned up first, which no `get` can tell
  · rw [Tracks.save_of_full (hne.mp hraised)]
    exact h.cleanup.get_eq key

/-- A store of one: the challenge saved at the start is there until it expires, and its
room is then given to another key. -/
def oneAfterAnother : List (ℤ × Call) :=
  [(0, .save ⟨"aa", "first", 0⟩), (300000000, .get "aa"), (300000001, .save ⟨"bb", "second", 300000001⟩)]

theorem challenge_store_spec_one :
    ((run 1 one_pos oneAfterAnother).1.get 300000002 "aa").1 = none ∧
      ((run 1 one_pos oneAfterAnother).1.get 300000002 "bb").1 =
        some ⟨"bb", "second", 300000001⟩ ∧
      (run 1 one_pos oneAfterAnother).1.challenges.length ≤ 1 := by
  obtain ⟨hlen, hlater⟩ := challenge_store_spec 1 one_pos oneAfterAnother (by decide)
  obtain ⟨hget, -⟩ := hlater 300000002 (by decide)
  exact ⟨(hget "aa").trans (by decide +kernel), (hget "bb").trans (by decide +kernel), hlen⟩

end Superorganism.Authentication

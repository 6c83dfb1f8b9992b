/-
Whose observations the aggregates of a community count.

A message that is taken in is signed by a key whose digest its sender key spells. The tables
are kept by the spelling, though, and a key has many: `bytes.fromhex` reads upper case and
blanks as well, and of a `LibNaCLPK` the bytes that follow the two keys go into the digest and
nowhere else. One key can fill a table with as many observations. And the test against the
peer's own evidence compares the sender key with the number of the peer, which is no spelling of
a digest, so that the peer's own messages, sent back to it, are counted a second time
(`spellings_and_replay`).

What counts depends on when the clock is read. At any reading, the aggregates of a run count one
observation of each key and none of the own one, exactly if no message that has not expired by
then was signed by the own key, or by a key that its table already counts under another text
(`one_observation_per_key`). Keys are compared by what `verify` uses of them.
-/
import Superorganism.LtrMab
import Superorganism.Runs

set_option autoImplicit false

open Superorganism.Bytes Superorganism.Py Superorganism.Mab Superorganism.Runs

namespace Superorganism.LtrMab

variable {F : Type}

/-! ## The observations that count -/

/-- The sender has an observation in the table of the arm, and it counts at the reading `now`. -/
def Counts (s : Sys F) (now : ℚ) (arm sender : String) : Prop :=
  ∃ obs, (s.community.bandit.table arm).get? sender = some obs ∧ obs.fresh now = true

/-- After a message is accepted, its sender counts if it has not expired, and the others count
as they did. -/
theorem counts_accept {s s' : Sys F} {p : GossipMessage F} {t : ℚ}
    (h : s'.community.bandit = s.community.bandit.accept (p.delivery t)) (now : ℚ)
    (arm sender : String) : Counts s' now arm sender ↔
      if arm = p.arm_name ∧ sender = p.sender_key then now - PEER_OBSERVATION_TTL_S ≤ t
      else Counts s now arm sender := by
  have htable : s'.community.bandit.table arm =
      if arm = p.arm_name then (s.community.bandit.table arm).set p.sender_key (p.delivery t).entry
      else s.community.bandit.table arm := by
    rw [h, Bandit.table_accept]
    rfl
  rw [Counts, htable]
  by_cases harm : arm = p.arm_name
  · rw [if_pos harm, PyDict.get?_set]
    by_cases hsender : sender = p.sender_key
    · rw [if_pos hsender, if_pos ⟨harm, hsender⟩]
      refine ⟨fun ⟨obs, hobs, hfresh⟩ => ?_, fun hfresh => ⟨_, rfl, decide_eq_true hfresh⟩⟩
      cases hobs
      exact of_decide_eq_true hfresh
    · rw [if_neg hsender, if_neg fun hc => hsender hc.2, Counts]
  · rw [if_neg harm, if_neg fun hc => harm hc.1, Counts]

/-- An eviction makes nobody count. -/
theorem counts_of_evict {s s' : Sys F} {t now : ℚ} {arm sender : String}
    (h : s'.community.bandit = (s.community.bandit.evict_all_stale t).1)
    (hcounts : Counts s' now arm sender) : Counts s now arm sender := by
  obtain ⟨obs, hobs, hfresh⟩ := hcounts
  rw [h, Bandit.table_evict, PyDict.get?_filterValues] at hobs
  exact ⟨obs, (Option.filter_eq_some_iff.mp hobs).1, hfresh⟩

section

variable [PyFloat F]

theorem table_plain {b b' : Bandit F} (h : Plain b b') (arm : String) : b'.table arm = b.table arm := by
  cases h with
  | same => rfl
  | add_arm name => exact table_add_arm b name arm
  | update hupdate => rw [Bandit.table, (update_counts hupdate).1, Bandit.table]
  | next_lamport => rfl

variable {B : Type} [LinearOrder B] [Zero B] {crypto : Crypto F}

variable (crypto) in
/-- The event takes the message in at the time `t`. -/
def TakesAt (s : Sys F) (e : Event F B) (t : ℚ) (p : GossipMessage F) : Prop :=
  e = .on_gossip t p ∧ TakenIn crypto s p

/-- Whoever counts did before, or has sent the message that is taken in. -/
theorem counts_apply {s : Sys F} {e : Event F B} {now : ℚ} {arm sender : String}
    (h : Counts (apply crypto s e) now arm sender) :
    (Counts s now arm sender ∧
      ∀ t p, TakesAt crypto s e t p → ¬ (arm = p.arm_name ∧ sender = p.sender_key)) ∨
    ∃ t p, TakesAt crypto s e t p ∧ now - PEER_OBSERVATION_TTL_S ≤ t ∧ arm = p.arm_name ∧
      sender = p.sender_key := by
  rcases bandit_apply crypto s e with ⟨hnone, hplain⟩ | ⟨t, p, rfl, htaken, hbandit⟩ | ⟨t, rfl, hbandit⟩
  · obtain ⟨obs, hobs, hfresh⟩ := h
    rw [table_plain hplain] at hobs
    exact .inl ⟨⟨obs, hobs, hfresh⟩, fun t p hp => absurd ⟨⟨t, hp.1⟩, hp.2⟩ (hnone p)⟩
  · rw [counts_accept hbandit] at h
    split_ifs at h with hnew
    · exact .inr ⟨t, p, ⟨rfl, htaken⟩, h, hnew⟩
    · refine .inl ⟨h, fun t' p' hp => ?_⟩
      cases hp.1
      exact hnew
  · exact .inl ⟨counts_of_evict hbandit h, fun t' p hp => nomatch hp.1⟩

theorem TakesAt.counts {s : Sys F} {e : Event F B} {t now : ℚ} {p : GossipMessage F}
    (h : TakesAt crypto s e t p) (hfresh : now - PEER_OBSERVATION_TTL_S ≤ t) :
    Counts (apply crypto s e) now p.arm_name p.sender_key := by
  obtain ⟨rfl, htaken⟩ := h
  refine (counts_accept (bandit_of_takenIn crypto htaken t) now _ _).mpr ?_
  rw [if_pos ⟨rfl, rfl⟩]
  exact hfresh

/-- A message that is taken in unlists nobody but its sender. -/
theorem TakesAt.counts_of_ne {s : Sys F} {e : Event F B} {t now : ℚ} {p : GossipMessage F}
    (h : TakesAt crypto s e t p) {arm sender : String} (hne : sender ≠ p.sender_key)
    (hold : Counts s now arm sender) : Counts (apply crypto s e) now arm sender := by
  obtain ⟨rfl, htaken⟩ := h
  refine (counts_accept (bandit_of_takenIn crypto htaken t) now _ _).mpr ?_
  rw [if_neg fun hc => hne hc.2]
  exact hold

/-! ## The messages of a run -/

variable (crypto) in
/-- The message was taken in on the way. -/
def Received (p : GossipMessage F) : Sys F → List (Event F B) → Prop
  | _, [] => False
  | s, e :: events => (∃ t, TakesAt crypto s e t p) ∨ Received p (apply crypto s e) events

theorem run_append (s : Sys F) (events later : List (Event F B)) :
    run crypto s (events ++ later) = run crypto (run crypto s events) later := List.foldl_append

theorem run_concat (s : Sys F) (events : List (Event F B)) (e : Event F B) :
    run crypto s (events ++ [e]) = apply crypto (run crypto s events) e := run_append s events [e]

theorem received_concat {p : GossipMessage F} {s : Sys F} {events : List (Event F B)}
    {e : Event F B} : Received crypto p s (events ++ [e]) ↔
      Received crypto p s events ∨ ∃ t, TakesAt crypto (run crypto s events) e t p := by
  induction events generalizing s with
  | nil => exact or_comm
  | cons x events ih =>
      show (∃ t, TakesAt crypto s x t p) ∨ Received crypto p (apply crypto s x) (events ++ [e]) ↔ _
      rw [ih, ← or_assoc]
      rfl

theorem Received.verified {p : GossipMessage F} {s : Sys F} {events : List (Event F B)}
    (h : Received crypto p s events) : fromhex p.sender_key = some (crypto.sha1 p.public_key) := by
  induction events generalizing s with
  | nil => exact h.elim
  | cons e events ih =>
      rcases h with ⟨t, htakes⟩ | hrest
      · exact fromhex_of_verified crypto htakes.2.verified
      · exact ih hrest

omit [PyFloat F] in
/-- A message that is taken in has a signer. -/
theorem TakenIn.signer {s : Sys F} {p : GossipMessage F} (h : TakenIn crypto s p) :
    ∃ key, signer crypto p.public_key = some key := by
  obtain ⟨-, -, key, -, hkey, -⟩ := (verified_iff crypto).mp h.verified
  exact ⟨key, hkey⟩

theorem Received.mem {p : GossipMessage F} {s : Sys F} {events : List (Event F B)}
    (h : Received crypto p s events) : ∃ now, .on_gossip now p ∈ events := by
  induction events generalizing s with
  | nil => exact h.elim
  | cons e events ih =>
      rcases h with ⟨t, rfl, -⟩ | hrest
      · exact ⟨t, List.mem_cons_self⟩
      · obtain ⟨now, hnow⟩ := ih hrest
        exact ⟨now, List.mem_cons_of_mem e hnow⟩

/-! ## One observation per key -/

variable (crypto) in
/-- A message about the arm under this sender key was taken in, signed by the key. -/
def SignedBy (start : Sys F) (events : List (Event F B)) (arm sender : String)
    (key : Verifier crypto.EcPublicKey) : Prop :=
  ∃ p, Received crypto p start events ∧ p.arm_name = arm ∧ p.sender_key = sender ∧
    signer crypto p.public_key = some key

variable (crypto) in
/-- What the aggregate of each arm counts at the reading `now`: observations that were signed,
one for each key, and none for the peer's own key. -/
structure OnePerKey (start : Sys F) (events : List (Event F B)) (now : ℚ) : Prop where
  signed : ∀ arm sender, Counts (run crypto start events) now arm sender →
    ∃ key, SignedBy crypto start events arm sender key
  one : ∀ arm sender sender' key, Counts (run crypto start events) now arm sender →
    Counts (run crypto start events) now arm sender' → SignedBy crypto start events arm sender key →
    SignedBy crypto start events arm sender' key → sender = sender'
  foreign : ∀ arm sender key, Counts (run crypto start events) now arm sender →
    SignedBy crypto start events arm sender key → signer crypto start.community.public_key ≠ some key

variable (crypto) in
/-- A message that is taken in, and has not expired at the reading `now`, is signed by another key
than the own one, and by none that its table counts under another text. -/
def OneText (start : Sys F) (now : ℚ) (before : List (Event F B)) (e : Event F B) : Prop :=
  ∀ t p key, TakesAt crypto (run crypto start before) e t p → now - PEER_OBSERVATION_TTL_S ≤ t →
    signer crypto p.public_key = some key → signer crypto start.community.public_key ≠ some key ∧
      ∀ sender, Counts (run crypto start before) now p.arm_name sender →
        SignedBy crypto start before p.arm_name sender key → sender = p.sender_key

variable (crypto) in
/-- The keys of a run have different digests. -/
def DistinctMids (events : List (Event F B)) : Prop :=
  ∀ now p now' p', .on_gossip now p ∈ events → .on_gossip now' p' ∈ events →
    crypto.sha1 p.public_key = crypto.sha1 p'.public_key →
    signer crypto p.public_key = signer crypto p'.public_key

omit [PyFloat F] [LinearOrder B] [Zero B] in
theorem DistinctMids.before {before events : List (Event F B)} (h : DistinctMids crypto events)
    (hbefore : before <+: events) : DistinctMids crypto before := fun now p now' p' hp hp' =>
  h now p now' p' (hbefore.subset hp) (hbefore.subset hp')

/-- One text spells one digest, hence one key. -/
theorem SignedBy.signer_eq {start : Sys F} {events : List (Event F B)}
    (hmids : DistinctMids crypto events) {arm sender : String} {key : Verifier crypto.EcPublicKey}
    (h : SignedBy crypto start events arm sender key) {p : GossipMessage F}
    (hp : Received crypto p start events) (hsender : p.sender_key = sender) :
    signer crypto p.public_key = some key := by
  obtain ⟨q, hq, -, hqsender, hkey⟩ := h
  have hdigest : crypto.sha1 p.public_key = crypto.sha1 q.public_key := by
    have hspelled := hp.verified
    rw [hsender, ← hqsender, hq.verified] at hspelled
    exact (Option.some.inj hspelled).symm
  obtain ⟨now, hmem⟩ := hp.mem
  obtain ⟨now', hmem'⟩ := hq.mem
  exact (hmids now p now' q hmem hmem' hdigest).trans hkey

theorem SignedBy.concat {start : Sys F} {events : List (Event F B)} {arm sender : String}
    {key : Verifier crypto.EcPublicKey} (h : SignedBy crypto start events arm sender key)
    (e : Event F B) : SignedBy crypto start (events ++ [e]) arm sender key := by
  obtain ⟨p, hp, hrest⟩ := h
  exact ⟨p, received_concat.mpr (.inl hp), hrest⟩

/-- A signature under a text that the last message does not have is an older one. -/
theorem SignedBy.of_concat {start : Sys F} {events : List (Event F B)} {e : Event F B}
    {arm sender : String} {key : Verifier crypto.EcPublicKey}
    (h : SignedBy crypto start (events ++ [e]) arm sender key)
    (hnot : ∀ t p, TakesAt crypto (run crypto start events) e t p →
      ¬ (arm = p.arm_name ∧ sender = p.sender_key)) :
    SignedBy crypto start events arm sender key := by
  obtain ⟨p, hp, rfl, rfl, hkey⟩ := h
  rcases received_concat.mp hp with hold | ⟨t, hnew⟩
  · exact ⟨p, hold, rfl, rfl, hkey⟩
  · exact absurd ⟨rfl, rfl⟩ (hnot t p hnew)

/-- A new community counts nobody. -/
theorem Initial.not_counts {start : Sys F} (hstart : Initial start) (now : ℚ)
    (arm sender : String) : ¬ Counts start now arm sender := by
  rintro ⟨obs, hobs, -⟩
  obtain ⟨peer_id, public_key, algorithm, model_names, hcommunity, -, -⟩ := hstart
  rw [hcommunity, LTRMABCommunity.new, Bandit.table_new] at hobs
  cases hobs

theorem onePerKey_nil {start : Sys F} (hstart : Initial start) (now : ℚ) :
    OnePerKey (B := B) crypto start [] now :=
  ⟨fun arm sender h => absurd h (hstart.not_counts now arm sender),
    fun arm sender _ _ h => absurd h (hstart.not_counts now arm sender),
    fun arm sender _ h => absurd h (hstart.not_counts now arm sender)⟩

/-- One more event under the condition. -/
theorem OnePerKey.concat {start : Sys F} {events : List (Event F B)} {e : Event F B} {now : ℚ}
    (h : OnePerKey crypto start events now) (he : OneText crypto start now events e)
    (hmids : DistinctMids crypto (events ++ [e])) :
    OnePerKey crypto start (events ++ [e]) now := by
  -- what the condition says of the last message, whoever signed under its text
  have hlast {t : ℚ} {p : GossipMessage F} {arm : String} {key : Verifier crypto.EcPublicKey}
      (hp : TakesAt crypto (run crypto start events) e t p)
      (hfresh : now - PEER_OBSERVATION_TTL_S ≤ t)
      (hsigned : SignedBy crypto start (events ++ [e]) arm p.sender_key key) :=
    he t p key hp hfresh (hsigned.signer_eq hmids (received_concat.mpr (.inr ⟨t, hp⟩)) rfl)
  refine ⟨fun arm sender hcounts => ?_, fun arm sender sender' key hcounts hcounts' hs hs' => ?_,
    fun arm sender key hcounts hs => ?_⟩
  · rw [run_concat] at hcounts
    rcases counts_apply hcounts with ⟨hold, -⟩ | ⟨t, p, hp, -, rfl, rfl⟩
    · obtain ⟨key, hkey⟩ := h.signed arm sender hold
      exact ⟨key, hkey.concat e⟩
    · obtain ⟨key, hkey⟩ := hp.2.signer
      exact ⟨key, p, received_concat.mpr (.inr ⟨t, hp⟩), rfl, rfl, hkey⟩
  · rw [run_concat] at hcounts hcounts'
    rcases counts_apply hcounts with ⟨hold, hnot⟩ | ⟨t, p, hp, hfresh, rfl, rfl⟩
    · rcases counts_apply hcounts' with ⟨hold', hnot'⟩ | ⟨t, p, hp, hfresh, rfl, rfl⟩
      · exact h.one arm sender sender' key hold hold' (hs.of_concat hnot) (hs'.of_concat hnot')
      · exact (hlast hp hfresh hs').2 sender hold (hs.of_concat hnot)
    · rcases counts_apply hcounts' with ⟨hold', hnot'⟩ | ⟨t', p', hp', -, -, rfl⟩
      · exact ((hlast hp hfresh hs).2 sender' hold' (hs'.of_concat hnot')).symm
      · cases hp.1.symm.trans hp'.1
        rfl
  · rw [run_concat] at hcounts
    rcases counts_apply hcounts with ⟨hold, hnot⟩ | ⟨t, p, hp, hfresh, rfl, rfl⟩
    · exact h.foreign arm sender key hold (hs.of_concat hnot)
    · exact (hlast hp hfresh hs).1

/-- The condition on the messages is enough. -/
theorem onePerKey_of_oneText {start : Sys F} (hstart : Initial start) {events : List (Event F B)}
    (hmids : DistinctMids crypto events) {now : ℚ}
    (h : ∀ before e, before ++ [e] <+: events → OneText crypto start now before e) :
    OnePerKey crypto start events now := by
  induction events using List.reverseRecOn with
  | nil => exact onePerKey_nil hstart now
  | append_singleton events e ih =>
      have hprefix : events <+: events ++ [e] := List.prefix_append ..
      have hevents := ih (hmids.before hprefix) fun before e' hb => h before e' (hb.trans hprefix)
      exact hevents.concat (h events e (List.prefix_refl _)) hmids

/-- The condition on the messages is necessary. -/
theorem oneText_of_onePerKey {start : Sys F} {before : List (Event F B)} {e : Event F B} {now : ℚ}
    (h : OnePerKey crypto start (before ++ [e]) now) : OneText crypto start now before e := by
  intro t p key hp hfresh hkey
  have hcounts : Counts (run crypto start (before ++ [e])) now p.arm_name p.sender_key := by
    rw [run_concat]
    exact hp.counts hfresh
  have hsigned : SignedBy crypto start (before ++ [e]) p.arm_name p.sender_key key :=
    ⟨p, received_concat.mpr (.inr ⟨t, hp⟩), rfl, rfl, hkey⟩
  refine ⟨h.foreign _ _ key hcounts hsigned, fun sender hsender hs => ?_⟩
  by_contra hne
  have hcounts' : Counts (run crypto start (before ++ [e])) now p.arm_name sender := by
    rw [run_concat]
    exact hp.counts_of_ne hne hsender
  exact hne (h.one _ sender p.sender_key key hcounts' hcounts (hs.concat e) hsigned)

variable (crypto) in
/-- **At every reading of the clock, the aggregates of a run and of its beginnings count one
observation of each key and none of the own one, exactly if every message taken in that has not
expired by then is signed by another key than the own one, and by none that its table counts under
another text.** -/
theorem one_observation_per_key {start : Sys F} (hstart : Initial start)
    (events : List (Event F B)) (hmids : DistinctMids crypto events) (now : ℚ) :
    (∀ before, before <+: events → OnePerKey crypto start before now) ↔
      ∀ before e, before ++ [e] <+: events → OneText crypto start now before e := by
  constructor
  · exact fun h before e hbefore => oneText_of_onePerKey (h _ hbefore)
  · exact fun h before hbefore => onePerKey_of_oneText hstart (hmids.before hbefore)
      fun before' e hb => h before' e (hb.trans hbefore)

end

/-! ## Concrete runs -/

/-- Five pulls of an arm, signed by the key `demoKey 2 []`. -/
def lowerGossip : GossipMessage ℚ := pullsGossip "lightgbm" 5 1

/-- The same under another spelling of its digest. -/
def upperGossip : GossipMessage ℚ :=
  demoGossip (demoKey 2 []) "91907C109CC9F715F14C41E6E00E28845F1D3378" "lightgbm" 5 1

/-- The same with a byte after the key, and the digest of that. -/
def longGossip : GossipMessage ℚ :=
  demoGossip (demoKey 2 [0]) "573437ffd4c97f00aa85c8751d9fb63640ca2b7e" "lightgbm" 5 1

def demoDraws : Draws ℚ where
  integers _ := 0
  beta _ _ _ := .ok 0

/-- What the peer of `demoStart` has of `lightgbm` after one query. -/
def demoOwn : PeerObservation ℚ :=
  { pulls := 1, total_reward := 0 + 1, alpha := 1, beta := 1, lamport := 1, last_received := 0 }

/-- That peer, with a Lamport counter. -/
def demoQueried (lamport : ℤ) : Sys ℚ :=
  { demoStart with community := { demoStart.community with
    bandit := { demoStart.community.bandit with
      own := demoStart.community.bandit.own.set "lightgbm" demoOwn
      _lamport_self := lamport } } }

/-- What it then sends. -/
def demoOwnGossip : GossipMessage ℚ :=
  (gossip_message demoCrypto (demoQueried 1).community "lightgbm" demoOwn .none 2).get
    (by decide +kernel)

/-- Its own message comes back to it. -/
def ownReplayed : List (Event ℚ ℚ) :=
  [.process_query demoDraws (fun _ => 0) 0 0, .send_gossip demoDraws fun _ => .none,
    .on_gossip 1 demoOwnGossip]

theorem sort_demo : demoStart.community.active_models.sort (· ≤ ·) = ["lightgbm", "xgboost"] := by
  have hactive : demoStart.community.active_models = insert "lightgbm" {"xgboost"} := by
    decide +kernel
  rw [hactive, Finset.sort_insert, Finset.sort_singleton]
  · decide +kernel
  · decide +kernel

theorem queried_demo : apply (B := ℚ) demoCrypto demoStart
    (.process_query demoDraws (fun _ => 0) 0 0) = demoQueried 1 := by
  have hselect : (select_arm demoStart.community.bandit demoDraws (fun _ => 0)
      demoStart.community.active_models).result = .ok "lightgbm" := by
    have halgorithm : demoStart.community.bandit.algorithm = .ucb1 2 := rfl
    unfold select_arm
    rw [halgorithm, sort_demo]
    rfl
  rw [apply, process_query, if_neg (by decide +kernel), hselect]
  rfl

theorem sent_demo : send_gossip demoCrypto (demoQueried 1) demoDraws (fun _ => .none) =
    (demoQueried 2, some demoOwnGossip) := by
  have hpacked : gossip_message demoCrypto (demoQueried 1).community "lightgbm" demoOwn .none 2 =
      some demoOwnGossip := (Option.some_get _).symm
  have hsort : (demoQueried 1).community.active_models.sort (· ≤ ·) = ["lightgbm", "xgboost"] :=
    sort_demo
  have hown : (demoQueried 1).community.bandit.own_observation "lightgbm" = some demoOwn := by
    decide +kernel
  have hfirst : ["lightgbm", "xgboost"].get (demoDraws.integers ["xgboost"].length) =
    "lightgbm" := rfl
  rw [send_gossip, hsort]
  dsimp only
  rw [hfirst, hown]
  have hcounter : ((demoQueried 1).community.bandit.next_lamport).2 = 2 := rfl
  dsimp only
  rw [hcounter, hpacked]
  rfl

theorem replayed_demo : run demoCrypto demoStart ownReplayed =
    apply (B := ℚ) demoCrypto (demoQueried 2) (.on_gossip 1 demoOwnGossip) := by
  have hsend : apply (B := ℚ) demoCrypto (demoQueried 1) (.send_gossip demoDraws fun _ => .none) =
      demoQueried 2 := by
    rw [apply, sent_demo]
  rw [ownReplayed, run, List.foldl_cons, List.foldl_cons, List.foldl_cons, List.foldl_nil,
    queried_demo, hsend]

theorem takes_own : TakesAt (B := ℚ) demoCrypto (demoQueried 2) (.on_gossip 1 demoOwnGossip) 1
    demoOwnGossip :=
  ⟨rfl, ⟨by decide +kernel, by decide +kernel, by decide +kernel, by decide +kernel,
    by decide +kernel⟩⟩

instance : DecidableEq demoCrypto.EcPublicKey := inferInstanceAs (DecidableEq Empty)

/-- Two messages of one key under two texts count twice. -/
theorem not_onePerKey_of_texts {p q : GossipMessage ℚ} {key : Verifier Empty}
    (hp : TakenIn demoCrypto demoStart p)
    (hq : TakenIn demoCrypto (apply (B := ℚ) demoCrypto demoStart (.on_gossip 0 p)) q)
    (harm : q.arm_name = p.arm_name) (hne : p.sender_key ≠ q.sender_key)
    (hkey : signer demoCrypto p.public_key = some key)
    (hkey' : signer demoCrypto q.public_key = some key) :
    ¬ OnePerKey (B := ℚ) demoCrypto demoStart [.on_gossip 0 p, .on_gossip 1 q] 2 := by
  intro h
  have htakes : TakesAt (B := ℚ) demoCrypto demoStart (.on_gossip 0 p) 0 p := ⟨rfl, hp⟩
  have htakes' : TakesAt (B := ℚ) demoCrypto
      (apply (B := ℚ) demoCrypto demoStart (.on_gossip 0 p)) (.on_gossip 1 q) 1 q := ⟨rfl, hq⟩
  have hcounts : Counts (run (B := ℚ) demoCrypto demoStart [.on_gossip 0 p, .on_gossip 1 q]) 2
      p.arm_name p.sender_key :=
    htakes'.counts_of_ne hne (htakes.counts (by decide +kernel))
  have hcounts' : Counts (run (B := ℚ) demoCrypto demoStart [.on_gossip 0 p, .on_gossip 1 q]) 2
      p.arm_name q.sender_key := by
    rw [← harm]
    exact htakes'.counts (by decide +kernel)
  exact hne (h.one _ _ _ key hcounts hcounts' ⟨p, .inl ⟨0, htakes⟩, rfl, rfl, hkey⟩
    ⟨q, .inr (.inl ⟨1, htakes'⟩), harm, rfl, hkey'⟩)

/-- The peer's own message, sent back to it, counts as another's. -/
theorem not_onePerKey_replayed : ¬ OnePerKey demoCrypto demoStart ownReplayed 2 := by
  intro h
  have hcounts : Counts (run demoCrypto demoStart ownReplayed) 2 demoOwnGossip.arm_name
      demoOwnGossip.sender_key := by
    rw [replayed_demo]
    exact takes_own.counts (by decide +kernel)
  have hreceived : Received demoCrypto demoOwnGossip demoStart ownReplayed := by
    refine .inr (.inr (.inl ⟨1, ?_⟩))
    rw [queried_demo, apply, sent_demo]
    exact takes_own
  have hkey : signer demoCrypto (demoKey 1 []) =
      some (.LibNaCLPK (List.replicate KEY_BYTES 1)) := by decide +kernel
  have hown : demoOwnGossip.public_key = demoKey 1 [] := by decide +kernel
  have hsigner : signer demoCrypto demoOwnGossip.public_key =
      some (.LibNaCLPK (List.replicate KEY_BYTES 1)) := by rw [hown, hkey]
  exact h.foreign _ _ _ hcounts ⟨_, hreceived, rfl, rfl, hsigner⟩ hkey

/-- **One key under two texts of its digest or with a byte after it, and the own message sent
back.** Five pulls that were signed by one key count as ten, and one own pull as two. -/
theorem spellings_and_replay :
    (¬ OnePerKey (B := ℚ) demoCrypto demoStart
        [.on_gossip 0 lowerGossip, .on_gossip 1 upperGossip] 2 ∧
      (run (B := ℚ) demoCrypto demoStart [.on_gossip 0 lowerGossip, .on_gossip 1 upperGossip]
        ).community.bandit._aggregate_pulls 2 "lightgbm" = 10) ∧
    (¬ OnePerKey (B := ℚ) demoCrypto demoStart
        [.on_gossip 0 lowerGossip, .on_gossip 1 longGossip] 2 ∧
      (run (B := ℚ) demoCrypto demoStart [.on_gossip 0 lowerGossip, .on_gossip 1 longGossip]
        ).community.bandit._aggregate_pulls 2 "lightgbm" = 10) ∧
    (send_gossip demoCrypto (apply (B := ℚ) demoCrypto demoStart
      (.process_query demoDraws (fun _ => 0) 0 0)) demoDraws fun _ => .none).2 = some demoOwnGossip ∧
    ¬ OnePerKey demoCrypto demoStart ownReplayed 2 ∧
      (run demoCrypto demoStart ownReplayed).community.bandit._aggregate_pulls 2 "lightgbm" = 2 ∧
      ((run demoCrypto demoStart ownReplayed).community.bandit.own_observation "lightgbm").map
        PeerObservation.pulls = some 1 := by
  have hlower : TakenIn demoCrypto demoStart lowerGossip :=
    ⟨by decide +kernel, by decide +kernel, by decide +kernel, by decide +kernel, by decide +kernel⟩
  have hupper : TakenIn demoCrypto
      (apply (B := ℚ) demoCrypto demoStart (.on_gossip 0 lowerGossip)) upperGossip :=
    ⟨by decide +kernel, by decide +kernel, by decide +kernel, by decide +kernel, by decide +kernel⟩
  have hlong : TakenIn demoCrypto
      (apply (B := ℚ) demoCrypto demoStart (.on_gossip 0 lowerGossip)) longGossip :=
    ⟨by decide +kernel, by decide +kernel, by decide +kernel, by decide +kernel, by decide +kernel⟩
  have hkey : signer demoCrypto (demoKey 2 []) =
      some (.LibNaCLPK (List.replicate KEY_BYTES 2)) := by decide +kernel
  have hkey' : signer demoCrypto (demoKey 2 [0]) =
      some (.LibNaCLPK (List.replicate KEY_BYTES 2)) :=
    (signer_append demoCrypto (by decide) [0]).trans hkey
  refine ⟨⟨not_onePerKey_of_texts hlower hupper rfl (by decide +kernel) hkey hkey,
      by decide +kernel⟩,
    ⟨not_onePerKey_of_texts hlower hlong rfl (by decide +kernel) hkey hkey', by decide +kernel⟩,
    ?_, not_onePerKey_replayed, ?_, ?_⟩
  · rw [queried_demo, sent_demo]
  · rw [replayed_demo]
    decide +kernel
  · rw [replayed_demo]
    decide +kernel

/-- A peer that hears two messages of one key under two texts, the second when the first has
expired. -/
theorem one_observation_per_key_heard :
    OnePerKey (B := ℚ) demoCrypto demoStart
      [.on_gossip 0 lowerGossip, .on_gossip 301 upperGossip] 301 := by
  refine (one_observation_per_key (B := ℚ) demoCrypto demoStart_initial
    [.on_gossip 0 lowerGossip, .on_gossip 301 upperGossip] ?_ 301).mpr ?_ _ (List.prefix_refl _)
  · have hkey {now : ℚ} {p : GossipMessage ℚ} (hp : (.on_gossip now p : Event ℚ ℚ) ∈
        [.on_gossip 0 lowerGossip, .on_gossip 301 upperGossip]) : p.public_key = demoKey 2 [] := by
      rcases List.mem_cons.mp hp with h | h
      · cases h
        rfl
      · cases List.mem_singleton.mp h
        rfl
    intro now p now' p' hp hp' _
    rw [hkey hp, hkey hp']
  · rintro before e hbefore t p key htakes hfresh hkey
    match before with
    -- the first message has expired
    | [] =>
        cases htakes.1.symm.trans (List.cons_prefix_cons.mp hbefore).1
        exact absurd hfresh (by decide +kernel)
    | [e₁] =>
        obtain ⟨h₁, hrest⟩ := List.cons_prefix_cons.mp hbefore
        obtain rfl : e₁ = .on_gossip 0 lowerGossip := h₁
        cases htakes.1.symm.trans (List.cons_prefix_cons.mp hrest).1
        refine ⟨?_, fun sender hcounts _ => ?_⟩
        · rw [← hkey]
          decide +kernel
        · rw [run, List.foldl_cons, List.foldl_nil] at hcounts
          rcases counts_apply hcounts with ⟨hold, -⟩ | ⟨t, p, hp, hfresh, -, -⟩
          · exact absurd hold (demoStart_initial.not_counts _ _ _)
          · cases hp.1
            exact absurd hfresh (by decide +kernel)
    | e₁ :: e₂ :: rest =>
        have hlength := hbefore.length_le
        simp at hlength

end Superorganism.LtrMab

/-
How announcements of content get from health checker to health checker:
`healthchecker/liberation_community.py`.

Seedboxes announce content to the peers they have; a health checker that receives an announcement
hands it to its service and passes it on to all its other peers, remembering for each peer which
infohashes it was sent. Seedboxes pass nothing on, and may announce what they like as often as they
like: nothing is assumed of them here.

The flood of an infohash is bounded by the links (`forwards_bounded`) and reaches every checker
that is connected to one it reaches (`content_spreads`). Both rest on the infohash: an
announcement without one is passed on at every receipt, and goes round forever in a network
of checkers that have another peer each (`unkeyed_never_ends`).
-/
import Superorganism.Flood
import Superorganism.HealthChecker

set_option autoImplicit false

open Superorganism.Bytes Superorganism.Py Superorganism.Network Superorganism.Runs
open Superorganism.Flood

namespace Superorganism.HealthChecker

open LiberationService (announced)

/-- `peer.mid`. -/
abbrev Mid := List UInt8

/-- `peer.mid.hex()[:16]`. -/
def mid_hex (mid : Mid) : String := String.ofList ((hexChars mid).take 16)

/-! ## The community -/

abbrev SentToPeers := PyDict Mid (Finset String)

/-- `infohash in self.sent_to_peers[mid]`, of a `defaultdict(set)`. -/
def SentToPeers.has (sent : SentToPeers) (mid : Mid) (infohash : String) : Bool :=
  infohash ∈ (sent.get? mid).getD ∅

def SentToPeers.add (sent : SentToPeers) (mid : Mid) (infohash : String) : SentToPeers :=
  sent.set mid (insert infohash ((sent.get? mid).getD ∅))

structure LiberationCommunity where
  sent_to_peers : SentToPeers

namespace LiberationCommunity

/-- The loop over the other peers. A send that fails is logged and not remembered; without an
infohash nothing is remembered. -/
def gossip (infohash : Option String) (fails : Mid → Bool) :
    List Mid → SentToPeers → SentToPeers × List Mid
  | [], sent => (sent, [])
  | other_peer :: other_peers, sent =>
    if infohash.any (sent.has other_peer) || fails other_peer then gossip infohash fails other_peers sent
    else
      let sent := infohash.elim sent (sent.add other_peer)
      let (sent, receivers) := gossip infohash fails other_peers sent
      (sent, other_peer :: receivers)

/-- The peers the payload is passed on to. The infohash is read as the service reads it, and an
empty one counts as none. -/
def on_liberated_content (get_peers : List Mid) (fails : Mid → Bool) (peer : Mid)
    (payload : LiberatedContentPayload) (c : LiberationCommunity) :
    LiberationCommunity × List Mid :=
  let other_peers := get_peers.filter (· ≠ peer)
  let (sent, receivers) := gossip (announced payload) fails other_peers c.sent_to_peers
  (⟨sent⟩, receivers)

end LiberationCommunity

/-! ## The network -/

structure Checker where
  community : LiberationCommunity
  service : LiberationService

/-- A process that starts: nothing is remembered but the table. -/
def Checker.start (db : Db) : Checker := ⟨⟨.empty⟩, .start db⟩

/-- What a node does of itself. -/
inductive Action where
  /-- `LiberationCommunity.broadcast_content` of a seedbox. -/
  | broadcast_content (get_peers : List Mid) (fails : Mid → Bool) (payload : LiberatedContentPayload)
  | purge (now : ℤ)
  | restart

/-- The peers that a node has when a payload arrives, and those to which a send fails. -/
structure Arrival where
  get_peers : List Mid
  fails : Mid → Bool

/-- Which nodes are health checkers, and how many variables their database binds. -/
structure Fleet where
  checker : Mid → Bool
  max_variables : ℕ

abbrev ContentPacket := Packet Mid LiberatedContentPayload

abbrev ContentNet := Net Mid Checker LiberatedContentPayload

abbrev ContentEvent := Network.Event Mid LiberatedContentPayload Action Arrival

namespace Fleet

variable (F : Fleet)

/-- A seedbox acts and drops what it receives, a checker answers what it receives. -/
def protocol : Protocol Mid Checker LiberatedContentPayload Action Arrival where
  act n a node := match a with
    | .broadcast_content get_peers fails payload =>
      (node, if F.checker n then [] else (get_peers.filter (! fails ·)).map (⟨n, ·, payload⟩))
    | .purge now =>
      ({ node with service := step F.max_variables node.service (.purge now) }, [])
    | .restart => (.start node.service.db, [])
  receive p e node :=
    if F.checker p.dst then
      let service := node.service.on_content_received (mid_hex p.src) p.body
      let (community, receivers) :=
        node.community.on_liberated_content e.get_peers e.fails p.src p.body
      (⟨community, service⟩, receivers.map (⟨p.dst, ·, p.body⟩))
    else (node, [])

/-- Every process has just started, and nothing has been sent. -/
def start (db : Mid → Db) : ContentNet := ⟨fun n => .start (db n), []⟩

def run (s : ContentNet) (events : List ContentEvent) : ContentNet := F.protocol.run s events

/-- The flood: the infohashes are the keys, the checkers the relays. -/
def relaying : Relaying Mid Checker LiberatedContentPayload Action String where
  key := announced
  relay := F.checker
  marked node := node.community.sent_to_peers.has
  forgets
    | .restart => true
    | _ => false

end Fleet

/-! ## The loop -/

namespace LiberationCommunity

variable {fails : Mid → Bool}

theorem has_add (sent : SentToPeers) (other q : Mid) (infohash k : String) :
    (sent.add other infohash).has q k = (decide (q = other ∧ k = infohash) || sent.has q k) := by
  simp only [SentToPeers.has, SentToPeers.add, PyDict.get?_set]
  by_cases hq : q = other
  · subst hq
    simp [Finset.mem_insert]
  · simp [hq]

/-- Without an infohash everything is sent, and nothing remembered. -/
theorem gossip_none (others : List Mid) (sent : SentToPeers) :
    gossip none fails others sent = (sent, others.filter (! fails ·)) := by
  induction others with
  | nil => rfl
  | cons other others ih =>
      rw [gossip]
      by_cases hfails : fails other = true
      · simp [hfails, ih]
      · simp [hfails, ih]

/-- Whoever is sent the infohash was not marked, and is now. -/
theorem gossip_marks (infohash : String) (others : List Mid) (sent : SentToPeers) (q : Mid) :
    (gossip (some infohash) fails others sent).2.count q + (sent.has q infohash).toNat ≤
      ((gossip (some infohash) fails others sent).1.has q infohash).toNat := by
  induction others generalizing sent with
  | nil => simp [gossip]
  | cons other others ih =>
      rw [gossip]
      by_cases hskip : ((some infohash).any (sent.has other) || fails other) = true
      · rw [if_pos hskip]
        exact ih sent
      · rw [if_neg hskip]
        have hrest := ih (sent.add other infohash)
        have hnew : sent.has other infohash = false := by
          simp only [Option.any_some, Bool.or_eq_true, not_or, Bool.not_eq_true] at hskip
          exact hskip.1
        rw [has_add] at hrest
        simp only [Option.elim_some, List.count_cons]
        by_cases hq : q = other
        · subst hq
          simp only [hnew, and_self, decide_true, Bool.true_or, Bool.toNat_true, Bool.toNat_false,
            beq_self_eq_true, if_true] at hrest ⊢
          omega
        · have hne : (other == q) = false := beq_false_of_ne (Ne.symm hq)
          simp only [hq, false_and, decide_false, Bool.false_or, hne, Bool.false_eq_true,
            if_false] at hrest ⊢
          exact hrest

/-- What is marked was marked before, or has just been sent. -/
theorem gossip_marked {infohash k : String} {others : List Mid} {sent : SentToPeers} {q : Mid}
    (h : (gossip (some infohash) fails others sent).1.has q k = true) :
    sent.has q k = true ∨ k = infohash ∧ q ∈ (gossip (some infohash) fails others sent).2 := by
  induction others generalizing sent with
  | nil => exact .inl h
  | cons other others ih =>
      rw [gossip] at h ⊢
      by_cases hskip : ((some infohash).any (sent.has other) || fails other) = true
      · rw [if_pos hskip] at h ⊢
        exact ih h
      · rw [if_neg hskip] at h ⊢
        rcases ih h with hold | ⟨hk, hq⟩
        · simp only [Option.elim_some, has_add, Bool.or_eq_true, decide_eq_true_eq] at hold
          rcases hold with ⟨rfl, rfl⟩ | hold
          · exact .inr ⟨rfl, List.mem_cons_self⟩
          · exact .inl hold
        · exact .inr ⟨hk, List.mem_cons_of_mem _ hq⟩

theorem gossip_keeps {infohash : String} {others : List Mid} {sent : SentToPeers} {q : Mid} {k : String}
    (h : sent.has q k = true) : (gossip (some infohash) fails others sent).1.has q k = true := by
  induction others generalizing sent with
  | nil => exact h
  | cons other others ih =>
      rw [gossip]
      by_cases hskip : ((some infohash).any (sent.has other) || fails other) = true
      · rw [if_pos hskip]
        exact ih h
      · rw [if_neg hskip]
        apply ih
        simp [has_add, h]

/-- Afterwards all peers are marked to which a send works. -/
theorem gossip_all {infohash : String} {others : List Mid} {sent : SentToPeers} {q : Mid}
    (hq : q ∈ others) (hworks : fails q = false) :
    (gossip (some infohash) fails others sent).1.has q infohash = true := by
  induction others generalizing sent with
  | nil => cases hq
  | cons other others ih =>
      rw [gossip]
      by_cases hskip : ((some infohash).any (sent.has other) || fails other) = true
      · rw [if_pos hskip]
        rcases List.mem_cons.mp hq with rfl | hq
        · apply gossip_keeps
          simpa [hworks] using hskip
        · exact ih hq
      · rw [if_neg hskip]
        rcases List.mem_cons.mp hq with rfl | hq
        · apply gossip_keeps
          simp [has_add]
        · exact ih hq

end LiberationCommunity

/-! ## Steps -/

namespace Fleet

variable {F : Fleet}

theorem receive_checker {p : ContentPacket} (hp : F.checker p.dst = true) (e : Arrival)
    (node : Checker) : F.protocol.receive p e node =
      (⟨(node.community.on_liberated_content e.get_peers e.fails p.src p.body).1,
        node.service.on_content_received (mid_hex p.src) p.body⟩,
      (node.community.on_liberated_content e.get_peers e.fails p.src p.body).2.map
        (⟨p.dst, ·, p.body⟩)) := by
  show (if F.checker p.dst then _ else _) = _
  rw [if_pos hp]
  rfl

theorem receive_seedbox {p : ContentPacket} (hp : ¬ F.checker p.dst = true) (e : Arrival)
    (node : Checker) : F.protocol.receive p e node = (node, []) := by
  show (if F.checker p.dst then _ else _) = _
  rw [if_neg hp]

theorem authentic : Authentic F.protocol := by
  refine ⟨fun n a s q hq => ?_, fun p e s q hq => ?_⟩
  · cases a with
    | broadcast_content get_peers fails payload =>
        have hq : q ∈ if F.checker n then [] else (get_peers.filter (! fails ·)).map (⟨n, ·, payload⟩) :=
          hq
        by_cases hn : F.checker n = true
        · rw [if_pos hn] at hq
          cases hq
        · rw [if_neg hn] at hq
          obtain ⟨other, -, rfl⟩ := List.mem_map.mp hq
          rfl
    | purge now => cases hq
    | restart => cases hq
  · by_cases hp : F.checker p.dst = true
    · rw [receive_checker hp] at hq
      obtain ⟨other, -, rfl⟩ := List.mem_map.mp hq
      rfl
    · rw [receive_seedbox hp] at hq
      cases hq

/-- A checker of itself sends nothing. -/
theorem act_checker {n : Mid} (hn : F.checker n = true) (a : Action) (node : Checker) :
    (F.protocol.act n a node).2 = [] := by
  cases a with
  | broadcast_content get_peers fails payload =>
      show (if F.checker n then _ else _) = _
      rw [if_pos hn]
  | purge now => rfl
  | restart => rfl

theorem has_start (db : Db) (q : Mid) (infohash : String) :
    (Checker.start db).community.sent_to_peers.has q infohash = false := by
  simp [Checker.start, SentToPeers.has]

theorem countP_forwarded {p : ContentPacket} {receivers : List Mid} {q : Mid} {infohash : String} :
    (receivers.map fun other => (⟨p.dst, other, p.body⟩ : ContentPacket)).countP
        (F.relaying.carries p.dst q infohash) =
      if announced p.body = some infohash then receivers.count q else 0 := by
  rw [List.countP_map]
  by_cases hkey : announced p.body = some infohash
  · rw [if_pos hkey, List.count]
    apply List.countP_congr
    intro other _
    simp [Relaying.carries, relaying, hkey]
  · rw [if_neg hkey, List.countP_eq_zero]
    intro other _
    simp [Relaying.carries, relaying, hkey]

/-- What a checker does with an announcement of an infohash. -/
theorem receive_keyed {p : ContentPacket} (hp : F.checker p.dst = true) {infohash : String}
    (hkey : announced p.body = some infohash) (e : Arrival) (node : Checker) :
    F.protocol.receive p e node =
      (⟨⟨(LiberationCommunity.gossip (some infohash) e.fails (e.get_peers.filter (· ≠ p.src))
          node.community.sent_to_peers).1⟩,
        node.service.on_content_received (mid_hex p.src) p.body⟩,
      (LiberationCommunity.gossip (some infohash) e.fails (e.get_peers.filter (· ≠ p.src))
        node.community.sent_to_peers).2.map (⟨p.dst, ·, p.body⟩)) := by
  rw [receive_checker hp, LiberationCommunity.on_liberated_content, hkey]

/-- And with one that has none. -/
theorem receive_unkeyed {p : ContentPacket} (hp : F.checker p.dst = true)
    (hkey : announced p.body = none) (e : Arrival) (node : Checker) :
    F.protocol.receive p e node =
      (⟨node.community, node.service.on_content_received (mid_hex p.src) p.body⟩,
      ((e.get_peers.filter (· ≠ p.src)).filter (! e.fails ·)).map (⟨p.dst, ·, p.body⟩)) := by
  rw [receive_checker hp, LiberationCommunity.on_liberated_content, hkey,
    LiberationCommunity.gossip_none]

theorem marks : Marks F.protocol F.relaying where
  toAuthentic := authentic
  act_marks n a node q infohash hn := by
    rw [act_checker hn, List.countP_nil, Nat.zero_add]
    cases a with
    | broadcast_content get_peers fails payload => exact Nat.le_add_right _ _
    | purge now => exact Nat.le_add_right _ _
    | restart => exact (Bool.toNat_le _).trans (Nat.le_add_left _ _)
  receive_marks p e node q infohash hn := by
    cases hkey : announced p.body with
    | none =>
        rw [receive_unkeyed hn hkey, countP_forwarded, hkey, if_neg (Option.some_ne_none infohash).symm,
          Nat.zero_add]
        exact le_rfl
    | some other =>
        rw [receive_keyed hn hkey, countP_forwarded, hkey]
        by_cases hsame : other = infohash
        · subst hsame
          rw [if_pos rfl]
          exact LiberationCommunity.gossip_marks ..
        · rw [if_neg (fun h => hsame (Option.some.inj h)), Nat.zero_add]
          apply Bool.toNat_le_toNat
          exact LiberationCommunity.gossip_keeps

/-- The neighbours of a checker are connected to it whenever it receives something, and what is
received has been sent. -/
def Connected (F : Fleet) (link : Mid → Mid → Prop) (s : ContentNet) : ContentEvent → Prop
  | .act _ _ => True
  | .deliver p e => p ∈ s.sent ∧
    (F.checker p.dst = true → ∀ q, link p.dst q → q ∈ e.get_peers ∧ e.fails q = false)

theorem spreads (link : Mid → Mid → Prop) :
    Spreads F.protocol F.relaying (F.Connected link) link where
  toAuthentic := authentic
  possible s e h := by
    cases e with
    | act n a => trivial
    | deliver p e => exact h.1
  act_marked n a node q infohash hn h := by
    cases a with
    | broadcast_content get_peers fails payload => exact h
    | purge now => exact h
    | restart =>
        have hstart := has_start node.service.db q infohash
        exact absurd (hstart.symm.trans h) Bool.false_ne_true
  act_silent n a node hn p hp := by
    rw [act_checker hn] at hp
    cases hp
  receive_marked p e node q infohash hn h := by
    cases hkey : announced p.body with
    | none =>
        rw [receive_unkeyed hn hkey] at h
        exact .inl h
    | some other =>
        rw [receive_keyed hn hkey] at h ⊢
        rcases LiberationCommunity.gossip_marked h with hold | ⟨rfl, hq⟩
        · exact .inl hold
        · exact .inr ⟨_, List.mem_map_of_mem hq, rfl, hkey⟩
  receive_key p e node hn r hr := by
    rw [receive_checker hn] at hr
    obtain ⟨other, -, rfl⟩ := List.mem_map.mp hr
    rfl
  receive_all s p e q infohash hC hn hkey hlink hq := by
    obtain ⟨hmem, hworks⟩ := hC.2 hn q hlink
    rw [receive_keyed hn hkey]
    apply LiberationCommunity.gossip_all _ hworks
    exact List.mem_filter.mpr ⟨hmem, by simpa using hq⟩

/-! ## Content in the sets -/

theorem mem_on_content_received {service : LiberationService} {from_peer infohash : String}
    {payload : LiberatedContentPayload} (h : announced payload = some infohash) :
    infohash ∈ (service.on_content_received from_peer payload).received_content := by
  unfold LiberationService.on_content_received
  rw [h]
  dsimp only
  by_cases hmem : infohash ∈ service.received_content
  · rwa [if_pos hmem]
  · rw [if_neg hmem]
    exact Finset.mem_insert_self ..

theorem subset_on_content_received (service : LiberationService) (from_peer : String)
    (payload : LiberatedContentPayload) :
    service.received_content ⊆ (service.on_content_received from_peer payload).received_content := by
  unfold LiberationService.on_content_received
  cases announced payload with
  | none => exact Finset.Subset.refl _
  | some infohash =>
      dsimp only
      by_cases hmem : infohash ∈ service.received_content
      · rw [if_pos hmem]
      · rw [if_neg hmem]
        exact Finset.subset_insert ..

/-- The process of the node ends and starts again. -/
def restarts (n : Mid) : ContentEvent → Bool
  | .act m .restart => m = n
  | _ => false

theorem resets_eq (n : Mid) (e : ContentEvent) : F.relaying.resets n e = restarts n e := by
  cases e with
  | act m a => cases a <;> simp [Relaying.resets, relaying, restarts]
  | deliver p e => rfl

/-- Without a restart of the node no step takes anything out of its set. -/
theorem subset_apply {s : ContentNet} {e : ContentEvent} {n : Mid} (he : restarts n e = false) :
    (s.node n).service.received_content ⊆
      ((F.protocol.apply s e).node n).service.received_content := by
  have hupdate : ∀ m (node : Checker),
      (m = n → (s.node n).service.received_content ⊆ node.service.received_content) →
      (s.node n).service.received_content ⊆
        (Function.update s.node m node n).service.received_content := by
    intro m node hsub
    by_cases hm : n = m
    · subst hm
      rw [Function.update_self]
      exact hsub rfl
    · rw [Function.update_of_ne hm]
  cases e with
  | act m a =>
      apply hupdate
      rintro rfl
      cases a with
      | broadcast_content get_peers fails payload => exact Finset.Subset.refl _
      | purge now => exact Finset.Subset.refl _
      | restart => simp [restarts] at he
  | deliver p e =>
      apply hupdate
      rintro rfl
      by_cases hp : F.checker p.dst = true
      · rw [receive_checker hp]
        exact subset_on_content_received ..
      · rw [receive_seedbox hp]

/-- Whoever has heard of content has it in its set, for as long as its process runs. -/
theorem mem_of_heard {s : ContentNet} {events : List ContentEvent} {n : Mid} {infohash : String}
    (hn : F.checker n = true) (hrun : ∀ e ∈ events, restarts n e = false)
    (hheard : F.relaying.Heard infohash n events) :
    infohash ∈ ((F.run s events).node n).service.received_content := by
  induction events using List.reverseRecOn with
  | nil =>
      obtain ⟨p, e, hmem, -⟩ := hheard
      cases hmem
  | append_singleton events e ih =>
      rw [run, F.protocol.run_concat]
      have hlast : restarts n e = false := hrun e (List.mem_append_right _ (List.mem_singleton_self e))
      rcases heard_concat.mp hheard with hold | ⟨p, a, rfl, rfl, hkey⟩
      · apply subset_apply hlast
        exact ih (fun e he => hrun e (List.mem_append_left _ he)) hold
      · have hnode : (F.protocol.apply (F.protocol.run s events) (.deliver p a)).node p.dst =
            (F.protocol.receive p a ((F.protocol.run s events).node p.dst)).1 :=
          Function.update_self ..
        rw [hnode, receive_checker hn]
        exact mem_on_content_received hkey

/-! ## Announcements without an infohash -/

/-- A packet to a checker without an infohash. -/
def loud (F : Fleet) (p : ContentPacket) : Bool :=
  F.checker p.dst && (announced p.body).isNone

/-- A checker that receives such a packet has another checker as a peer. -/
def HasOther (F : Fleet) (_ : ContentNet) : ContentEvent → Prop
  | .act _ _ => True
  | .deliver p e => F.loud p = true →
    ∃ q ∈ e.get_peers, q ≠ p.src ∧ F.checker q = true ∧ e.fails q = false

theorem echoes : Echoes F.protocol F.HasOther F.loud where
  receive s p e hC hloud := by
    obtain ⟨q, hq, hne, hchecker, hworks⟩ := hC hloud
    simp only [loud, Bool.and_eq_true, Option.isNone_iff_eq_none] at hloud
    refine ⟨⟨p.dst, q, p.body⟩, ?_, ?_⟩
    · rw [receive_unkeyed hloud.1 hloud.2]
      apply List.mem_map_of_mem
      simp [hq, hne, hworks]
    · simp [loud, hchecker, hloud.2]

end Fleet

/-! ## The flood -/

/-- **A checker passes an infohash on to a peer at most once, and once more for each restart**,
however often it is announced and in whatever way the network treats the packets. -/
theorem forwards_bounded (F : Fleet) (db : Mid → Db) (events : List ContentEvent) (n q : Mid)
    (infohash : String) (hn : F.checker n = true) :
    ((F.run (Fleet.start db) events).sent.countP fun p =>
        p.src = n ∧ p.dst = q ∧ announced p.body = some infohash) ≤
      1 + events.countP (Fleet.restarts n) := by
  have hbound := Fleet.marks.sent_le (s := Fleet.start db) rfl events n q infohash hn
  have hresets : F.relaying.resets n = Fleet.restarts n := funext (Fleet.resets_eq n)
  rw [hresets] at hbound
  exact hbound

/-- A seedbox, and three checkers in a row of which the first one knows the seedbox. -/
def demoFleet : Fleet := ⟨fun mid => mid ≠ [0], 32766⟩

def demoContent (magnet_link : String) : LiberatedContentPayload where
  url := "url"
  license := "CC0"
  magnet_link
  timestamp := 43000

/-- The seedbox announces; the announcement goes down the row. -/
def demoFlood (payload : LiberatedContentPayload) : List ContentEvent :=
  [.act [0] (.broadcast_content [[1]] (fun _ => false) payload),
    .deliver ⟨[0], [1], payload⟩ ⟨[[0], [2]], fun _ => false⟩,
    .deliver ⟨[1], [2], payload⟩ ⟨[[1], [3]], fun _ => false⟩,
    .deliver ⟨[2], [3], payload⟩ ⟨[[2]], fun _ => false⟩]

/-- Two announcements, and one packet from the first checker to the second. -/
theorem forwards_bounded_demo :
    ((demoFleet.run (Fleet.start fun _ => ⟨PyDict.empty, []⟩)
        (demoFlood (demoContent "magnet:?xt=urn:btih:c0ffee") ++
          demoFlood (demoContent "magnet:?xt=urn:btih:c0ffee"))).sent.countP fun p =>
        p.src = [1] ∧ p.dst = [2] ∧ announced p.body = some "c0ffee") ≤ 1 :=
  forwards_bounded demoFleet (fun _ => ⟨PyDict.empty, []⟩)
    (demoFlood (demoContent "magnet:?xt=urn:btih:c0ffee") ++
      demoFlood (demoContent "magnet:?xt=urn:btih:c0ffee")) [1] [2] "c0ffee" rfl

/-- **Content spreads to every checker that is connected to one that was told of it**, once all
packets with its infohash have been delivered. -/
theorem content_spreads (F : Fleet) (db : Mid → Db) (link : Mid → Mid → Prop)
    (events : List ContentEvent) (infohash : String) (n m : Mid)
    (hconnected : Along F.protocol.apply (F.Connected link) (Fleet.start db) events)
    (hcomplete : ∀ p ∈ (F.run (Fleet.start db) events).sent, F.checker p.src = true →
      announced p.body = some infohash → ∃ e, .deliver p e ∈ events)
    (hpath : Relation.ReflTransGen
      (fun n q => F.checker n = true ∧ F.checker q = true ∧ link n q) n m)
    (hn : F.checker n = true)
    (htold : ∃ p e, .deliver p e ∈ events ∧ p.dst = n ∧ announced p.body = some infohash) :
    (∃ p e, .deliver p e ∈ events ∧ p.dst = m ∧ announced p.body = some infohash) ∧
      ((∀ e ∈ events, Fleet.restarts m e = false) →
        infohash ∈ ((F.run (Fleet.start db) events).node m).service.received_content) := by
  have hstart : Covered F.relaying link (Fleet.start db) ([] : List ContentEvent) :=
    covered_start rfl fun n q k => Fleet.has_start (db n) q k
  have hcovered := hstart.run (Fleet.spreads link) hconnected
  have hheard := hcovered.heard_of_reachable hcomplete hpath htold
  have hm : F.checker m = true := by
    rcases Relation.ReflTransGen.cases_tail hpath with rfl | ⟨q, -, -, hm, -⟩
    · exact hn
    · exact hm
  exact ⟨hheard, fun hrun => Fleet.mem_of_heard hm hrun hheard⟩

/-- The neighbours in the row. -/
def demoLink (n q : Mid) : Prop :=
  (n, q) ∈ ([([1], [2]), ([2], [1]), ([2], [3]), ([3], [2])] : List (Mid × Mid))

instance (n q : Mid) : Decidable (demoLink n q) := inferInstanceAs (Decidable (_ ∈ _))

theorem demo_sent :
    (demoFleet.run (Fleet.start fun _ => ⟨PyDict.empty, []⟩)
      (demoFlood (demoContent "magnet:?xt=urn:btih:c0ffee"))).sent =
    [⟨[0], [1], demoContent "magnet:?xt=urn:btih:c0ffee"⟩,
      ⟨[1], [2], demoContent "magnet:?xt=urn:btih:c0ffee"⟩,
      ⟨[2], [3], demoContent "magnet:?xt=urn:btih:c0ffee"⟩] := by
  decide +kernel

/-- The last of the row has the content. -/
theorem content_spreads_demo :
    "c0ffee" ∈ ((demoFleet.run (Fleet.start fun _ => ⟨PyDict.empty, []⟩)
      (demoFlood (demoContent "magnet:?xt=urn:btih:c0ffee"))).node [3]).service.received_content := by
  have hannounced : announced (demoContent "magnet:?xt=urn:btih:c0ffee") = some "c0ffee" := by
    decide +kernel
  have hfirst : (.deliver ⟨[0], [1], demoContent "magnet:?xt=urn:btih:c0ffee"⟩
      ⟨[[0], [2]], fun _ => false⟩ : ContentEvent) ∈
        demoFlood (demoContent "magnet:?xt=urn:btih:c0ffee") :=
    List.mem_cons_of_mem _ List.mem_cons_self
  refine (content_spreads demoFleet (fun _ => ⟨PyDict.empty, []⟩) demoLink
    (demoFlood (demoContent "magnet:?xt=urn:btih:c0ffee")) "c0ffee" [1] [3] ?_ ?_ ?_ rfl
    ⟨_, _, hfirst, rfl, hannounced⟩).2 ?_
  · refine ⟨trivial, ⟨?_, fun _ q hq => ?_⟩, ⟨?_, fun _ q hq => ?_⟩, ⟨?_, fun _ q hq => ?_⟩, trivial⟩
    · decide +kernel
    · have hq : q = [2] := by simpa [demoLink] using hq
      simp [hq]
    · decide +kernel
    · have hq : q = [1] ∨ q = [3] := by simpa [demoLink] using hq
      rcases hq with rfl | rfl <;> simp
    · decide +kernel
    · have hq : q = [2] := by simpa [demoLink] using hq
      simp [hq]
  · intro p hp _ _
    rw [demo_sent] at hp
    simp only [List.mem_cons, List.not_mem_nil, or_false] at hp
    rcases hp with rfl | rfl | rfl
    · exact ⟨_, hfirst⟩
    · exact ⟨⟨[[1], [3]], fun _ => false⟩, List.mem_cons_of_mem _ (List.mem_cons_of_mem _
        List.mem_cons_self)⟩
    · exact ⟨⟨[[2]], fun _ => false⟩, List.mem_cons_of_mem _ (List.mem_cons_of_mem _
        (List.mem_cons_of_mem _ List.mem_cons_self))⟩
  · have hback : Relation.ReflTransGen
        (fun n q => demoFleet.checker n = true ∧ demoFleet.checker q = true ∧ demoLink n q)
        [1] [2] := .single ⟨rfl, rfl, by decide⟩
    exact hback.tail ⟨rfl, rfl, by decide⟩
  · intro e he
    simp only [demoFlood, List.mem_cons, List.not_mem_nil, or_false] at he
    rcases he with rfl | rfl | rfl | rfl <;> rfl

/-- **An announcement without an infohash never comes to rest** where each checker that receives one
has another checker to pass it on to: after any run one is still under way. -/
theorem unkeyed_never_ends (F : Fleet) (s : ContentNet) (events : List ContentEvent)
    (hother : Along F.protocol.apply F.HasOther s events)
    (hsent : ∃ p ∈ s.sent, F.loud p = true) :
    ∃ p ∈ (F.run s events).sent, F.loud p = true ∧
      (delivered events).count p < (F.run s events).sent.count p :=
  exists_outstanding Fleet.echoes hother hsent

/-- Two checkers that have a third one: the link goes from the first to the second, and on. -/
theorem unkeyed_never_ends_demo :
    ∃ p ∈ (demoFleet.run ⟨fun _ => .start ⟨PyDict.empty, []⟩, [⟨[1], [2], demoContent "magnet:"⟩]⟩
        [.deliver ⟨[1], [2], demoContent "magnet:"⟩ ⟨[[1], [3]], fun _ => false⟩]).sent,
      demoFleet.loud p = true ∧
        (delivered ([.deliver ⟨[1], [2], demoContent "magnet:"⟩ ⟨[[1], [3]], fun _ => false⟩] :
            List ContentEvent)).count p <
          (demoFleet.run ⟨fun _ => .start ⟨PyDict.empty, []⟩, [⟨[1], [2], demoContent "magnet:"⟩]⟩
            [.deliver ⟨[1], [2], demoContent "magnet:"⟩ ⟨[[1], [3]], fun _ => false⟩]).sent.count p := by
  have hloud : demoFleet.loud ⟨[1], [2], demoContent "magnet:"⟩ = true := by decide +kernel
  apply unkeyed_never_ends
  · refine ⟨fun _ => ⟨[3], ?_, ?_, rfl, rfl⟩, trivial⟩
    · simp
    · simp
  · exact ⟨_, List.mem_singleton_self _, hloud⟩

end Superorganism.HealthChecker

/-
The WHOAMI gossip of the seedboxes: `LiberationCommunity.on_seedbox_info`, `PeerRegistry`,
and what a failing node makes of the registry.

A node broadcasts who it is under the receiving address of its wallet. Whoever hears of it
enters the address in the registry and, when it has not done so lately, tells its other
peers. A failing node then gives its coins to the richest peer it has heard of.

A peer is its mid. `get_peers()` is what IPv8 knows at the time, which is any list of other
nodes. A node that restarts has lost its registry and its memory of what it forwarded.
-/
import Superorganism.Network
import Superorganism.Py
import Superorganism.SpawnOutline

set_option autoImplicit false

open Superorganism.Bytes Superorganism.Py Superorganism.Process Superorganism.Spawn
open Superorganism.Network Superorganism.Runs

namespace Superorganism.Whoami

/-! ## The registry -/

abbrev Mid := List UInt8

structure SeedboxInfoPayload where
  friendly_name : String
  public_ip : String
  git_commit_hash : String
  uptime_seconds : ℤ
  disk_total_bytes : ℤ
  disk_used_bytes : ℤ
  btc_address : String
  btc_balance_sat : ℤ
  vps_provider_region : String
  vps_days_remaining : ℤ
deriving DecidableEq, Repr

/-- `PeerInfo`, beyond the two fields that the failsafe reads. -/
structure PeerInfo extends Spawn.PeerInfo where
  peer_mid : String
  friendly_name : String
  public_ip : String
  git_commit_hash : String
  uptime_seconds : ℤ
  disk_total_bytes : ℤ
  disk_used_bytes : ℤ
  vps_provider_region : String
  vps_days_remaining : ℤ
  last_seen : ℚ
deriving DecidableEq, Repr

structure PeerRegistry where
  _fleet : PyDict String PeerInfo
  _ttl : ℤ

namespace PeerRegistry

def new (SIM_MODE : Bool) (ttl_seconds : ℤ) : PeerRegistry where
  _fleet := .empty
  _ttl := if SIM_MODE then 60 else ttl_seconds

/-- What the registry keeps of a payload; `peer` may be a relay. -/
def entry (peer : Mid) (payload : SeedboxInfoPayload) (now : ℚ) : PeerInfo where
  peer_mid := hex peer
  friendly_name := payload.friendly_name
  public_ip := payload.public_ip
  git_commit_hash := payload.git_commit_hash
  uptime_seconds := payload.uptime_seconds
  disk_total_bytes := payload.disk_total_bytes
  disk_used_bytes := payload.disk_used_bytes
  btc_address := payload.btc_address
  btc_balance_sat := payload.btc_balance_sat
  vps_provider_region := payload.vps_provider_region
  vps_days_remaining := payload.vps_days_remaining
  last_seen := now

def on_seedbox_info_received (r : PeerRegistry) (peer : Mid) (payload : SeedboxInfoPayload)
    (now : ℚ) : PeerRegistry :=
  { r with _fleet := r._fleet.set payload.btc_address (entry peer payload now) }

def get_live_peers (r : PeerRegistry) (now : ℚ) : List PeerInfo :=
  r._fleet.values.filter fun p => now - r._ttl ≤ p.last_seen

/-- Every entry stands under its own address. -/
def Keyed (r : PeerRegistry) : Prop := ∀ a p, r._fleet.get? a = some p → p.btc_address = a

/-- The addresses that live entries can have are those under which something was received. -/
theorem address_of_live {r : PeerRegistry} (hr : r.Keyed) {now : ℚ} {p : PeerInfo}
    (hp : p ∈ r.get_live_peers now) : r._fleet.get? p.btc_address = some p := by
  obtain ⟨a, ha⟩ := PyDict.mem_values.mp (List.mem_filter.mp hp).1
  rw [hr a p ha]
  exact ha

theorem keyed_received {r : PeerRegistry} (hr : r.Keyed) (peer : Mid)
    (payload : SeedboxInfoPayload) (now : ℚ) :
    (r.on_seedbox_info_received peer payload now).Keyed := by
  intro a p ha
  rw [on_seedbox_info_received, PyDict.get?_set] at ha
  split at ha
  · rename_i h
    cases ha
    exact h.symm
  · exact hr a p ha

/-- What has just been received is live for as long as the registry keeps it. -/
theorem live_received (r : PeerRegistry) (peer : Mid) (payload : SeedboxInfoPayload) (now : ℚ) :
    entry peer payload now ∈
      (r.on_seedbox_info_received peer payload now).get_live_peers (now + r._ttl) := by
  refine List.mem_filter.mpr ⟨PyDict.mem_values.mpr ⟨payload.btc_address, ?_⟩, ?_⟩
  · rw [on_seedbox_info_received, PyDict.get?_set, if_pos rfl]
  · rw [decide_eq_true_iff]
    show now + (r._ttl : ℚ) - r._ttl ≤ now
    rw [add_sub_cancel_right]

end PeerRegistry

/-! ## The community -/

structure LiberationCommunity where
  _last_forwarded_whoami : PyDict String ℚ

namespace LiberationCommunity

/-- The cooldown of an address has passed. -/
def whoami_due (c : LiberationCommunity) (WHOAMI_GOSSIP_COOLDOWN : ℤ) (btc_address : String)
    (now : ℚ) : Bool :=
  now - (c._last_forwarded_whoami.get? btc_address).getD 0 > WHOAMI_GOSSIP_COOLDOWN

/-- Whom the payload is sent on to: every other peer than the one it came from. -/
def on_seedbox_info (c : LiberationCommunity) (WHOAMI_GOSSIP_COOLDOWN : ℤ) (get_peers : List Mid)
    (peer : Mid) (payload : SeedboxInfoPayload) (now : ℚ) : LiberationCommunity × List Mid :=
  if c.whoami_due WHOAMI_GOSSIP_COOLDOWN payload.btc_address now then
    ({ c with _last_forwarded_whoami := c._last_forwarded_whoami.set payload.btc_address now },
      get_peers.filter (· ≠ peer))
  else (c, [])

theorem mem_others {c : LiberationCommunity} {cooldown : ℤ} {get_peers : List Mid} {peer q : Mid}
    {payload : SeedboxInfoPayload} {now : ℚ} :
    q ∈ (c.on_seedbox_info cooldown get_peers peer payload now).2 ↔
      c.whoami_due cooldown payload.btc_address now = true ∧ q ∈ get_peers ∧ q ≠ peer := by
  unfold on_seedbox_info
  by_cases hdue : c.whoami_due cooldown payload.btc_address now = true
  · rw [if_pos hdue, List.mem_filter, decide_eq_true_iff]
    exact ⟨fun h => ⟨hdue, h⟩, fun h => h.2⟩
  · rw [if_neg hdue]
    exact ⟨fun h => absurd h List.not_mem_nil, fun h => absurd h.1 hdue⟩

end LiberationCommunity

/-! ## The fleet -/

structure NodeConfig extends Setup where
  WHOAMI_GOSSIP_COOLDOWN : ℤ
  PEER_REGISTRY_TTL : ℤ

structure Node where
  community : LiberationCommunity
  registry : PeerRegistry

def Node.new (cfg : NodeConfig) : Node where
  community := ⟨.empty⟩
  registry := .new cfg.SIM_MODE cfg.PEER_REGISTRY_TTL

/-- What a node does of itself. -/
inductive Action where
  | broadcast_seedbox_info (get_peers : List Mid) (payload : SeedboxInfoPayload)
  | restart

/-- The peers a node has when a payload arrives, and its two readings of the clock: for the
registry, and for the cooldown. -/
structure Arrival where
  get_peers : List Mid
  last_seen : ℚ
  now : ℚ

/-- The settings of every node, and whose wallet an address belongs to. -/
structure Fleet where
  config : Mid → NodeConfig
  owner : String → Option Mid

abbrev FleetNet := Net Mid Node SeedboxInfoPayload

abbrev FleetEvent := Event Mid SeedboxInfoPayload Action Arrival

namespace Fleet

variable (F : Fleet)

def protocol : Protocol Mid Node SeedboxInfoPayload Action Arrival where
  act n a node := match a with
    | .broadcast_seedbox_info get_peers payload => (node, get_peers.map (⟨n, ·, payload⟩))
    | .restart => (.new (F.config n), [])
  receive p e node :=
    let registry := node.registry.on_seedbox_info_received p.src p.body e.last_seen
    let (community, others) := node.community.on_seedbox_info
      (F.config p.dst).WHOAMI_GOSSIP_COOLDOWN e.get_peers p.src p.body e.now
    ({ community, registry }, others.map (⟨p.dst, ·, p.body⟩))

/-- Before the first broadcast. -/
def start : FleetNet where
  node n := .new (F.config n)
  sent := []

def Owns (n : Mid) (a : String) : Prop := F.owner a = some n

instance (n : Mid) (a : String) : Decidable (F.Owns n a) := inferInstanceAs (Decidable (_ = _))

/-- A packet that was sent arrives, a node broadcasts an address of its own wallet, and nobody
is among its own peers. -/
def Honest (s : FleetNet) (e : FleetEvent) : Prop :=
  Possible s e ∧ match e with
    | .act n (.broadcast_seedbox_info get_peers payload) =>
        n ∉ get_peers ∧ F.Owns n payload.btc_address
    | .act _ .restart => True
    | .deliver p e => p.dst ∉ e.get_peers

/-- No node that is due to forward a payload has its owner among the peers it forwards to. -/
def KeptFromOwner (s : FleetNet) : FleetEvent → Prop
  | .act _ _ => True
  | .deliver p e =>
      (s.node p.dst).community.whoami_due (F.config p.dst).WHOAMI_GOSSIP_COOLDOWN
        p.body.btc_address e.now = true → ∀ q ∈ e.get_peers, q ≠ p.src →
          ¬ F.Owns q p.body.btc_address

instance decidableHonest (s : FleetNet) : (e : FleetEvent) → Decidable (F.Honest s e)
  | .act n (.broadcast_seedbox_info get_peers payload) =>
    inferInstanceAs (Decidable (_ ∧ n ∉ get_peers ∧ F.Owns n payload.btc_address))
  | .act n .restart => inferInstanceAs (Decidable (Possible s (.act n Action.restart) ∧ True))
  | .deliver p e => inferInstanceAs (Decidable (_ ∧ p.dst ∉ e.get_peers))

instance decidableKeptFromOwner (s : FleetNet) : (e : FleetEvent) → Decidable (F.KeptFromOwner s e)
  | .act _ _ => .isTrue trivial
  | .deliver _ e => inferInstanceAs (Decidable (_ → ∀ q ∈ e.get_peers, _ → _))

/-- Every operation but a sweep to an address of the node's own. -/
def Elsewhere (n : Mid) : Cmd → Prop
  | .sweep_all a => ¬ F.Owns n a
  | _ => True

/-- The node lists no address of its own among its live peers, and its failsafe, run with
these peers, comes to no sweep to such an address. -/
structure Away (n : Mid) (s : FleetNet) : Prop where
  unlisted : ∀ now, ∀ p ∈ (s.node n).registry.get_live_peers now, ¬ F.Owns n p.btc_address
  unswept : ∀ now, (execute_failsafe (F.config n).toSetup
    (((s.node n).registry.get_live_peers now).map (·.toPeerInfo))).Within (F.Elsewhere n)

/-- The states of a run, and what they become when one more packet arrives. -/
inductive Reaches (events : List FleetEvent) : FleetNet → Prop where
  | along {before : List FleetEvent} :
      before <+: events → Reaches events (F.protocol.run F.start before)
  | arrived {before : List FleetEvent} {p : Packet Mid SeedboxInfoPayload} {e : Arrival} :
      before <+: events → F.Honest (F.protocol.run F.start before) (.deliver p e) →
      Reaches events (F.protocol.apply (F.protocol.run F.start before) (.deliver p e))

end Fleet

/-! ## Where a failsafe can sweep to -/

section

variable {cfg : Setup} {S : Cmd → Prop}

theorem select_best_peer_mem {peers : List Spawn.PeerInfo} {best : Spawn.PeerInfo}
    (h : select_best_peer peers = some best) : best ∈ peers := by
  cases peers with
  | nil => exact nomatch h
  | cons peer peers =>
      cases h
      induction peers generalizing peer with
      | nil => exact List.mem_singleton_self peer
      | cons p peers ih =>
          rw [List.foldl_cons]
          split
          · exact List.mem_cons_of_mem _ (ih p)
          · rcases List.mem_cons.mp (ih peer) with hpeer | hlater
            · rw [hpeer]
              exact List.mem_cons_self
            · exact List.mem_cons_of_mem _ (List.mem_cons_of_mem _ hlater)

/-- A started failsafe can sweep to its target, and to the default address when that fails. -/
theorem start_failsafe_within (hS : ∀ c, (∀ a, c ≠ .sweep_all a) → S c) (target : String)
    (fallback : Bool) : (start_failsafe cfg target fallback).Within S ↔
      S (.sweep_all target) ∧
        (fallback = false → cfg.DEFAULT_BTC_ADDRESS ≠ "" → S (.sweep_all cfg.DEFAULT_BTC_ADDRESS)) := by
  constructor
  · intro h
    -- the path on which the state and the wallet are there and the first sweep fails
    have hsweep := ((h.2 (.ok false)).2 (.ok true)).2 (.ok true)
    refine ⟨hsweep.1, fun hfallback hdefault => ?_⟩
    subst hfallback
    have hretry := hsweep.2 (.error .SystemExit)
    change ((if ¬ false = true ∧ cfg.DEFAULT_BTC_ADDRESS ≠ "" then
      perform (.sweep_all cfg.DEFAULT_BTC_ADDRESS) else Prog.raise .SystemExit).bind _).Within S at hretry
    rw [if_pos ⟨Bool.false_ne_true, hdefault⟩] at hretry
    exact hretry.1
  · rintro ⟨htarget, hdefault⟩
    have hperform (c : Cmd) (hc : ∀ a, c ≠ .sweep_all a) : (perform c).Within S := .call (hS c hc)
    refine .bind (hperform _ nofun) fun ps => .bind (.ite (fun _ => ?_) fun _ => trivial) fun _ => ?_
    · exact hperform _ nofun
    refine .bind (hperform _ nofun) fun _ => .bind (within_require _ _) fun _ => ?_
    refine .bind (hperform _ nofun) fun _ => .bind (.tryCatch (.call htarget) fun e => ?_) fun _ => ?_
    · exact .ite (fun h => .call (hdefault (by simpa using h.1) h.2)) fun _ => trivial
    · exact .bind (within_require _ _) fun _ => hperform _ nofun

/-- **The failsafe can sweep to the peer it selects and to the default address.** -/
theorem execute_failsafe_within (hS : ∀ c, (∀ a, c ≠ .sweep_all a) → S c)
    (peers : List Spawn.PeerInfo) : (execute_failsafe cfg peers).Within S ↔
      (∀ best, select_best_peer peers = some best → S (.sweep_all best.btc_address)) ∧
        (cfg.DEFAULT_BTC_ADDRESS ≠ "" → S (.sweep_all cfg.DEFAULT_BTC_ADDRESS)) := by
  unfold execute_failsafe
  cases select_best_peer peers with
  | some best =>
      dsimp only
      rw [start_failsafe_within hS]
      constructor
      · rintro ⟨htarget, hdefault⟩
        refine ⟨fun b hb => ?_, hdefault rfl⟩
        cases hb
        exact htarget
      · rintro ⟨htarget, hdefault⟩
        exact ⟨htarget best rfl, fun _ => hdefault⟩
  | none =>
      dsimp only
      by_cases hdefault : cfg.DEFAULT_BTC_ADDRESS ≠ ""
      · rw [if_pos hdefault, start_failsafe_within hS]
        constructor
        · rintro ⟨htarget, -⟩
          exact ⟨nofun, fun _ => htarget⟩
        · rintro ⟨-, htarget⟩
          exact ⟨htarget hdefault, nofun⟩
      · rw [if_neg hdefault]
        exact ⟨fun _ => ⟨nofun, fun h => absurd h hdefault⟩, fun _ => trivial⟩

end

/-! ## Payloads that stay away from their owners -/

namespace Fleet

variable {F : Fleet}

/-- The registry has heard of no address of the node's own. -/
structure Unheard (F : Fleet) (n : Mid) (node : Node) : Prop where
  keyed : node.registry.Keyed
  own : ∀ a, F.Owns n a → node.registry._fleet.get? a = none

/-- The packet goes to another node than the owner of the address in it. -/
def Abroad (F : Fleet) (p : Packet Mid SeedboxInfoPayload) : Prop :=
  ¬ F.Owns p.dst p.body.btc_address

theorem unheard_new (n : Mid) (cfg : NodeConfig) : Unheard F n (.new cfg) where
  keyed _ _ h := nomatch h
  own _ _ := rfl

theorem sound_start : Sound (Unheard F) (Abroad F) F.start where
  node n := unheard_new n (F.config n)
  sent _ h := absurd h List.not_mem_nil

/-- A payload of somebody else leaves a node as ignorant of its own addresses as it was. -/
theorem unheard_received {p : Packet Mid SeedboxInfoPayload} {node : Node} (hp : Abroad F p)
    (hnode : Unheard F p.dst node) (e : Arrival) :
    Unheard F p.dst (F.protocol.receive p e node).1 where
  keyed := PeerRegistry.keyed_received hnode.keyed p.src p.body e.last_seen
  own a ha := by
    have hne : a ≠ p.body.btc_address := fun h => hp (h ▸ ha)
    show (PyDict.set _ _ _).get? a = none
    rw [PyDict.get?_set, if_neg hne]
    exact hnode.own a ha

/-- **A node that keeps payloads from their owners hears of no address of its own.** -/
theorem kept : Kept F.protocol (fun s e => F.Honest s e ∧ F.KeptFromOwner s e) (Unheard F)
    (Abroad F) where
  possible s e hC := hC.1.1
  act s n a hC hnode := by
    cases a with
    | broadcast_seedbox_info get_peers payload =>
        obtain ⟨⟨-, hself, howner⟩, -⟩ := hC
        refine ⟨hnode, fun q hq hown => ?_⟩
        obtain ⟨m, hm, rfl⟩ := List.mem_map.mp hq
        have hmn : some n = some m := howner.symm.trans hown
        rw [Option.some.inj hmn] at hself
        exact hself hm
    | restart => exact ⟨unheard_new n (F.config n), fun q hq => absurd hq List.not_mem_nil⟩
  receive s p e hC hp hnode := by
    refine ⟨unheard_received hp hnode e, fun q hq => ?_⟩
    obtain ⟨m, hm, rfl⟩ := List.mem_map.mp hq
    obtain ⟨hdue, hpeer, hsrc⟩ := LiberationCommunity.mem_others.mp hm
    exact hC.2 hdue m hpeer hsrc

theorem elsewhere_of_ne {n : Mid} {c : Cmd} (h : ∀ a, c ≠ .sweep_all a) : F.Elsewhere n c := by
  unfold Elsewhere
  split
  · rename_i a
    exact absurd rfl (h a)
  · exact trivial

/-- A node that has not heard of its own addresses is safe, if its default address is not one
of them. -/
theorem Unheard.away {n : Mid} {s : FleetNet} (h : Unheard F n (s.node n))
    (hdefault : (F.config n).DEFAULT_BTC_ADDRESS ≠ "" →
      ¬ F.Owns n (F.config n).DEFAULT_BTC_ADDRESS) : F.Away n s := by
  have hunlisted : ∀ now, ∀ p ∈ (s.node n).registry.get_live_peers now,
      ¬ F.Owns n p.btc_address := by
    intro now p hp hown
    have hlisted := PeerRegistry.address_of_live h.keyed hp
    rw [h.own p.btc_address hown] at hlisted
    exact nomatch hlisted
  refine ⟨hunlisted, fun now => (execute_failsafe_within ?_ _).mpr ⟨fun best hbest => ?_, hdefault⟩⟩
  · exact fun c hc => elsewhere_of_ne hc
  · obtain ⟨p, hp, rfl⟩ := List.mem_map.mp (select_best_peer_mem hbest)
    exact hunlisted now p hp

/-- A node that is due to forward a payload sends it to each peer but the one it came from. -/
theorem sent_of_due {s : FleetNet} {p : Packet Mid SeedboxInfoPayload} {e : Arrival}
    {q : Mid} (hdue : (s.node p.dst).community.whoami_due (F.config p.dst).WHOAMI_GOSSIP_COOLDOWN
      p.body.btc_address e.now = true) (hpeer : q ∈ e.get_peers) (hsrc : q ≠ p.src) :
    ⟨p.dst, q, p.body⟩ ∈ (F.protocol.apply s (.deliver p e)).sent := by
  have hother := LiberationCommunity.mem_others.mpr ⟨hdue, hpeer, hsrc⟩
  exact List.mem_append_right _ (List.mem_map_of_mem hother)

/-- A payload that arrives at its owner is listed there. -/
theorem not_away_of_arrived (s : FleetNet) {p : Packet Mid SeedboxInfoPayload} (e : Arrival)
    (hown : F.Owns p.dst p.body.btc_address) :
    ¬ F.Away p.dst (F.protocol.apply s (.deliver p e)) := by
  intro h
  have hnode : ((F.protocol.apply s (.deliver p e)).node p.dst).registry =
      (s.node p.dst).registry.on_seedbox_info_received p.src p.body e.last_seen := by
    show (Function.update s.node p.dst _ p.dst).registry = _
    rw [Function.update_self]
    rfl
  have hlive := PeerRegistry.live_received (s.node p.dst).registry p.src p.body e.last_seen
  rw [← hnode] at hlive
  exact h.unlisted _ _ hlive hown

/-- With nobody live, the failsafe turns to the default address. -/
theorem default_of_away {n : Mid} (h : F.Away n F.start)
    (hdefault : (F.config n).DEFAULT_BTC_ADDRESS ≠ "") :
    ¬ F.Owns n (F.config n).DEFAULT_BTC_ADDRESS :=
  ((execute_failsafe_within (fun _ hc => elsewhere_of_ne hc) _).mp (h.unswept 0)).2 hdefault

/-- **No node ever lists an address of its own, or sweeps its wallet to one, in a state of the
run or with whichever packet arrives next, exactly when no payload is forwarded to its owner
and no default address is a node's own.** -/
theorem away_iff {events : List FleetEvent} (h : Along F.protocol.apply F.Honest F.start events) :
    (∀ s, F.Reaches events s → ∀ n, F.Away n s) ↔
      Along F.protocol.apply F.KeptFromOwner F.start events ∧
        ∀ n, (F.config n).DEFAULT_BTC_ADDRESS ≠ "" →
          ¬ F.Owns n (F.config n).DEFAULT_BTC_ADDRESS := by
  constructor
  · intro haway
    refine ⟨along_iff.mpr fun before x hbefore => ?_, fun n => ?_⟩
    · cases x with
      | act n a => exact trivial
      | deliver p e =>
          intro hdue q hpeer hsrc hown
          -- let the forwarded packet be the next to arrive
          have hsent := sent_of_due (F := F) hdue hpeer hsrc
          have hnext := Reaches.arrived (F := F) (p := ⟨p.dst, q, p.body⟩) (e := ⟨[], 0, 0⟩) hbefore
            ⟨by rw [Protocol.run_concat]; exact hsent, List.not_mem_nil⟩
          exact not_away_of_arrived (p := ⟨p.dst, q, p.body⟩) _ _ hown (haway _ hnext q)
    · exact default_of_away (haway _ (.along (List.nil_prefix)) n)
  · rintro ⟨hkept, hdefault⟩ s hs n
    refine Unheard.away ?_ (hdefault n)
    have hsound {before : List FleetEvent} (hbefore : before <+: events) :
        Sound (Unheard F) (Abroad F) (F.protocol.run F.start before) :=
      sound_start.run kept ((h.and hkept).before hbefore)
    cases hs with
    | along hbefore => exact (hsound hbefore).node n
    | @arrived before p e hbefore hhonest =>
        -- whom the node forwards the payload to does not matter yet
        have hs := hsound hbefore
        have hnodes : Sound (Unheard F) (fun _ => True) (F.protocol.run F.start before) :=
          ⟨hs.node, fun _ _ => trivial⟩
        have hreceived := unheard_received (hs.sent p hhonest.1) (hs.node p.dst) e
        exact (hnodes.put hreceived fun _ _ => trivial).node n

end Fleet

/-! ## Three nodes -/

/-- Three nodes with a wallet each. -/
def demoFleet : Fleet where
  config _ := { calmSetup with WHOAMI_GOSSIP_COOLDOWN := 60, PEER_REGISTRY_TTL := 3600 }
  owner a :=
    if a = "bc1qa" then some [1]
    else if a = "bc1qb" then some [2]
    else if a = "bc1qc" then some [3]
    else none

def demoWhoami (btc_address : String) (btc_balance_sat : ℤ) : SeedboxInfoPayload where
  friendly_name := "mycelium-node"
  public_ip := "10.0.0.1"
  git_commit_hash := "unknown"
  uptime_seconds := 0
  disk_total_bytes := 0
  disk_used_bytes := 0
  btc_address := btc_address
  btc_balance_sat := btc_balance_sat
  vps_provider_region := ""
  vps_days_remaining := 1

/-- The second node knows the other two, which do not know each other. -/
def line : List FleetEvent :=
  let whoami := demoWhoami "bc1qa" 500
  [.act [1] (.broadcast_seedbox_info [[2]] whoami),
    .deliver ⟨[1], [2], whoami⟩ ⟨[[1], [3]], 100, 100⟩,
    .deliver ⟨[2], [3], whoami⟩ ⟨[[2]], 101, 101⟩]

theorem away_iff_line :
    demoFleet.Away [1] (demoFleet.protocol.run demoFleet.start line) ∧
      demoFleet.Away [3] (demoFleet.protocol.run demoFleet.start line) := by
  have hhonest : Along demoFleet.protocol.apply demoFleet.Honest demoFleet.start line := by
    decide +kernel
  have haway := (Fleet.away_iff hhonest).mpr
    ⟨by decide +kernel, fun _ h => absurd rfl h⟩
  have hend : demoFleet.Reaches line (demoFleet.protocol.run demoFleet.start line) :=
    .along List.prefix_rfl
  exact ⟨haway _ hend [1], haway _ hend [3]⟩

/-- All three know each other. What the first broadcasts the second tells the third, and the
third the first. -/
def ring : List FleetEvent :=
  let whoami := demoWhoami "bc1qa" 500
  [.act [2] (.broadcast_seedbox_info [[1], [3]] (demoWhoami "bc1qb" 10)),
    .deliver ⟨[2], [1], demoWhoami "bc1qb" 10⟩ ⟨[[2], [3]], 100, 100⟩,
    .act [1] (.broadcast_seedbox_info [[2], [3]] whoami),
    .deliver ⟨[1], [2], whoami⟩ ⟨[[1], [3]], 101, 101⟩,
    .deliver ⟨[2], [3], whoami⟩ ⟨[[1], [2]], 102, 102⟩,
    .deliver ⟨[3], [1], whoami⟩ ⟨[[2], [3]], 103, 103⟩]

/-- The first node is then the richest peer that it knows, and its failsafe sweeps to it. -/
theorem swept_to_itself : Along demoFleet.protocol.apply demoFleet.Honest demoFleet.start ring ∧
    let node := (demoFleet.protocol.run demoFleet.start ring).node [1]
    let live_peers := (node.registry.get_live_peers 104).map (·.toPeerInfo)
    demoFleet.Owns [1] "bc1qa" ∧
      select_best_peer live_peers = some { btc_address := "bc1qa", btc_balance_sat := 500 } ∧
      ¬ (execute_failsafe (demoFleet.config [1]).toSetup live_peers).Within
        (demoFleet.Elsewhere [1]) := by
  have hbest : select_best_peer ((((demoFleet.protocol.run demoFleet.start ring).node
      [1]).registry.get_live_peers 104).map (·.toPeerInfo)) =
        some { btc_address := "bc1qa", btc_balance_sat := 500 } := by decide +kernel
  refine ⟨by decide +kernel, by decide, hbest, fun h => ?_⟩
  exact ((execute_failsafe_within (fun _ hc => Fleet.elsewhere_of_ne hc) _).mp h).1 _ hbest rfl

end Superorganism.Whoami

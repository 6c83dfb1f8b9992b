/-
Nodes of the community among others that send whatever they like.

Any datagram may reach a node: one that another node sent, once or many times and at any later time,
or one that was made outside. What is made outside is bounded by the signatures alone: where it
carries a valid signature of a node, that node has sent these signed bytes.

So what a node takes for a packet of another node was sent by that node (`accepted_was_sent`), and
what the nodes come to store was there at the start, made by one of their users, or signed with a
foreign key (`stores_hold_what_is_vouched_for`).
-/
import Superorganism.Broadcasts
import Superorganism.Network
import Superorganism.PacketExchange

set_option autoImplicit false

open Superorganism.Py Superorganism.Funding Superorganism.Gossip Superorganism.Sql
open Superorganism.Ipv8 Superorganism.Runs Superorganism.Bytes Superorganism.Replica

namespace Superorganism.Democracy

/-! ## What can be received -/

namespace Node

variable {crypto : ECCrypto} {self : Node crypto} {payload : Packet} {data : List UInt8}

/-- Nothing is received that could not be sent. -/
theorem receive_fits (h : self.receive data = some payload) : payload.Fits := by
  obtain ⟨-, -, _, -, _, body, _, _, hdelivered⟩ := receive_eq_some_iff.mp h
  rw [← Packet.packs]
  rcases hdelivered.fields with hpacked | hcut
  · exact ⟨body, hpacked⟩
  · -- the fields before the last are packed, and so is the last with its own length
    obtain ⟨fmts, fmt, xs, x, u, k, text, n, hformats, hvalues, hlen, hu, -, hlast, -⟩ := hcut
    rw [Packet.to_pack_list, hformats, hvalues, List.zip_append hlen, Serializer.packs_iff]
    intro packable hpackable
    rcases List.mem_append.mp hpackable with hfirst | hfinal
    · exact Serializer.packs_iff.mp ⟨u, hu⟩ packable hfirst
    · rw [List.mem_singleton.mp hfinal]
      exact ⟨_, hlast⟩

end Node

/-- What is parsed is a datetime. -/
def Runtime.ReadsDatetimes (rt : Runtime) : Prop :=
  ∀ text created_at, rt.parse_datetime text = .ok created_at → rt.IsDatetime created_at

variable {rt : Runtime}

theorem FundingCampaign.new_eq_ok {solution_id id : UUID} {solution_hash : String}
    {developer_payout_address : Option String} {asking_price_sats : ℤ} {deadline_height : Option ℤ}
    {created_at : CreatedAt} {campaign : FundingCampaign}
    (h : FundingCampaign.new solution_id solution_hash developer_payout_address asking_price_sats
      deadline_height id created_at = .ok campaign) :
    campaign.created_at = created_at ∧ campaign.asking_price_sats = asking_price_sats ∧
      campaign.deadline_height = deadline_height := by
  unfold FundingCampaign.new at h
  dsimp only at h
  split_ifs at h
  · obtain rfl := Except.ok.inj h
    exact ⟨rfl, rfl, rfl⟩
  · obtain rfl := Except.ok.inj h
    exact ⟨rfl, rfl, rfl⟩

theorem FundingPledge.new_eq_ok {campaign_id pledger_id id : UUID} {txid signed_pledge_psbt : String}
    {vout value_sats : ℤ} {created_at : CreatedAt} {pledge : FundingPledge}
    (h : FundingPledge.new campaign_id pledger_id txid vout value_sats signed_pledge_psbt id
      created_at = .ok pledge) :
    pledge.created_at = created_at ∧ pledge.vout = vout ∧ pledge.value_sats = value_sats := by
  unfold FundingPledge.new at h
  split at h
  · cases h
  · split at h
    · cases h
    · split_ifs at h
      obtain rfl := Except.ok.inj h
      exact ⟨rfl, rfl, rfl⟩

theorem map_eq_ok {ε α β : Type} {f : α → β} {x : Except ε α} {b : β} :
    x.map f = .ok b ↔ ∃ a, x = .ok a ∧ f a = b := by
  constructor
  · intro h
    cases x with
    | error e => cases h
    | ok a => exact ⟨a, rfl, Except.ok.inj h⟩
  · rintro ⟨a, rfl, rfl⟩
    rfl

/-- A message that arrived makes a model with a datetime, and with integers that the columns take. -/
theorem Message.to_model_fits {message : Message} {o : Object} (hdates : rt.ReadsDatetimes)
    (hfits : (Packet.object message).Fits) (h : message.to_model rt = .ok o) :
    rt.IsDatetime o.created_at ∧ (rt.row o).FitsColumns := by
  have hint (n : ℤ) (hn : Field.int n ∈ message.fields) : n < 2 ^ 63 := (hfits _ hn).2
  cases message with
  | issue message =>
      obtain ⟨model, hmodel, rfl⟩ := map_eq_ok.mp h
      obtain ⟨_, -, hmodel⟩ := bind_eq_ok.mp hmodel
      obtain ⟨_, -, hmodel⟩ := bind_eq_ok.mp hmodel
      obtain ⟨created_at, hdate, hmodel⟩ := bind_eq_ok.mp hmodel
      obtain rfl := Except.ok.inj hmodel
      exact ⟨hdates _ _ hdate, trivial⟩
  | issue_vote message =>
      obtain ⟨model, hmodel, rfl⟩ := map_eq_ok.mp h
      obtain ⟨_, -, hmodel⟩ := bind_eq_ok.mp hmodel
      obtain ⟨_, -, hmodel⟩ := bind_eq_ok.mp hmodel
      obtain ⟨_, -, hmodel⟩ := bind_eq_ok.mp hmodel
      obtain ⟨created_at, hdate, hmodel⟩ := bind_eq_ok.mp hmodel
      obtain rfl := Except.ok.inj hmodel
      exact ⟨hdates _ _ hdate, trivial⟩
  | solution message =>
      obtain ⟨model, hmodel, rfl⟩ := map_eq_ok.mp h
      obtain ⟨_, -, hmodel⟩ := bind_eq_ok.mp hmodel
      obtain ⟨_, -, hmodel⟩ := bind_eq_ok.mp hmodel
      obtain ⟨_, -, hmodel⟩ := bind_eq_ok.mp hmodel
      obtain ⟨created_at, hdate, hmodel⟩ := bind_eq_ok.mp hmodel
      obtain rfl := Except.ok.inj hmodel
      exact ⟨hdates _ _ hdate, trivial⟩
  | solution_vote message =>
      obtain ⟨model, hmodel, rfl⟩ := map_eq_ok.mp h
      obtain ⟨_, -, hmodel⟩ := bind_eq_ok.mp hmodel
      obtain ⟨_, -, hmodel⟩ := bind_eq_ok.mp hmodel
      obtain ⟨_, -, hmodel⟩ := bind_eq_ok.mp hmodel
      obtain ⟨created_at, hdate, hmodel⟩ := bind_eq_ok.mp hmodel
      obtain rfl := Except.ok.inj hmodel
      exact ⟨hdates _ _ hdate, trivial⟩
  | campaign message =>
      obtain ⟨model, hmodel, rfl⟩ := map_eq_ok.mp h
      obtain ⟨_, -, hmodel⟩ := bind_eq_ok.mp hmodel
      obtain ⟨_, -, hmodel⟩ := bind_eq_ok.mp hmodel
      obtain ⟨created_at, hdate, hmodel⟩ := bind_eq_ok.mp hmodel
      obtain ⟨hcreated, hprice, hdeadline⟩ := FundingCampaign.new_eq_ok hmodel
      refine ⟨show rt.IsDatetime model.created_at from hcreated ▸ hdates _ _ hdate,
        show model.asking_price_sats < 2 ^ 63 from hprice ▸ hint _ (by simp [Message.fields]), ?_⟩
      intro height hheight
      have hheight : model.deadline_height = some height := hheight
      rw [hdeadline] at hheight
      split_ifs at hheight
      rw [← Option.some.inj hheight]
      exact hint _ (by simp [Message.fields])
  | pledge message =>
      obtain ⟨model, hmodel, rfl⟩ := map_eq_ok.mp h
      obtain ⟨_, -, hmodel⟩ := bind_eq_ok.mp hmodel
      obtain ⟨_, -, hmodel⟩ := bind_eq_ok.mp hmodel
      obtain ⟨_, -, hmodel⟩ := bind_eq_ok.mp hmodel
      obtain ⟨created_at, hdate, hmodel⟩ := bind_eq_ok.mp hmodel
      obtain ⟨hcreated, hvout, hvalue⟩ := FundingPledge.new_eq_ok hmodel
      exact ⟨show rt.IsDatetime model.created_at from hcreated ▸ hdates _ _ hdate,
        show model.vout < 2 ^ 63 from hvout ▸ hint _ (by simp [Message.fields]),
        show model.value_sats < 2 ^ 63 from hvalue ▸ hint _ (by simp [Message.fields])⟩

/-! ## Signatures -/

/-- The datagram is these bytes and a valid signature of them. -/
def SignedBy (crypto : ECCrypto) (public_key : crypto.PublicKey) (signed data : List UInt8) : Prop :=
  ∃ signature, data = signed ++ signature ∧
    signature.length = crypto.get_signature_length public_key ∧
    crypto.is_valid_signature public_key signed signature = true

namespace Node

variable {crypto : ECCrypto} {self sender : Node crypto} {payload : Packet} {data : List UInt8}

/-- The node takes the datagram for one of the owner of the key. -/
def Accepts (self : Node crypto) (data : List UInt8) (payload : Packet)
    (public_key : crypto.PublicKey) : Prop :=
  data.take 22 = self.overlay.prefix_bytes ∧ data[22]? = some payload.cls.msg_id ∧
    ∃ public_key_bin header body signature,
      (self.overlay.verified_by_public_key_bin public_key_bin = true ∨
        ∀ header ∈ PRIVATE_KEY_HEADERS, ¬ header <+: public_key_bin) ∧
      Delivered crypto payload.cls.format_list data public_key_bin payload.fields header body signature
        public_key

theorem receive_iff_accepts :
    self.receive data = some payload ↔ ∃ public_key, self.Accepts data payload public_key := by
  rw [receive_eq_some_iff]
  constructor
  · rintro ⟨hfirst, hid, public_key_bin, hknown, header, body, signature, public_key, h⟩
    exact ⟨public_key, hfirst, hid, public_key_bin, header, body, signature, hknown, h⟩
  · rintro ⟨public_key, hfirst, hid, public_key_bin, header, body, signature, hknown, h⟩
    exact ⟨hfirst, hid, public_key_bin, hknown, header, body, signature, public_key, h⟩

/-- A packet of a node is accepted as one of its own key. -/
theorem accepts_of_send {sender : Node crypto} {public_key : crypto.PublicKey}
    (hkey : crypto.Works sender.overlay.key public_key)
    (hfirst : sender.overlay.prefix_bytes.length = 22)
    (hsame : sender.overlay.prefix_bytes = self.overlay.prefix_bytes)
    (h : sender.ez_send payload = .ok data) : self.Accepts data payload public_key := by
  obtain ⟨body, hbody, rfl⟩ := (Overlay.ezr_pack_eq_ok hkey).mp h
  have hheader (rest : List UInt8) :
      (sender.overlay.unsigned payload.cls.msg_id body ++ rest).take 22 = self.overlay.prefix_bytes ∧
        (sender.overlay.unsigned payload.cls.msg_id body ++ rest)[22]? = some payload.cls.msg_id := by
    rw [Overlay.unsigned, List.append_assoc, List.append_assoc, List.append_assoc, ← hsame]
    refine ⟨List.take_left' hfirst, ?_⟩
    rw [List.getElem?_append_right hfirst.le, hfirst]
    rfl
  obtain ⟨htake, hid⟩ := hheader (crypto.create_signature sender.overlay.key
    (sender.overlay.unsigned payload.cls.msg_id body))
  refine ⟨htake, hid, crypto.key_to_bin sender.overlay.key,
    sender.overlay.prefix_bytes ++ [payload.cls.msg_id], body, _, .inr hkey.not_private, rfl, ?_,
    hkey.length, hkey.read, hkey.signature_length _, ?_, hkey.valid _, payload.arity, .inl hbody⟩
  · rw [List.length_append, hfirst]
    rfl
  · rw [hkey.signature_length]
    exact hkey.pos

/-- Only the signed bytes count: under another valid signature the datagram is received as the
same. -/
theorem Accepts.resigned {public_key : crypto.PublicKey} (h : self.Accepts data payload public_key) :
    ∃ signed, SignedBy crypto public_key signed data ∧
      ∀ other, SignedBy crypto public_key signed other → self.receive other = some payload := by
  obtain ⟨hfirst, hid, public_key_bin, header, body, signature, hknown, h⟩ := h
  obtain ⟨signed, hsigned⟩ : ∃ signed, signed =
    header ++ (beOfNat 2 public_key_bin.length ++ public_key_bin) ++ body := ⟨_, rfl⟩
  have hvalid := h.signed
  have hdata := h.data_eq
  rw [← hsigned] at hvalid hdata
  refine ⟨signed, ⟨signature, hdata, h.signature_length, hvalid⟩, ?_⟩
  rintro other ⟨signature', hother, hlength, hvalid'⟩
  have hlen : 23 ≤ signed.length := by
    rw [hsigned, List.length_append, List.length_append, h.header_length]
    omega
  rw [receive_iff_accepts]
  refine ⟨public_key, ?_, ?_, public_key_bin, header, body, signature', hknown,
    hsigned ▸ hother, h.header_length, h.key_length, h.key, hlength, ?_, hsigned ▸ hvalid', h.arity,
    h.fields⟩
  · rw [← hfirst, hdata, hother, List.take_append_of_le_length (by omega),
      List.take_append_of_le_length (by omega)]
  · rw [← hid, hdata, hother, List.getElem?_append_left (by omega),
      List.getElem?_append_left (by omega)]
  · rw [hlength, ← h.signature_length]
    exact h.signature_pos

end Node

/-! ## The network -/

section

variable {ι : Type} {crypto : ECCrypto}

/-- What happens at a node, or is sent to one from outside. -/
inductive Act (ι : Type) where
  | app (event : AppEvent (Option ι))
  | inject (dst : ι) (data : List UInt8)

/-- A datagram between nodes; `none` is the outside. -/
abbrev Datagram (ι : Type) := Network.Packet (Option ι) (List UInt8)

abbrev OpenNet (ι : Type) := Network.Net (Option ι) App (List UInt8)

/-- What an event of the application leads to. -/
def Node.emits (self : Node crypto) (i : ι) (event : AppEvent (Option ι)) (s : App) :
    App × List (Datagram ι) :=
  let trace := self.step s event
  (trace.app, trace.sent.map fun sent => ⟨some i, sent.1, sent.2⟩)

/-- The nodes and the outside. -/
def community (nodes : ι → Node crypto) :
    Network.Protocol (Option ι) App (List UInt8) (Act ι) (String × List (Option ι)) where
  act
    | some i, .app event, s => (nodes i).emits i event s
    | none, .inject dst data, s => (s, [⟨none, some dst, data⟩])
    | _, _, s => (s, [])
  receive packet circumstances s :=
    match packet.dst with
    | some i =>
      (nodes i).emits i (.datagram circumstances.1 packet.src circumstances.2 packet.body) s
    | none => (s, [])

/-- The nodes are of one community, and their repositories run alike. -/
structure OneCommunity (nodes : ι → Node crypto) (rt : Runtime) : Prop where
  ready : ∀ i, (nodes i).Ready
  same_bytes : ∀ i j, (nodes i).overlay.prefix_bytes = (nodes j).overlay.prefix_bytes
  same_rt : ∀ i, (nodes i).rt = rt
  dates : rt.ReadsDatetimes

/-- What is signed with the key of a node in a datagram, that node has signed before. -/
def Unforged (nodes : ι → Node crypto) (s : OpenNet ι) (data : List UInt8) : Prop :=
  ∀ i public_key signed, crypto.Works (nodes i).overlay.key public_key →
    SignedBy crypto public_key signed data →
    ∃ q ∈ s.sent, q.src = some i ∧ SignedBy crypto public_key signed q.body

/-- No node has the key. -/
def Foreign (nodes : ι → Node crypto) (public_key : crypto.PublicKey) : Prop :=
  ∀ i, ¬ crypto.Works (nodes i).overlay.key public_key

/-- Users make what is vouched for, and so do the owners of foreign keys. Nobody forges signatures,
and what is delivered was sent. -/
def Allowed (nodes : ι → Node crypto) (rt : Runtime) (texts : Set String) (vouched : Set Object)
    (s : OpenNet ι) : Network.Event (Option ι) (List UInt8) (Act ι) (String × List (Option ι)) → Prop
  | .act (some _) (.app (.call _ call)) => rt.Genuine texts call.model ∧ call.model ∈ vouched
  | .act (some _) (.app (.datagram ..)) => False
  | .act (some _) (.app _) => True
  | .act none (.inject _ data) => Unforged nodes s data ∧
      ∀ i message public_key o, (nodes i).Accepts data (.object message) public_key →
        Foreign nodes public_key → message.to_model rt = .ok o →
        o ∈ vouched ∧ ∀ text, o.description = some text → text ∈ texts
  | .act _ _ => False
  | .deliver packet _ => packet ∈ s.sent

end

/-! ## What a node sends -/

theorem mem_send_each {α β : Type} {send : β → Except WireError (List UInt8)}
    {build : α → Except PyError (Option β)} {xs : List α} {packet : List UInt8}
    (h : packet ∈ send_each send build xs) :
    ∃ x ∈ xs, ∃ message, build x = .ok (some message) ∧ send message = .ok packet := by
  induction xs with
  | nil => cases h
  | cons x xs ih =>
      rw [send_each] at h
      split at h
      · cases h
      · obtain ⟨y, hy, hpacket⟩ := ih h
        exact ⟨y, List.mem_cons_of_mem x hy, hpacket⟩
      · next message hbuild =>
          split at h
          · cases h
          · next first hsend =>
              rcases List.mem_cons.mp h with rfl | h
              · exact ⟨x, List.mem_cons_self, message, hbuild, hsend⟩
              · obtain ⟨y, hy, hpacket⟩ := ih h
                exact ⟨y, List.mem_cons_of_mem x hy, hpacket⟩

theorem mem_multicast {ι α : Type} {send : α → Except WireError (List UInt8)} {peers : List ι}
    {payload : α} {packets : List (ι × List UInt8)} (h : multicast send peers payload = some packets) :
    ∀ packet ∈ packets, send payload = .ok packet.2 := by
  cases peers with
  | nil =>
      cases h
      exact fun packet hpacket => absurd hpacket List.not_mem_nil
  | cons peer peers =>
      rw [multicast] at h
      split at h
      · cases h
      · next packet hsend =>
          cases h
          intro sent hsent
          obtain ⟨peer, -, rfl⟩ := List.mem_map.mp hsent
          exact hsend

section

variable {ι : Type} {crypto : ECCrypto} {self : Node crypto}

/-- The packet holds a payload of the node; an object in it is one of the models, or is stored. -/
def Node.Sends (self : Node crypto) (models : List Object) (t : Tables) (packet : List UInt8) : Prop :=
  ∃ payload, self.ez_send payload = .ok packet ∧ ∀ message, payload = .object message →
    (∃ o ∈ models, o.build_message = .ok message) ∨
      ∃ item, self.rt.send_object t item = .ok (some message)

namespace Node

variable {models : List Object} {t : Tables}

theorem sends_of_send_batches {wrap : List UInt8 → Packet}
    (hwrap : ∀ blob message, wrap blob ≠ .object message) {items : List GossipItem}
    {packet : List UInt8} (h : packet ∈ self.send_batches wrap items) :
    self.Sends models t packet := by
  rw [send_batches] at h
  split at h
  · cases h
  · obtain ⟨-, -, blob, -, hsend⟩ := mem_send_each h
    exact ⟨wrap blob, hsend, fun message heq => absurd heq (hwrap blob message)⟩

theorem sends_of_announce {packet : List UInt8} (h : packet ∈ self.announce_full_inventory t) :
    self.Sends models t packet := by
  rw [announce_full_inventory] at h
  split at h
  · cases h
  · exact sends_of_send_batches (fun _ _ heq => by cases heq) h

theorem sends_of_broadcast {peers : List ι} {o : Object} (ho : o ∈ models)
    {packets : List (ι × List UInt8)} (h : self.broadcast_created_model peers o = some packets) :
    ∀ packet ∈ packets, self.Sends models t packet.2 := by
  rw [broadcast_created_model] at h
  cases hbuild : o.build_message with
  | error e =>
      rw [hbuild] at h
      cases h
  | ok message =>
      rw [hbuild] at h
      intro packet hpacket
      refine ⟨.object message, mem_multicast h packet hpacket, fun message' heq => .inl ⟨o, ho, ?_⟩⟩
      rw [hbuild, Packet.object.inj heq]

theorem sends_of_flush {peers : List ι} {pending : List Object} (hpending : ∀ o ∈ pending, o ∈ models) :
    ∀ packet ∈ (self.flush_pending peers pending).2, self.Sends models t packet.2 := by
  induction pending with
  | nil => exact fun packet hpacket => absurd hpacket List.not_mem_nil
  | cons o pending ih =>
      obtain ⟨ho, hrest⟩ := List.forall_mem_cons.mp hpending
      rw [flush_pending]
      cases hbroadcast : self.broadcast_created_model peers o with
      | none => exact fun packet hpacket => absurd hpacket List.not_mem_nil
      | some packets =>
          intro packet hpacket
          rcases List.mem_append.mp hpacket with hnow | hlater
          · exact sends_of_broadcast ho hbroadcast packet hnow
          · exact ih hrest packet hlater

theorem sends_of_on_packet (now : String) (data : List UInt8) :
    (∀ packet ∈ (self.on_packet now data t).replies, self.Sends models t packet) ∧
      ∀ packet ∈ (self.on_packet now data t).announced, self.Sends models t packet := by
  have hnothing {packet : List UInt8} (h : packet ∈ ([] : List (List UInt8))) :
      self.Sends models t packet := absurd h List.not_mem_nil
  rw [on_packet]
  cases self.receive data with
  | none => exact ⟨fun _ => hnothing, fun _ => hnothing⟩
  | some payload =>
      cases payload with
      | ihave items_blob =>
          refine ⟨fun packet hpacket => ?_, fun _ => hnothing⟩
          have hpacket : packet ∈ self.on_ihave_message items_blob t := hpacket
          rw [on_ihave_message] at hpacket
          split at hpacket
          · cases hpacket
          · cases hpacket
          · exact sends_of_send_batches (fun _ _ heq => by cases heq) hpacket
      | iwant items_blob =>
          refine ⟨fun packet hpacket => ?_, fun _ => hnothing⟩
          have hpacket : packet ∈ self.on_iwant_message items_blob t := hpacket
          rw [on_iwant_message] at hpacket
          obtain ⟨item, -, message, hbuild, hsend⟩ := mem_send_each hpacket
          exact ⟨.object message, hsend, fun message' heq =>
            .inr ⟨item, Packet.object.inj heq ▸ hbuild⟩⟩
      | object message =>
          dsimp only [handle]
          rw [handle_object_message]
          cases message.to_model self.rt with
          | error e => exact ⟨fun _ => hnothing, fun _ => hnothing⟩
          | ok o =>
              dsimp only
              rcases self.rt.store_remote now o t with ⟨status, t'⟩
              cases status with
              | error e => exact ⟨fun _ => hnothing, fun _ => hnothing⟩
              | ok status =>
                  cases status with
                  | STORED =>
                      refine ⟨fun _ => hnothing, fun packet hpacket => ?_⟩
                      have hpacket : packet ∈ self.send_batches .ihave [o.item] := hpacket
                      exact sends_of_send_batches (fun _ _ heq => by cases heq) hpacket
                  | ALREADY_PRESENT => exact ⟨fun _ => hnothing, fun _ => hnothing⟩
                  | REJECTED => exact ⟨fun _ => hnothing, fun _ => hnothing⟩

/-- What an event sends are payloads of the node: batches of items, models that were to be broadcast,
and what is stored. -/
theorem step_sends (s : App) (event : AppEvent ι) :
    ∀ sent ∈ (self.step s event).sent, self.Sends s.thread.queue s.tables sent.2 := by
  intro sent hsent
  have hall {peers : List ι} {packets : List (List UInt8)}
      (hpackets : ∀ packet ∈ packets, self.Sends s.thread.queue s.tables packet)
      (hsent : sent ∈ packets.flatMap fun packet => peers.map fun peer => (peer, packet)) :
      self.Sends s.thread.queue s.tables sent.2 := by
    obtain ⟨packet, hpacket, hsent⟩ := List.mem_flatMap.mp hsent
    obtain ⟨peer, -, rfl⟩ := List.mem_map.mp hsent
    exact hpackets packet hpacket
  cases event with
  | call now call => cases hsent
  | run =>
      rw [step] at hsent
      split at hsent <;> cases hsent
  | opened =>
      rw [step] at hsent
      split at hsent <;> cases hsent
  | failed =>
      rw [step] at hsent
      split at hsent <;> cases hsent
  | started peers =>
      rw [step] at hsent
      split at hsent
      · exact sends_of_flush (fun o ho => List.mem_append_left _ ho) sent hsent
      · cases hsent
  | task peers =>
      rw [step] at hsent
      split at hsent
      · cases hsent
      · next model scheduled hscheduled =>
          have hmodel : model ∈ s.thread.queue :=
            List.mem_append_right _ (hscheduled ▸ List.mem_cons_self)
          split at hsent
          · cases hbroadcast : self.broadcast_created_model peers model with
            | none =>
                have hsent : sent ∈ (self.broadcast_created_model peers model).getD [] := hsent
                rw [hbroadcast] at hsent
                cases hsent
            | some packets =>
                rw [hbroadcast] at hsent
                exact sends_of_broadcast hmodel hbroadcast sent hsent
          · cases hsent
  | announce peers =>
      rw [step] at hsent
      split at hsent
      · exact hall (fun packet hpacket => sends_of_announce hpacket) hsent
      · cases hsent
  | datagram now src peers data =>
      rw [step] at hsent
      split at hsent
      · obtain ⟨hreplies, hannounced⟩ := sends_of_on_packet now data
        rcases List.mem_append.mp hsent with hreply | hannounce
        · obtain ⟨packet, hpacket, rfl⟩ := List.mem_map.mp hreply
          exact hreplies packet hpacket
        · exact hall hannounced hannounce
      · cases hsent

end Node

end

/-! ## What a node stores -/

namespace Runtime

variable {rt : Runtime} {texts : Set String} {t : Tables} {o : Object}

/-- Adding keeps the store, and brings in nothing else. -/
theorem IsStore.add_one (h : rt.IsStore texts t) (ho : rt.Genuine texts o) (now : String)
    (hinj : Set.InjOn rt.text_hash texts) :
    rt.IsStore texts (rt.add_one now o t).2 ∧
      ∀ p ∈ rt.stored texts (rt.add_one now o t).2, p ∈ rt.stored texts t ∨ p = o := by
  rw [add_one_eq]
  rcases transaction_exec (rt.prepare now o) (fun t => t.insert_row (rt.row o)) t with
    ⟨e, -, hfail⟩ | ⟨u, t', hok, hdone⟩
  · rw [hfail]
    exact ⟨h, fun p hp => .inl hp⟩
  · rw [hdone]
    have hprepare := h.prepare ho now
    obtain ⟨t'', hok', hrows, hcontents⟩ := Tables.insert_row_of_admits (fun _ => prepare_content)
      ho.fits (Tables.admits_of_insert_row hok)
    rw [hok] at hok'
    cases hok'
    have hstore : rt.IsStore texts t' := by
      refine ⟨hprepare.sane.of_schema (hprepare.sane.1.insert_row hok) hcontents,
        fun content hcontent => hprepare.contents content (hcontents ▸ hcontent), fun row hrow => ?_⟩
      rcases (hrows row).mp hrow with hold | rfl
      · exact hprepare.rows row hold
      · exact ⟨o, ho, rfl⟩
    refine ⟨hstore, fun p hp => ?_⟩
    rcases (hrows _).mp hp.2 with hold | hnew
    · exact .inl ⟨hp.1, prepare_hasRow.mp hold⟩
    · -- whatever has this row is the object itself
      exact .inr (hstore.eq_of_item hinj hp ⟨ho, (hrows _).mpr (.inr rfl)⟩ (item_eq_of_row hnew))

theorem serve_tables (now : String) (call : Call) :
    (rt.serve now call t).tables = (rt.add_one now call.model t).2 := by
  have hcreate (o : Object) (added : Except PyError Unit × Tables) :
      (createModel o added).tables = added.2 := by
    obtain ⟨answer, after⟩ := added
    cases answer <;> rfl
  have hcast (o : Object) (recorded : Except PyError VoteRecordResult × Tables) :
      (castVote o recorded).tables = recorded.2 := by
    obtain ⟨answer, after⟩ := recorded
    cases answer with
    | error e => rfl
    | ok result => cases result <;> rfl
  cases call with
  | create_issue title description creator_id id created_at => exact hcreate _ _
  | vote_for_issue voter_id issue_id id created_at => exact (hcast _ _).trans (record_vote_snd _ _)
  | create_solution title description creator_id issue_id id created_at => exact hcreate _ _
  | vote_for_solution voter_id solution_id id created_at =>
      exact (hcast _ _).trans (record_vote_snd _ _)

end Runtime

/-! ## What is vouched for -/

/-- An object in the payload is a model that is vouched for. -/
def Vouches (rt : Runtime) (texts : Set String) (vouched : Set Object) (payload : Packet) : Prop :=
  ∀ message o, payload = .object message → message.to_model rt = .ok o →
    rt.Genuine texts o ∧ o ∈ vouched

section

variable {ι : Type} {crypto : ECCrypto} {self : Node crypto} {rt : Runtime} {texts : Set String}
  {vouched : Set Object} (hinj : Set.InjOn rt.text_hash texts) (hrt : self.rt = rt)

theorem vouches_of_model {o : Object} (ho : rt.Genuine texts o) (hvouched : o ∈ vouched)
    {message : Message} (hmodel : message.to_model rt = .ok o) :
    Vouches rt texts vouched (.object message) := by
  intro message' o' heq hmodel'
  rw [← Packet.object.inj heq, hmodel] at hmodel'
  exact Except.ok.inj hmodel' ▸ ⟨ho, hvouched⟩

/-- What the datagram holds is vouched for, if the node takes it in. -/
def Node.Trusts (self : Node crypto) (rt : Runtime) (texts : Set String) (vouched : Set Object)
    (data : List UInt8) : Prop :=
  ∀ message, self.receive data = some (.object message) → Vouches rt texts vouched (.object message)

/-- A datagram that is trusted keeps a store of what is vouched for. -/
theorem Node.on_packet_good (hinj : Set.InjOn rt.text_hash texts) (hrt : self.rt = rt) {t : Tables}
    (h : rt.IsStore texts t) (hsub : rt.stored texts t ⊆ vouched) (now : String) {data : List UInt8}
    (hdata : self.Trusts rt texts vouched data) :
    rt.IsStore texts (self.on_packet now data t).tables ∧
      rt.stored texts (self.on_packet now data t).tables ⊆ vouched := by
  rw [on_packet]
  cases hreceive : self.receive data with
  | none => exact ⟨h, hsub⟩
  | some payload =>
      cases payload with
      | ihave items_blob => exact ⟨h, hsub⟩
      | iwant items_blob => exact ⟨h, hsub⟩
      | object message =>
          dsimp only [handle]
          rw [handle_object_message_tables, hrt, Runtime.handle_object_message]
          cases hmodel : message.to_model rt with
          | error e => exact ⟨h, hsub⟩
          | ok o =>
              obtain ⟨ho, hin⟩ := hdata message hreceive message o rfl hmodel
              obtain ⟨status, t', hstore, hstore', hstored, -⟩ := h.store_remote_spec ho now hinj
              have hafter : rt.stored texts t' ⊆ vouched := hstored ▸ Links.receive_subset hsub hin
              dsimp only
              rw [hstore]
              cases status <;> exact ⟨hstore', hafter⟩

/-- The store is a store of what is vouched for, and so is what is to be broadcast. -/
structure App.Good (rt : Runtime) (texts : Set String) (vouched : Set Object) (s : App) : Prop where
  store : rt.IsStore texts s.tables
  stored : rt.stored texts s.tables ⊆ vouched
  settled : s.thread.Settled
  queue : ∀ o ∈ s.thread.queue, rt.Genuine texts o ∧ o ∈ vouched

/-- What the event brings in is vouched for. -/
def Node.Brings (self : Node crypto) (rt : Runtime) (texts : Set String) (vouched : Set Object) :
    AppEvent ι → Prop
  | .call _ call => rt.Genuine texts call.model ∧ call.model ∈ vouched
  | .datagram _ _ _ data => self.Trusts rt texts vouched data
  | _ => True

namespace Node

omit hinj hrt in
/-- Only calls and datagrams change the store, and only calls publish. -/
theorem step_quiet {s : App} {event : AppEvent ι} (hcall : ∀ now call, event ≠ .call now call)
    (hdatagram : ∀ now src peers data, event ≠ .datagram now src peers data) :
    (self.step s event).app.tables = s.tables ∧ (self.step s event).published = [] := by
  cases event with
  | call now call => exact absurd rfl (hcall now call)
  | datagram now src peers data => exact absurd rfl (hdatagram now src peers data)
  | run =>
      rw [step]
      split <;> exact ⟨rfl, rfl⟩
  | opened =>
      rw [step]
      split <;> exact ⟨rfl, rfl⟩
  | started peers =>
      rw [step]
      split <;> exact ⟨rfl, rfl⟩
  | failed =>
      rw [step]
      split <;> exact ⟨rfl, rfl⟩
  | task peers =>
      rw [step]
      split
      · exact ⟨rfl, rfl⟩
      · split <;> exact ⟨rfl, rfl⟩
  | announce peers =>
      rw [step]
      split <;> exact ⟨rfl, rfl⟩

include hinj hrt

/-- What an event sends is vouched for. -/
theorem step_vouches {s : App} (h : s.Good rt texts vouched) (event : AppEvent ι) :
    ∀ sent ∈ (self.step s event).sent,
      ∃ payload, self.ez_send payload = .ok sent.2 ∧ Vouches rt texts vouched payload := by
  intro sent hsent
  obtain ⟨payload, hsend, hobject⟩ := self.step_sends s event sent hsent
  refine ⟨payload, hsend, fun message o heq => ?_⟩
  rw [hrt] at hobject
  rcases hobject message heq with ⟨p, hp, hbuild⟩ | ⟨item, hitem⟩
  · obtain ⟨hgenuine, hin⟩ := h.queue p hp
    obtain ⟨built, hbuilt, hread⟩ := p.to_model_build_message hgenuine.created_at
    rw [hbuild] at hbuilt
    obtain rfl := Except.ok.inj hbuilt
    exact vouches_of_model hgenuine hin hread message o rfl
  · rcases h.store.send_object_spec hinj item with ⟨p, hp, -, built, hbuilt, hread⟩ | ⟨-, hnone⟩
    · rw [hitem] at hbuilt
      obtain rfl := Option.some.inj (Except.ok.inj hbuilt)
      exact vouches_of_model hp.1 (h.stored hp) hread message o rfl
    · rw [hitem] at hnone
      cases hnone

/-- One event at a node. -/
theorem step_good {s : App} (h : s.Good rt texts vouched) {event : AppEvent ι}
    (hevent : self.Brings rt texts vouched event) :
    (self.step s event).app.Good rt texts vouched := by
  obtain ⟨hqueue, -, hsettled⟩ := self.step_queue h.settled event
  -- what is still to be broadcast was there before or has just been published
  have hwaiting (hpublished : ∀ o ∈ (self.step s event).published,
      rt.Genuine texts o ∧ o ∈ vouched) :
      ∀ o ∈ (self.step s event).app.thread.queue, rt.Genuine texts o ∧ o ∈ vouched := by
    intro o ho
    rcases List.mem_append.mp (hqueue.subset (List.mem_append_right _ ho)) with hold | hnew
    · exact h.queue o hold
    · exact hpublished o hnew
  by_cases hcall : ∃ now call, event = .call now call
  · obtain ⟨now, call, rfl⟩ := hcall
    have htables : (self.step s (.call now call : AppEvent ι)).app.tables =
        (rt.add_one now call.model s.tables).2 := by
      rw [← rt.serve_tables now call, ← hrt]
      rfl
    obtain ⟨hstore, hnew⟩ := h.store.add_one hevent.1 now hinj
    refine ⟨htables ▸ hstore, ?_, hsettled, hwaiting fun o ho => ?_⟩
    · rw [htables]
      intro o ho
      rcases hnew o ho with hold | rfl
      · exact h.stored hold
      · exact hevent.2
    · have ho : o ∈ (self.rt.serve now call s.tables).published := ho
      rcases self.rt.serve_cases (t := s.tables) now call with ⟨hnone, -⟩ | ⟨hone, -⟩
      · rw [hnone] at ho
        cases ho
      · rw [hone] at ho
        rw [List.mem_singleton.mp ho]
        exact hevent
  by_cases hdatagram : ∃ now src peers data, event = .datagram now src peers data
  · obtain ⟨now, src, peers, data, rfl⟩ := hdatagram
    obtain ⟨hstore, hstored⟩ := on_packet_good hinj hrt h.store h.stored now hevent
    have hpublished : (self.step s (.datagram now src peers data)).published = [] := by
      rw [step]
      split <;> rfl
    refine ⟨?_, ?_, hsettled, hwaiting fun o ho => ?_⟩
    · rw [step]
      split
      · exact hstore
      · exact h.store
    · rw [step]
      split
      · exact hstored
      · exact h.stored
    · rw [hpublished] at ho
      cases ho
  obtain ⟨htables, hpublished⟩ := self.step_quiet (s := s)
    (fun now call heq => hcall ⟨now, call, heq⟩)
    (fun now src peers data heq => hdatagram ⟨now, src, peers, data, heq⟩)
  refine ⟨htables ▸ h.store, htables ▸ h.stored, hsettled, hwaiting fun o ho => ?_⟩
  rw [hpublished] at ho
  cases ho

end Node

end

/-! ## Runs -/

section

variable {ι : Type} {crypto : ECCrypto} {nodes : ι → Node crypto} {rt : Runtime}
  {texts : Set String} {vouched : Set Object}

/-- The application of every node is good. -/
def AppsGood (rt : Runtime) (texts : Set String) (vouched : Set Object) : Option ι → App → Prop
  | none, _ => True
  | some _, s => s.Good rt texts vouched

/-- A datagram of a node holds a payload of it. -/
def OwnDatagram (nodes : ι → Node crypto) (packet : Datagram ι) : Prop :=
  ∀ i, packet.src = some i → ∃ payload, (nodes i).ez_send payload = .ok packet.body

/-- A datagram of a node holds a payload of it, and whoever takes it in can trust it. -/
structure GoodDatagram (nodes : ι → Node crypto) (rt : Runtime) (texts : Set String)
    (vouched : Set Object) (packet : Datagram ι) : Prop where
  own : OwnDatagram nodes packet
  trusted : ∀ i, (nodes i).Trusts rt texts vouched packet.body

variable (hnodes : OneCommunity nodes rt)

include hnodes

theorem goodDatagram_of_vouches {i : ι} {dst : Option ι} {data : List UInt8} {payload : Packet}
    (hsend : (nodes i).ez_send payload = .ok data) (hvouches : Vouches rt texts vouched payload) :
    GoodDatagram nodes rt texts vouched ⟨some i, dst, data⟩ := by
  refine ⟨fun j hj => ?_, fun j message hreceive => ?_⟩
  · obtain rfl := Option.some.inj hj
    exact ⟨payload, hsend⟩
  · have harrives : (nodes j).receive data = some payload :=
      Node.receive_of_send (hnodes.ready i) (hnodes.same_bytes i j) hsend
    have hreceive : (nodes j).receive data = some (.object message) := hreceive
    rw [harrives] at hreceive
    exact Option.some.inj hreceive ▸ hvouches

/-- Where a node takes a datagram for one of another node, that node has sent the payload. -/
theorem accepted_of_unforged {s : OpenNet ι} (hsent : ∀ q ∈ s.sent, OwnDatagram nodes q)
    {data : List UInt8} (hunforged : Unforged nodes s data) {i j : ι} {payload : Packet}
    {public_key : crypto.PublicKey} (haccepts : (nodes j).Accepts data payload public_key)
    (hkey : crypto.Works (nodes i).overlay.key public_key) :
    ∃ q ∈ s.sent, q.src = some i ∧ (nodes i).ez_send payload = .ok q.body ∧
      (nodes j).receive q.body = some payload := by
  obtain ⟨signed, hsigned, hother⟩ := haccepts.resigned
  obtain ⟨q, hq, hsrc, hbody⟩ := hunforged i public_key signed hkey hsigned
  have hreceive := hother q.body hbody
  obtain ⟨sent, hsend⟩ := hsent q hq i hsrc
  have harrives : (nodes j).receive q.body = some sent :=
    Node.receive_of_send (hnodes.ready i) (hnodes.same_bytes i j) hsend
  rw [hreceive] at harrives
  exact ⟨q, hq, hsrc, Option.some.inj harrives ▸ hsend, hreceive⟩

/-- A datagram from outside can be trusted as well. -/
theorem trusts_of_injected {s : OpenNet ι}
    (hsent : ∀ q ∈ s.sent, GoodDatagram nodes rt texts vouched q) {data : List UInt8}
    (hunforged : Unforged nodes s data)
    (hforeign : ∀ i message public_key o, (nodes i).Accepts data (.object message) public_key →
      Foreign nodes public_key → message.to_model rt = .ok o →
      o ∈ vouched ∧ ∀ text, o.description = some text → text ∈ texts) (i : ι) :
    (nodes i).Trusts rt texts vouched data := by
  intro message hreceive
  obtain ⟨public_key, haccepts⟩ := Node.receive_iff_accepts.mp hreceive
  by_cases hkey : Foreign nodes public_key
  · intro message' o heq hmodel
    obtain rfl := Packet.object.inj heq
    obtain ⟨hin, hdescription⟩ := hforeign i message public_key o haccepts hkey hmodel
    obtain ⟨hdate, hfits⟩ :=
      Message.to_model_fits hnodes.dates (Node.receive_fits hreceive) hmodel
    exact ⟨⟨hdate, hdescription, hfits⟩, hin⟩
  · -- the key is that of a node, and then the node has sent the message
    obtain ⟨j, hj⟩ := not_forall_not.mp hkey
    obtain ⟨q, hq, -, -, hsame⟩ := accepted_of_unforged hnodes (fun q hq => (hsent q hq).own)
      hunforged haccepts hj
    exact (hsent q hq).trusted i message hsame

variable [DecidableEq ι] (hinj : Set.InjOn rt.text_hash texts)

include hinj

/-- One event of the network. -/
theorem sound_apply {s : OpenNet ι}
    {event : Network.Event (Option ι) (List UInt8) (Act ι) (String × List (Option ι))}
    (hevent : Allowed nodes rt texts vouched s event)
    (hs : Network.Sound (AppsGood rt texts vouched) (GoodDatagram nodes rt texts vouched) s) :
    Network.Sound (AppsGood rt texts vouched) (GoodDatagram nodes rt texts vouched)
      ((community nodes).apply s event) := by
  have hemits (i : ι) {event : AppEvent (Option ι)}
      (hbrings : (nodes i).Brings rt texts vouched event) :
      Network.Sound (AppsGood rt texts vouched) (GoodDatagram nodes rt texts vouched)
        (s.put (some i) ((nodes i).emits i event (s.node (some i)))) := by
    have hgood : (s.node (some i)).Good rt texts vouched := hs.node (some i)
    refine hs.put (Node.step_good hinj (hnodes.same_rt i) hgood hbrings) fun q hq => ?_
    obtain ⟨sent, hsent, rfl⟩ := List.mem_map.mp hq
    obtain ⟨payload, hsend, hvouches⟩ :=
      Node.step_vouches hinj (hnodes.same_rt i) hgood event sent hsent
    exact goodDatagram_of_vouches hnodes hsend hvouches
  cases event with
  | act n act =>
      cases n with
      | none =>
          cases act with
          | app event => cases hevent
          | inject dst data =>
              refine hs.put (hs.node none) fun q hq => ?_
              rw [List.mem_singleton.mp hq]
              refine ⟨fun i hi => (by cases hi), ?_⟩
              exact trusts_of_injected hnodes hs.sent hevent.1 hevent.2
      | some i =>
          cases act with
          | inject dst data => cases hevent
          | app event =>
              refine hemits i ?_
              cases event with
              | call now call => exact hevent
              | datagram now src peers data => cases hevent
              | _ => trivial
  | deliver packet circumstances =>
      have hpacket := hs.sent packet hevent
      obtain ⟨src, dst, body⟩ := packet
      cases dst with
      | none =>
          refine hs.put (hs.node none) fun q hq => ?_
          cases hq
      | some i => exact hemits i (hpacket.trusted i)

/-- What a run preserves. -/
theorem sound_run {tables : ι → Tables}
    (htables : ∀ i, rt.IsStore texts (tables i) ∧ rt.objects (tables i) ⊆ vouched) {s : OpenNet ι}
    (hstart : ∀ i, s.node (some i) = .new (tables i)) (hsent : s.sent = [])
    {events : List (Network.Event (Option ι) (List UInt8) (Act ι) (String × List (Option ι)))}
    (hevents : Along (community nodes).apply (Allowed nodes rt texts vouched) s events) :
    Network.Sound (AppsGood rt texts vouched) (GoodDatagram nodes rt texts vouched)
      ((community nodes).run s events) := by
  have hsound : Network.Sound (AppsGood rt texts vouched) (GoodDatagram nodes rt texts vouched) s := by
    refine ⟨fun n => ?_, fun q hq => ?_⟩
    · cases n with
      | none => trivial
      | some i =>
          obtain ⟨hstore, hobjects⟩ := htables i
          rw [hstore.objects_eq hinj] at hobjects
          change (s.node (some i)).Good rt texts vouched
          rw [hstart i]
          exact ⟨hstore, hobjects, fun h => (by cases h), fun o ho => (by cases ho)⟩
    · rw [hsent] at hq
      cases hq
  exact hsound.run_of_step (fun s event hevent hs => sound_apply hnodes hinj hevent hs) hevents

end

/-- **Stores hold what is vouched for.** Let the users of the nodes make things, let the nodes start,
announce and answer, and let any datagrams be made outside and delivered anywhere, in any order, late,
often or never. Then every node's store satisfies the schema, and holds nothing but what was there at
the start, what a user has made, and what came signed with a foreign key. -/
theorem stores_hold_what_is_vouched_for {ι : Type} [DecidableEq ι] (crypto : ECCrypto)
    (nodes : ι → Node crypto) (rt : Runtime) (hnodes : OneCommunity nodes rt) (texts : Set String)
    (hinj : Set.InjOn rt.text_hash texts) (vouched : Set Object) (tables : ι → Tables)
    (htables : ∀ i, rt.IsStore texts (tables i) ∧ rt.objects (tables i) ⊆ vouched)
    (s : OpenNet ι) (hstart : ∀ i, s.node (some i) = .new (tables i)) (hsent : s.sent = [])
    (events : List (Network.Event (Option ι) (List UInt8) (Act ι) (String × List (Option ι))))
    (hevents : Along (community nodes).apply (Allowed nodes rt texts vouched) s events) (i : ι) :
    rt.IsStore texts (((community nodes).run s events).node (some i)).tables ∧
      rt.objects (((community nodes).run s events).node (some i)).tables ⊆ vouched := by
  have hgood : (((community nodes).run s events).node (some i)).Good rt texts vouched :=
    (sound_run hnodes hinj htables hstart hsent hevents).node (some i)
  rw [hgood.store.objects_eq hinj]
  exact ⟨hgood.store, hgood.stored⟩

theorem own_apply {ι : Type} [DecidableEq ι] {crypto : ECCrypto} {nodes : ι → Node crypto}
    {s : OpenNet ι} (h : ∀ q ∈ s.sent, OwnDatagram nodes q)
    (event : Network.Event (Option ι) (List UInt8) (Act ι) (String × List (Option ι))) :
    ∀ q ∈ ((community nodes).apply s event).sent, OwnDatagram nodes q := by
  have hput {n : Option ι} {result : App × List (Datagram ι)}
      (hresult : ∀ q ∈ result.2, OwnDatagram nodes q) :
      ∀ q ∈ (s.put n result).sent, OwnDatagram nodes q := by
    intro q hq
    rcases List.mem_append.mp hq with hold | hnew
    · exact h q hold
    · exact hresult q hnew
  have hnone : ∀ q ∈ ([] : List (Datagram ι)), OwnDatagram nodes q :=
    fun q hq => absurd hq List.not_mem_nil
  have hemits (i : ι) (event : AppEvent (Option ι)) (app : App) :
      ∀ q ∈ ((nodes i).emits i event app).2, OwnDatagram nodes q := by
    intro q hq j hj
    obtain ⟨sent, hsent, rfl⟩ := List.mem_map.mp hq
    obtain ⟨payload, hsend, -⟩ := (nodes i).step_sends app event sent hsent
    obtain rfl := Option.some.inj hj
    exact ⟨payload, hsend⟩
  cases event with
  | act n act =>
      cases n with
      | none =>
          cases act with
          | app event => exact hput hnone
          | inject dst data =>
              refine hput fun q hq i hi => ?_
              rw [List.mem_singleton.mp hq] at hi
              cases hi
      | some i =>
          cases act with
          | app event => exact hput (hemits i event _)
          | inject dst data => exact hput hnone
  | deliver packet circumstances =>
      obtain ⟨src, dst, body⟩ := packet
      cases dst with
      | none => exact hput hnone
      | some i => exact hput (hemits i _ _)

/-- **What is accepted was sent.** Take any run, with whatever made outside and delivered, and any
datagram that holds no forged signature. If a node takes it for a packet of another node, that node
has sent a packet with this payload. -/
theorem accepted_was_sent {ι : Type} [DecidableEq ι] (crypto : ECCrypto) (nodes : ι → Node crypto)
    (rt : Runtime) (hnodes : OneCommunity nodes rt) (s : OpenNet ι) (hsent : s.sent = [])
    (events : List (Network.Event (Option ι) (List UInt8) (Act ι) (String × List (Option ι))))
    (data : List UInt8) (hunforged : Unforged nodes ((community nodes).run s events) data) (i j : ι)
    (payload : Packet) (public_key : crypto.PublicKey)
    (haccepts : (nodes j).Accepts data payload public_key)
    (hkey : crypto.Works (nodes i).overlay.key public_key) :
    ∃ q ∈ ((community nodes).run s events).sent, q.src = some i ∧
      (nodes i).ez_send payload = .ok q.body := by
  have hown : ∀ q ∈ ((community nodes).run s events).sent, OwnDatagram nodes q := by
    have hstart : ∀ q ∈ s.sent, OwnDatagram nodes q := by
      intro q hq
      rw [hsent] at hq
      cases hq
    clear hsent hunforged
    induction events generalizing s with
    | nil => exact hstart
    | cons event events ih => exact ih _ (own_apply hstart event)
  obtain ⟨q, hq, hsrc, hsend, -⟩ := accepted_of_unforged hnodes hown hunforged haccepts hkey
  exact ⟨q, hq, hsrc, hsend⟩

/-! ## Two nodes -/

theorem exampleRuntime_dates : exampleRuntime.ReadsDatetimes := by
  intro text created_at h
  rw [Runtime.parse_datetime] at h
  have hdate : exampleRuntime.fromisoformat text =
      if text = "2024-01-01T00:00:00+00:00" then some (.aware 1704067200000000 text) else none := rfl
  rw [hdate] at h
  split_ifs at h with htext
  · rw [← Except.ok.inj h, htext]
    exact exampleDate_isDatetime
  · cases h

theorem exampleCrypto_key {key public_key : List UInt8} (h : key.length = 64)
    (hworks : exampleCrypto.Works key public_key) : public_key = key :=
  Except.ok.inj (hworks.read.symm.trans (exampleCrypto_works key h).read)

/-- Keys with other first bytes do not sign for each other. -/
theorem not_signedBy_of_send {i j : UInt8} (hne : i ≠ j) {payload : Packet}
    {data : List UInt8} (h : (exampleNode j).ez_send payload = .ok data) (signed : List UInt8) :
    ¬ SignedBy exampleCrypto (List.replicate 64 i : List UInt8) signed data := by
  rintro ⟨signature, hdata, hlength, hvalid⟩
  have hworks : exampleCrypto.Works (exampleNode j).overlay.key (List.replicate 64 j : List UInt8) :=
    exampleCrypto_works _ List.length_replicate
  obtain ⟨body, -, hsent⟩ := (Overlay.ezr_pack_eq_ok hworks).mp h
  rw [hdata] at hsent
  obtain ⟨-, hsignature⟩ := List.append_inj' hsent
    (hlength.trans (hworks.signature_length _).symm)
  have hvalid : signature = exampleSignature (List.replicate 64 i) signed := eq_of_beq hvalid
  rw [hvalid] at hsignature
  exact hne (List.cons.inj hsignature).1

/-- The keys of the two nodes. -/
def pairKey : Bool → UInt8
  | false => 1
  | true => 4

def pair (i : Bool) : Node exampleCrypto := exampleNode (pairKey i)

theorem pair_community : OneCommunity pair exampleRuntime where
  ready i := exampleNode_ready (pairKey i)
  same_bytes _ _ := rfl
  same_rt _ := rfl
  dates := exampleRuntime_dates

def pairStart : OpenNet Bool := ⟨fun _ => .new Tables.empty, []⟩

abbrev PairEvent := Network.Event (Option Bool) (List UInt8) (Act Bool) (String × List (Option Bool))

/-- Both nodes start, the user of the first makes an issue, and the node broadcasts it. -/
def shareIssue : List PairEvent :=
  [.act (some false) (.app .run), .act (some false) (.app (.started [])),
    .act (some true) (.app .run), .act (some true) (.app (.started [])),
    .act (some false) (.app (.call "2024-01-01T00:00:01+00:00"
      (.create_issue "Mirror the archive" "" 7 1 exampleDate))),
    .act (some false) (.app (.task [some true]))]

/-- The message of the issue that the user makes. -/
def madeMessage : Message :=
  .issue ⟨"Mirror the archive", (7 : UUID).str, "", (1 : UUID).str, "2024-01-01T00:00:00+00:00"⟩

/-- The message of an issue that somebody else has made. -/
def foreignMessage : Message :=
  .issue ⟨"Mirror the archive", (7 : UUID).str, "revised", (2 : UUID).str, "2024-01-01T00:00:00+00:00"⟩

theorem foreignMessage_to_model :
    foreignMessage.to_model exampleRuntime = .ok (.issue (exampleIssue 2 "revised")) := by
  decide +kernel

/-- What the owner of a key sends. -/
def examplePacket (i : UInt8) (message : Message) : List UInt8 :=
  match (exampleNode i).ez_send (.object message) with
  | .ok packet => packet
  | .error _ => []

theorem ez_send_examplePacket (i : UInt8) {message : Message} (h : (Packet.object message).Fits) :
    (exampleNode i).ez_send (.object message) = .ok (examplePacket i message) := by
  have hsend := (Node.ez_send_iff_fits (exampleNode_ready i)).mpr h
  unfold examplePacket
  generalize (exampleNode i).ez_send (.object message) = result at hsend ⊢
  obtain ⟨data, rfl⟩ := hsend
  rfl

theorem ez_send_made : (pair false).ez_send (.object madeMessage) =
    .ok (examplePacket 1 madeMessage) := ez_send_examplePacket 1 (by decide +kernel)

theorem ez_send_foreign : (exampleNode 3).ez_send (.object foreignMessage) =
    .ok (examplePacket 3 foreignMessage) := ez_send_examplePacket 3 (by decide +kernel)

theorem shareIssue_sent : ((community pair).run pairStart shareIssue).sent =
    [⟨some false, some true, examplePacket 1 madeMessage⟩] := by
  decide +kernel

/-- The broadcast reaches the second node, and then an issue that is signed with another key. -/
def receiveBoth : List PairEvent :=
  [.deliver ⟨some false, some true, examplePacket 1 madeMessage⟩ ("2024-01-01T00:00:02+00:00", []),
    .act none (.inject true (examplePacket 3 foreignMessage)),
    .deliver ⟨none, some true, examplePacket 3 foreignMessage⟩ ("2024-01-01T00:00:03+00:00", [])]

theorem receiveBoth_allowed : Along (community pair).apply
    (Allowed pair exampleRuntime {"", "revised"}
      {.issue (exampleIssue 1 ""), .issue (exampleIssue 2 "revised")})
    pairStart (shareIssue ++ receiveBoth) := by
  have hmade : exampleRuntime.Genuine {"", "revised"} (.issue (exampleIssue 1 "")) ∧
      Object.issue (exampleIssue 1 "") ∈
        ({.issue (exampleIssue 1 ""), .issue (exampleIssue 2 "revised")} : Set Object) :=
    ⟨exampleIssue_genuine 1, .inl rfl⟩
  refine along_append.mpr ⟨⟨trivial, trivial, trivial, trivial, hmade, trivial, trivial⟩, ?_,
    ⟨fun i public_key signed hkey hsigned => ?_, ?_⟩, ?_, trivial⟩
  · show _ ∈ ((community pair).run pairStart shareIssue).sent
    rw [shareIssue_sent]
    exact List.mem_singleton.mpr rfl
  · -- nothing in it is signed by one of the nodes
    obtain rfl := exampleCrypto_key List.length_replicate hkey
    have hne : pairKey i ≠ 3 := by
      cases i with
      | false => decide
      | true => decide
    exact absurd hsigned (not_signedBy_of_send hne ez_send_foreign signed)
  · intro i message public_key o haccepts _ hmodel
    have hreceive := Node.receive_iff_accepts.mpr ⟨public_key, haccepts⟩
    have harrives : (pair i).receive (examplePacket 3 foreignMessage) =
        some (.object foreignMessage) :=
      Node.receive_of_send (exampleNode_ready 3) rfl ez_send_foreign
    rw [harrives] at hreceive
    rw [← Packet.object.inj (Option.some.inj hreceive), foreignMessage_to_model] at hmodel
    rw [← Except.ok.inj hmodel]
    refine ⟨.inr rfl, fun text htext => ?_⟩
    cases htext
    exact .inr rfl
  · exact List.mem_append_right _ (List.mem_singleton.mpr rfl)

/-- The second node holds the two issues, the first its own, and neither anything else. -/
theorem stores_hold_what_is_vouched_for_foreign :
    (((community pair).run pairStart (shareIssue ++ receiveBoth)).node
        (some true)).tables.issues.length = 2 ∧
      (((community pair).run pairStart (shareIssue ++ receiveBoth)).node
        (some false)).tables.issues.length = 1 ∧
      ∀ i, exampleRuntime.objects
        (((community pair).run pairStart (shareIssue ++ receiveBoth)).node (some i)).tables ⊆
        {.issue (exampleIssue 1 ""), .issue (exampleIssue 2 "revised")} := by
  have hempty : exampleRuntime.IsStore {"", "revised"} Tables.empty := Runtime.IsStore.empty
  have hnothing : exampleRuntime.objects Tables.empty ⊆
      {.issue (exampleIssue 1 ""), .issue (exampleIssue 2 "revised")} := by
    rw [hempty.objects_eq exampleTexts_injOn]
    rintro o ⟨-, ho⟩
    cases o <;> exact absurd ho List.not_mem_nil
  refine ⟨by decide +kernel, by decide +kernel, fun i => ?_⟩
  exact (stores_hold_what_is_vouched_for exampleCrypto pair exampleRuntime pair_community
    {"", "revised"} exampleTexts_injOn _ (fun _ => Tables.empty) (fun _ => ⟨hempty, hnothing⟩)
    pairStart (fun _ => rfl) rfl (shareIssue ++ receiveBoth) receiveBoth_allowed i).2

/-- What the first node alone has sent is not forged. -/
theorem pair_unforged {s : OpenNet Bool} {dst : Option Bool} {payload : Packet} {data : List UInt8}
    (hsent : s.sent = [⟨some false, dst, data⟩]) (hsend : (pair false).ez_send payload = .ok data) :
    Unforged pair s data := by
  intro i public_key signed hworks hsigned
  rw [hsent]
  cases i with
  | false => exact ⟨_, List.mem_singleton_self _, rfl, hsigned⟩
  | true =>
      -- the second node has signed none of it
      have hother : ¬ SignedBy exampleCrypto (List.replicate 64 4 : List UInt8) signed data :=
        not_signedBy_of_send (by decide) hsend signed
      obtain rfl := exampleCrypto_key List.length_replicate hworks
      exact absurd hsigned hother

/-- The second node accepts the broadcast as one of the first, and the first has sent it. -/
theorem accepted_was_sent_between :
    (pair true).Accepts (examplePacket 1 madeMessage) (.object madeMessage)
        (List.replicate 64 1 : List UInt8) ∧
      ∃ q ∈ ((community pair).run pairStart shareIssue).sent, q.src = some false ∧
        (pair false).ez_send (.object madeMessage) = .ok q.body := by
  have hkey : exampleCrypto.Works (pair false).overlay.key (List.replicate 64 1 : List UInt8) :=
    exampleCrypto_works _ List.length_replicate
  have haccepts : (pair true).Accepts (examplePacket 1 madeMessage) (.object madeMessage)
      (List.replicate 64 1 : List UInt8) := Node.accepts_of_send hkey rfl rfl ez_send_made
  exact ⟨haccepts, accepted_was_sent exampleCrypto pair exampleRuntime pair_community pairStart rfl
    shareIssue _ (pair_unforged shareIssue_sent ez_send_made) false true _ _ haccepts hkey⟩

end Superorganism.Democracy

/-
The democracy community over datagrams: the payload classes of `democracy/network/messages` on the
wire, and `on_packet` down to the repository.

A node is an overlay with the runtime of its repository. It answers a datagram with packets to the
sender, with announcements to the other peers, and by what it does to its store. Every exception
ends in `on_packet`, so that a loop that sends as it goes has sent what it had before.

A payload that is sent arrives (`receive_of_send`), and what arrives was signed
(`receive_eq_some_iff`). What a node does with it is what the message-level handlers do, as far as
the messages can be packed: a text has at most 65535 bytes on the wire and an integer 64 bits
(`Packet.Fits`).
-/
import Superorganism.Channel
import Superorganism.Overlay

set_option autoImplicit false

open Superorganism.Py Superorganism.Gossip Superorganism.Ipv8 Superorganism.Bytes

namespace Superorganism.Democracy

/-! ## Payload classes -/

/-- What a dataclass field is annotated with. -/
inductive Annotation where
  | str
  | int
deriving DecidableEq

def type_map : Annotation → String
  | .str => "varlenHutf8"
  | .int => "q"

/-- The message classes that handlers are registered for. -/
inductive PayloadClass where
  | object (object_type : ObjectType)
  | ihave
  | iwant
deriving DecidableEq

/-- The fields of the dataclasses, in order. -/
def annotations : ObjectType → List Annotation
  | .ISSUE => [.str, .str, .str, .str, .str]
  | .ISSUE_VOTE => [.str, .str, .str, .str]
  | .SOLUTION => [.str, .str, .str, .str, .str, .str]
  | .SOLUTION_VOTE => [.str, .str, .str, .str]
  | .FUNDING_CAMPAIGN => [.str, .str, .str, .str, .int, .int, .str]
  | .FUNDING_PLEDGE => [.str, .str, .str, .str, .int, .int, .str, .str]

namespace PayloadClass

def format_list : PayloadClass → List String
  | .object object_type => (annotations object_type).map type_map
  | .ihave => ["varlenI"]
  | .iwant => ["varlenI"]

def msg_id : PayloadClass → UInt8
  | .object .ISSUE => 1
  | .object .ISSUE_VOTE => 2
  | .object .SOLUTION => 3
  | .object .SOLUTION_VOTE => 4
  | .object .FUNDING_CAMPAIGN => 5
  | .object .FUNDING_PLEDGE => 6
  | .ihave => 7
  | .iwant => 8

/-- The handlers of the community in `decode_map`. -/
def decode_map (msg_id : UInt8) : Option PayloadClass :=
  if msg_id = 1 then some (.object .ISSUE)
  else if msg_id = 2 then some (.object .ISSUE_VOTE)
  else if msg_id = 3 then some (.object .SOLUTION)
  else if msg_id = 4 then some (.object .SOLUTION_VOTE)
  else if msg_id = 5 then some (.object .FUNDING_CAMPAIGN)
  else if msg_id = 6 then some (.object .FUNDING_PLEDGE)
  else if msg_id = 7 then some .ihave
  else if msg_id = 8 then some .iwant
  else none

/-- `from_unpack_list`. -/
def from_unpack_list : PayloadClass → List Field → Option Packet
  | .object .ISSUE, [.str title, .str creator_id, .str description, .str id, .str created_at] =>
    some (.object (.issue ⟨title, creator_id, description, id, created_at⟩))
  | .object .ISSUE_VOTE, [.str voter_id, .str issue_id, .str id, .str created_at] =>
    some (.object (.issue_vote ⟨voter_id, issue_id, id, created_at⟩))
  | .object .SOLUTION, [.str title, .str description, .str creator_id, .str issue_id, .str id,
      .str created_at] =>
    some (.object (.solution ⟨title, description, creator_id, issue_id, id, created_at⟩))
  | .object .SOLUTION_VOTE, [.str voter_id, .str solution_id, .str id, .str created_at] =>
    some (.object (.solution_vote ⟨voter_id, solution_id, id, created_at⟩))
  | .object .FUNDING_CAMPAIGN, [.str id, .str solution_id, .str solution_hash,
      .str developer_payout_address, .int asking_price_sats, .int deadline_height, .str created_at] =>
    some (.object (.campaign ⟨id, solution_id, solution_hash, developer_payout_address,
      asking_price_sats, deadline_height, created_at⟩))
  | .object .FUNDING_PLEDGE, [.str id, .str campaign_id, .str pledger_id, .str txid, .int vout,
      .int value_sats, .str signed_pledge_psbt, .str created_at] =>
    some (.object (.pledge ⟨id, campaign_id, pledger_id, txid, vout, value_sats, signed_pledge_psbt,
      created_at⟩))
  | .ihave, [.bytes items_blob] => some (.ihave items_blob)
  | .iwant, [.bytes items_blob] => some (.iwant items_blob)
  | _, _ => none

end PayloadClass

def Message.object_type : Message → ObjectType
  | .issue _ => .ISSUE
  | .issue_vote _ => .ISSUE_VOTE
  | .solution _ => .SOLUTION
  | .solution_vote _ => .SOLUTION_VOTE
  | .campaign _ => .FUNDING_CAMPAIGN
  | .pledge _ => .FUNDING_PLEDGE

/-- The values of the fields, in the order of the class. -/
def Message.fields : Message → List Field
  | .issue m => [.str m.title, .str m.creator_id, .str m.description, .str m.id, .str m.created_at]
  | .issue_vote m => [.str m.voter_id, .str m.issue_id, .str m.id, .str m.created_at]
  | .solution m => [.str m.title, .str m.description, .str m.creator_id, .str m.issue_id, .str m.id,
      .str m.created_at]
  | .solution_vote m => [.str m.voter_id, .str m.solution_id, .str m.id, .str m.created_at]
  | .campaign m => [.str m.id, .str m.solution_id, .str m.solution_hash,
      .str m.developer_payout_address, .int m.asking_price_sats, .int m.deadline_height,
      .str m.created_at]
  | .pledge m => [.str m.id, .str m.campaign_id, .str m.pledger_id, .str m.txid, .int m.vout,
      .int m.value_sats, .str m.signed_pledge_psbt, .str m.created_at]

namespace Packet

def cls : Packet → PayloadClass
  | .ihave _ => .ihave
  | .iwant _ => .iwant
  | .object message => .object message.object_type

def fields : Packet → List Field
  | .ihave payload => [.bytes payload]
  | .iwant payload => [.bytes payload]
  | .object message => message.fields

def to_pack_list (payload : Packet) : List (String × Field) :=
  payload.cls.format_list.zip payload.fields

end Packet

/-! ## Nodes -/

structure Node (crypto : ECCrypto) where
  overlay : Overlay crypto
  rt : Runtime

/-- What a datagram leads to: the store, what is sent to the peer it came from, and what each of the
other peers gets. -/
structure Reception where
  tables : Tables
  replies : List (List UInt8)
  announced : List (List UInt8)

/-- A loop that sends one packet a turn, or none, until a turn raises. -/
def send_each {α β : Type} (send : β → Except WireError (List UInt8))
    (build : α → Except PyError (Option β)) : List α → List (List UInt8)
  | [] => []
  | x :: xs =>
    match build x with
    | .error _ => []
    | .ok none => send_each send build xs
    | .ok (some message) =>
      match send message with
      | .error _ => []
      | .ok packet => packet :: send_each send build xs

namespace Node

variable {crypto : ECCrypto} (self : Node crypto)

/-- The packet of `ez_send`. -/
def ez_send (payload : Packet) : Except WireError (List UInt8) :=
  self.overlay.ezr_pack payload.cls.msg_id payload.to_pack_list

/-- `for batch in batch_gossip_items(items)`, with a packet sent for each batch. -/
def send_batches (wrap : List UInt8 → Packet) (items : List GossipItem) : List (List UInt8) :=
  match batch_gossip_items MAX_GOSSIP_ITEMS_BLOB_BYTES items with
  | .error _ => []
  | .ok batches =>
    send_each (fun blob => self.ez_send (wrap blob))
      (fun batch => (encode_gossip_items batch).map some) batches

def announce_full_inventory (t : Tables) : List (List UInt8) :=
  match self.rt.get_local_inventory t with
  | .error _ => []
  | .ok items => self.send_batches .ihave items

def on_ihave_message (payload : List UInt8) (t : Tables) : List (List UInt8) :=
  match self.rt.missing_items t (decode_gossip_items payload) with
  | .error _ => []
  | .ok [] => []
  | .ok items => self.send_batches .iwant items

def on_iwant_message (payload : List UInt8) (t : Tables) : List (List UInt8) :=
  send_each (fun message => self.ez_send (.object message)) (self.rt.send_object t)
    (decode_gossip_items payload)

def handle_object_message (now : String) (payload : Message) (t : Tables) : Reception :=
  match payload.to_model self.rt with
  | .error _ => ⟨t, [], []⟩
  | .ok model =>
    match self.rt.store_remote now model t with
    | (.ok .STORED, t') => ⟨t', [], self.send_batches .ihave [model.item]⟩
    | (_, t') => ⟨t', [], []⟩

def handle (now : String) (payload : Packet) (t : Tables) : Reception :=
  match payload with
  | .ihave items_blob => ⟨t, self.on_ihave_message items_blob t, []⟩
  | .iwant items_blob => ⟨t, self.on_iwant_message items_blob t, []⟩
  | .object message => self.handle_object_message now message t

/-- The payload of a datagram that reaches a handler of the community. -/
def receive (data : List UInt8) : Option Packet :=
  if self.overlay.prefix_bytes ≠ data.take 22 then none
  else
    match data[22]? with
    | none => none
    | some msg_id =>
      match PayloadClass.decode_map msg_id with
      | none => none
      | some cls =>
        match self.overlay.lazy_wrapper cls.format_list data with
        | .error _ => none
        | .ok (_, unpacked) => cls.from_unpack_list unpacked

def on_packet (now : String) (data : List UInt8) (t : Tables) : Reception :=
  match self.receive data with
  | none => ⟨t, [], []⟩
  | some payload => self.handle now payload t

/-- The store after datagrams, each at its time. -/
def on_packets (t : Tables) (packets : List (String × List UInt8)) : Tables :=
  packets.foldl (fun t packet => (self.on_packet packet.1 packet.2 t).tables) t

end Node

/-! ## Classes -/

namespace PayloadClass

theorem decode_map_iff {msg_id : UInt8} {cls : PayloadClass} :
    decode_map msg_id = some cls ↔ msg_id = cls.msg_id := by
  constructor
  · intro h
    rw [decode_map] at h
    split_ifs at h with h₁ h₂ h₃ h₄ h₅ h₆ h₇ h₈
    all_goals
      obtain rfl := Option.some.inj h
      assumption
  · rintro rfl
    cases cls with
    | object object_type => cases object_type <;> rfl
    | ihave => rfl
    | iwant => rfl

theorem format_list_ne_nil (cls : PayloadClass) : cls.format_list ≠ [] := by
  cases cls with
  | object object_type => cases object_type <;> exact List.cons_ne_nil _ _
  | ihave => exact List.cons_ne_nil _ _
  | iwant => exact List.cons_ne_nil _ _

theorem registered (cls : PayloadClass) : ∀ fmt ∈ cls.format_list, (Serializer.packers fmt).isSome := by
  cases cls with
  | object object_type => cases object_type <;> decide
  | ihave => decide
  | iwant => decide

theorem from_unpack_list_iff {cls : PayloadClass} {unpacked : List Field} {payload : Packet} :
    cls.from_unpack_list unpacked = some payload ↔ payload.cls = cls ∧ payload.fields = unpacked := by
  constructor
  · intro h
    unfold from_unpack_list at h
    split at h
    case h_9 => cases h
    all_goals
      obtain rfl := Option.some.inj h
      exact ⟨rfl, rfl⟩
  · rintro ⟨rfl, rfl⟩
    cases payload with
    | ihave items_blob => rfl
    | iwant items_blob => rfl
    | object message => cases message <;> rfl

end PayloadClass

/-! ## What fits on the wire -/

/-- The values that can be packed in the formats of the community. -/
def FitsWire : Field → Prop
  | .int n => -2 ^ 63 ≤ n ∧ n < 2 ^ 63
  | .str text => (utf8 text).length < 2 ^ 16
  | .bytes data => data.length < 2 ^ 32

instance : DecidablePred FitsWire
  | .int n => inferInstanceAs (Decidable (-2 ^ 63 ≤ n ∧ n < 2 ^ 63))
  | .str text => inferInstanceAs (Decidable ((utf8 text).length < 2 ^ 16))
  | .bytes data => inferInstanceAs (Decidable (data.length < 2 ^ 32))

namespace Packet

def Fits (payload : Packet) : Prop := ∀ x ∈ payload.fields, FitsWire x

instance (payload : Packet) : Decidable payload.Fits :=
  inferInstanceAs (Decidable (∀ x ∈ payload.fields, FitsWire x))

variable {payload : Packet}

theorem arity (payload : Packet) : payload.cls.format_list.length = payload.fields.length := by
  cases payload with
  | ihave items_blob => rfl
  | iwant items_blob => rfl
  | object message => cases message <;> rfl

/-- Texts, integers and blobs have their formats. -/
theorem mem_to_pack_list {packable : String × Field} (h : packable ∈ payload.to_pack_list) :
    (∃ text, packable = ("varlenHutf8", .str text)) ∨ (∃ n, packable = ("q", .int n)) ∨
      ∃ data, packable = ("varlenI", .bytes data) := by
  cases payload with
  | ihave items_blob => exact .inr (.inr ⟨_, List.mem_singleton.mp h⟩)
  | iwant items_blob => exact .inr (.inr ⟨_, List.mem_singleton.mp h⟩)
  | object message =>
      cases message <;>
        simp [to_pack_list, cls, fields, Message.object_type, Message.fields, PayloadClass.format_list,
          annotations, type_map] at h <;>
        aesop

/-- The formats of the community take what fits. -/
theorem packs_iff_fits {packable : String × Field} (h : packable ∈ payload.to_pack_list) :
    (∃ w, Serializer.pack_serializable [packable] = .ok w) ↔ FitsWire packable.2 := by
  rcases mem_to_pack_list h with ⟨text, rfl⟩ | ⟨n, rfl⟩ | ⟨data, rfl⟩
  · have hpacker : Serializer.packers "varlenHutf8" = some (.VarLenUtf8 2) := rfl
    simp only [Serializer.pack_serializable_singleton hpacker]
    exact pack_block_isOk (by decide)
  · have hpacker : Serializer.packers "q" = some (.DefaultStruct 8 true) := rfl
    simp only [Serializer.pack_serializable_singleton hpacker]
    exact struct_pack_isOk
  · have hpacker : Serializer.packers "varlenI" = some (.VarLen 4) := rfl
    simp only [Serializer.pack_serializable_singleton hpacker]
    exact pack_block_isOk (by decide)

/-- A payload is packed exactly when its fields fit. -/
theorem packs (payload : Packet) :
    (∃ w, Serializer.pack_serializable payload.to_pack_list = .ok w) ↔ payload.Fits := by
  rw [Serializer.packs_iff]
  have hfields : payload.fields = payload.to_pack_list.map Prod.snd :=
    (List.map_snd_zip payload.arity.ge).symm
  rw [Fits, hfields, List.forall_mem_map]
  exact forall₂_congr fun packable h => packs_iff_fits h

end Packet

/-! ## What is sent arrives -/

namespace Node

variable {crypto : ECCrypto} {self sender : Node crypto} {payload : Packet} {data : List UInt8}

/-- The node has a key that works, and a prefix of the right length. -/
structure Ready (node : Node crypto) : Prop where
  key : ∃ public_key, crypto.Works node.overlay.key public_key
  prefix_length : node.overlay.prefix_bytes.length = 22

theorem ez_send_iff_fits (hready : self.Ready) :
    (∃ data, self.ez_send payload = .ok data) ↔ payload.Fits := by
  obtain ⟨public_key, hkey⟩ := hready.key
  rw [← Packet.packs]
  constructor
  · rintro ⟨data, h⟩
    obtain ⟨body, hbody, -⟩ := (Overlay.ezr_pack_eq_ok hkey).mp h
    exact ⟨body, hbody⟩
  · rintro ⟨body, hbody⟩
    exact ⟨_, (Overlay.ezr_pack_eq_ok hkey).mpr ⟨body, hbody, rfl⟩⟩

/-- A packet of a node is received as the payload that was sent. -/
theorem receive_of_send (hready : sender.Ready)
    (hsame : sender.overlay.prefix_bytes = self.overlay.prefix_bytes)
    (h : sender.ez_send payload = .ok data) : self.receive data = some payload := by
  obtain ⟨public_key, hkey⟩ := hready.key
  have hthrough := Overlay.lazy_wrapper_of_ezr_pack hkey self.overlay hready.prefix_length
    payload.cls.format_list_ne_nil payload.cls.registered payload.arity h
  obtain ⟨body, -, rfl⟩ := (Overlay.ezr_pack_eq_ok hkey).mp h
  have hdata (rest : List UInt8) :
      (sender.overlay.unsigned payload.cls.msg_id body ++ rest).take 22 = self.overlay.prefix_bytes ∧
        (sender.overlay.unsigned payload.cls.msg_id body ++ rest)[22]? = some payload.cls.msg_id := by
    rw [Overlay.unsigned, List.append_assoc, List.append_assoc, List.append_assoc, ← hsame]
    constructor
    · exact List.take_left' hready.prefix_length
    · rw [List.getElem?_append_right hready.prefix_length.le, hready.prefix_length]
      rfl
  obtain ⟨htake, hid⟩ := hdata (crypto.create_signature sender.overlay.key
    (sender.overlay.unsigned payload.cls.msg_id body))
  rw [receive, htake, if_neg (not_not.mpr rfl), hid]
  simp only [PayloadClass.decode_map_iff.mpr rfl, hthrough]
  exact PayloadClass.from_unpack_list_iff.mpr ⟨rfl, rfl⟩

/-- What arrives are the payloads of signed packets with the community's prefix. -/
theorem receive_eq_some_iff : self.receive data = some payload ↔
    data.take 22 = self.overlay.prefix_bytes ∧ data[22]? = some payload.cls.msg_id ∧
      ∃ public_key_bin, (self.overlay.verified_by_public_key_bin public_key_bin = true ∨
          ∀ header ∈ PRIVATE_KEY_HEADERS, ¬ header <+: public_key_bin) ∧
        ∃ header body signature public_key, Delivered crypto payload.cls.format_list data
          public_key_bin payload.fields header body signature public_key := by
  constructor
  · intro h
    rw [receive] at h
    split_ifs at h with hstart
    split at h
    · cases h
    · rename_i msg_id hid
      split at h
      · cases h
      · rename_i cls hcls
        split at h
        · cases h
        · rename_i public_key_bin unpacked hthrough
          obtain ⟨rfl, rfl⟩ := PayloadClass.from_unpack_list_iff.mp h
          refine ⟨(not_not.mp hstart).symm, ?_, public_key_bin, ?_⟩
          · rw [hid, PayloadClass.decode_map_iff.mp hcls]
          · exact (Overlay.lazy_wrapper_iff payload.cls.format_list_ne_nil payload.cls.registered).mp
              hthrough
  · rintro ⟨hstart, hid, public_key_bin, hdelivered⟩
    have hthrough := (Overlay.lazy_wrapper_iff payload.cls.format_list_ne_nil
      payload.cls.registered).mpr hdelivered
    rw [receive, if_neg (not_not.mpr hstart.symm), hid]
    simp only [PayloadClass.decode_map_iff.mpr rfl, hthrough]
    exact PayloadClass.from_unpack_list_iff.mpr ⟨rfl, rfl⟩

end Node

/-! ## What a loop sends -/

/-- A loop that sends as it goes sends the packets of its messages up to the first that cannot be
packed. -/
theorem send_each_spec {α β : Type} {send : β → Except WireError (List UInt8)} {fits : β → Bool}
    (hfits : ∀ message, fits message = true ↔ ∃ packet, send message = .ok packet)
    (build : α → Except PyError (Option β)) (xs : List α) :
    List.Forall₂ (fun message packet => send message = .ok packet)
      ((sendEach build xs).messages.takeWhile fits) (send_each send build xs) := by
  induction xs with
  | nil => exact .nil
  | cons x xs ih =>
      rw [sendEach, send_each]
      cases build x with
      | error e => exact .nil
      | ok built =>
          cases built with
          | none => exact ih
          | some message =>
              dsimp only
              cases hsend : send message with
              | error e =>
                  have hnot : ¬ fits message = true := by
                    intro h
                    obtain ⟨packet, hpacket⟩ := (hfits message).mp h
                    rw [hsend] at hpacket
                    cases hpacket
                  rw [List.takeWhile_cons_of_neg hnot]
                  exact .nil
              | ok packet =>
                  rw [List.takeWhile_cons_of_pos ((hfits message).mpr ⟨packet, hsend⟩)]
                  exact .cons hsend ih

end Superorganism.Democracy

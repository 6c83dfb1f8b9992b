/-
`democracy/network/community.py`: announcing, requesting and handing over objects.

A peer announces what it has in IHAVEs, asks for what it lacks in IWANTs, and is answered
with object messages. The payload of an IHAVE or IWANT is the blob of its items. A handler
that sends as it goes is `Sent`: the messages it has sent, and the exception that ended it,
if any. Logging is left out, and so is who the other peers are: an announcement is what each
of them gets.

The specifications say what a peer sends in terms of the objects it has stored.
-/
import Superorganism.GossipCodec
import Superorganism.Refinement

set_option autoImplicit false

open Superorganism.Py Superorganism.Funding Superorganism.Gossip Superorganism.Sql
open Superorganism.Replica

namespace Superorganism.Democracy

/-! ## Sending -/

structure Sent (α : Type) where
  messages : List α
  ended : Except PyError Unit

/-- A loop that sends one message a turn, or none. -/
def sendEach {α β : Type} (build : α → Except PyError (Option β)) : List α → Sent β
  | [] => ⟨[], .ok ()⟩
  | x :: xs =>
    match build x with
    | .error e => ⟨[], .error e⟩
    | .ok none => sendEach build xs
    | .ok (some message) =>
      let rest := sendEach build xs
      ⟨message :: rest.messages, rest.ended⟩

def MAX_GOSSIP_ITEMS_BLOB_BYTES : ℤ := 1300

/-- `for batch in batch_gossip_items(items)`, with a message sent for each batch. -/
def send_batches (items : List GossipItem) : Sent (List UInt8) :=
  match batch_gossip_items MAX_GOSSIP_ITEMS_BLOB_BYTES items with
  | .error e => ⟨[], .error e⟩
  | .ok batches => sendEach (fun batch => (encode_gossip_items batch).map some) batches

/-! ## The community -/

/-- The types of `build_replication_handlers`, in its order. -/
def replication_handlers : List ObjectType :=
  [.ISSUE, .ISSUE_VOTE, .SOLUTION, .SOLUTION_VOTE, .FUNDING_CAMPAIGN, .FUNDING_PLEDGE]

/-- What became of an object message: the status, whether `data_changed` was called, and the
IHAVEs that the other peers got. -/
structure Handled where
  status : StoreStatus
  data_changed : Bool
  announced : List (List UInt8)

namespace Runtime

variable (rt : Runtime)

def get_local_inventory (t : Tables) : Except PyError (List GossipItem) := do
  let models ← replication_handlers.mapM fun object_type => rt.get_all_models object_type t
  pure (models.flatten.map Object.item)

/-- `_announce_full_inventory`. -/
def announce_full_inventory (t : Tables) : Sent (List UInt8) :=
  match rt.get_local_inventory t with
  | .error e => ⟨[], .error e⟩
  | .ok items => send_batches items

def has_object (item : GossipItem) (t : Tables) : Except PyError Bool :=
  if item.object_type ∈ replication_handlers then
    (rt.get_stored_model item t).map Option.isSome
  else pure false

/-- The items that `on_ihave_message` asks for. -/
def missing_items (t : Tables) : List GossipItem → Except PyError (List GossipItem)
  | [] => pure []
  | item :: items => do
    let missing ←
      if item.object_type ∈ replication_handlers then (rt.has_object item t).map not
      else pure false
    let rest ← missing_items t items
    pure (if missing then item :: rest else rest)

/-- The IWANTs an IHAVE is answered with. -/
def on_ihave_message (payload : List UInt8) (t : Tables) : Sent (List UInt8) :=
  match rt.missing_items t (decode_gossip_items payload) with
  | .error e => ⟨[], .error e⟩
  | .ok [] => ⟨[], .ok ()⟩
  | .ok items => send_batches items

def send_object (t : Tables) (item : GossipItem) : Except PyError (Option Message) :=
  if item.object_type ∈ replication_handlers then do
    match ← rt.get_stored_model item t with
    | none => pure none
    | some stored_model =>
      let message ← stored_model.build_message
      pure (some message)
  else pure none

/-- The object messages an IWANT is answered with. -/
def on_iwant_message (payload : List UInt8) (t : Tables) : Sent Message :=
  sendEach (rt.send_object t) (decode_gossip_items payload)

def handle_object_message (now : String) (payload : Message) (t : Tables) :
    Except PyError Handled × Tables :=
  match payload.to_model rt with
  | .error e => (.error e, t)
  | .ok model =>
    match rt.store_remote now model t with
    | (.error e, t') => (.error e, t')
    | (.ok .ALREADY_PRESENT, t') => (.ok ⟨.ALREADY_PRESENT, false, []⟩, t')
    | (.ok .REJECTED, t') => (.ok ⟨.REJECTED, false, []⟩, t')
    | (.ok .STORED, t') =>
      -- a new object is announced to the peers at once
      let announced := send_batches [model.item]
      (announced.ended.map fun _ => ⟨.STORED, true, announced.messages⟩, t')

end Runtime

/-! ## Batches -/

theorem sendEach_of_ok {α β : Type} {build : α → Except PyError (Option β)} {xs : List α}
    {f : α → Option β} (h : ∀ x ∈ xs, build x = .ok (f x)) :
    sendEach build xs = ⟨xs.filterMap f, .ok ()⟩ := by
  induction xs with
  | nil => rfl
  | cons x xs ih =>
      have hrest := ih fun x' hx' => h x' (List.mem_cons_of_mem _ hx')
      rw [sendEach, h x (List.mem_cons_self ..)]
      cases hx : f x with
      | none => rw [List.filterMap_cons_none hx, hrest]
      | some message => rw [List.filterMap_cons_some hx, hrest]

theorem sendEach_encode {batches : List (List GossipItem)}
    (h : ∀ batch ∈ batches, ∃ blob, encode_gossip_items batch = .ok blob ∧
      decode_gossip_items blob = batch) :
    ∃ blobs, sendEach (fun batch => (encode_gossip_items batch).map some) batches = ⟨blobs, .ok ()⟩ ∧
      blobs.map decode_gossip_items = batches := by
  induction batches with
  | nil => exact ⟨[], rfl, rfl⟩
  | cons batch batches ih =>
      obtain ⟨blob, hencode, hdecode⟩ := h batch (List.mem_cons_self ..)
      obtain ⟨blobs, hsent, hmap⟩ := ih fun b hb => h b (List.mem_cons_of_mem _ hb)
      refine ⟨blob :: blobs, ?_, by rw [List.map_cons, hdecode, hmap]⟩
      rw [sendEach, hencode, hsent]
      rfl

/-- The payloads sent hold the canonical list, a part of it each. -/
theorem send_batches_spec (items : List GossipItem) :
    ∃ blobs, send_batches items = ⟨blobs, .ok ()⟩ ∧
      blobs.flatMap decode_gossip_items = canonicalize_items items := by
  obtain ⟨batches, hbatches, -, hflatten, hblobs⟩ :=
    batch_gossip_items_spec items MAX_GOSSIP_ITEMS_BLOB_BYTES (by decide)
  obtain ⟨blobs, hsent, hmap⟩ := sendEach_encode fun batch hbatch => by
    obtain ⟨blob, hencode, -, hdecode⟩ := hblobs batch hbatch
    exact ⟨blob, hencode, hdecode⟩
  refine ⟨blobs, ?_, ?_⟩
  · rw [send_batches, hbatches]
    exact hsent
  · rw [List.flatMap_def, hmap, hflatten]

theorem mem_replication_handlers (object_type : ObjectType) : object_type ∈ replication_handlers := by
  cases object_type <;> decide

/-! ## Asking for what is missing -/

namespace Runtime

variable {rt : Runtime} {texts : Set String} {t : Tables}

/-- A store in which every row is found under its id. -/
def Finds (rt : Runtime) (t : Tables) : Prop :=
  ∀ item : GossipItem, rt.has_object item t = .ok (decide (item.object_uuid.str ∈ t.ids item.object_type))

theorem Sane.finds (h : rt.Sane t) (hrows : ∀ row, t.HasRow row → ∃ o, rt.row o = row) :
    rt.Finds t := by
  intro item
  rw [has_object, if_pos (mem_replication_handlers _)]
  by_cases hid : item.object_uuid.str ∈ t.ids item.object_type
  · obtain ⟨o, ho⟩ := h.get_stored_model_of_id hrows hid
    rw [ho, decide_eq_true hid]
    rfl
  · rw [get_stored_model_of_not_mem hid, decide_eq_false hid]
    rfl

theorem missing_items_eq (h : rt.Finds t) (items : List GossipItem) :
    rt.missing_items t items =
      .ok (items.filter fun item => decide (item.object_uuid.str ∉ t.ids item.object_type)) := by
  induction items with
  | nil => rfl
  | cons item items ih =>
      rw [missing_items, if_pos (mem_replication_handlers _), h item, ih]
      by_cases hid : item.object_uuid.str ∈ t.ids item.object_type
      · rw [List.filter_cons_of_neg (by simpa using hid), decide_eq_true hid]
        rfl
      · rw [List.filter_cons_of_pos (by simpa using hid), decide_eq_false hid]
        rfl

/-- The IWANTs ask for what the store lacks of an IHAVE. -/
theorem on_ihave_message_spec (h : rt.Finds t) (payload : List UInt8) :
    ∃ iwants, rt.on_ihave_message payload t = ⟨iwants, .ok ()⟩ ∧
      iwants.flatMap decode_gossip_items = canonicalize_items
        ((decode_gossip_items payload).filter fun item =>
          decide (item.object_uuid.str ∉ t.ids item.object_type)) := by
  rw [on_ihave_message, missing_items_eq h]
  generalize (decode_gossip_items payload).filter _ = missing
  cases missing with
  | nil => exact ⟨[], rfl, rfl⟩
  | cons item items => exact send_batches_spec (item :: items)

/-! ## Announcing and handing over -/

section

variable (hinj : Set.InjOn rt.text_hash texts) (h : rt.IsStore texts t)

include h in
theorem IsStore.finds : rt.Finds t :=
  h.sane.finds fun row hrow => by
    obtain ⟨o, -, ho⟩ := h.rows row hrow
    exact ⟨o, ho⟩

include hinj h

/-- The inventory names exactly what is stored. -/
theorem IsStore.get_local_inventory_spec :
    ∃ items, rt.get_local_inventory t = .ok items ∧
      ∀ item, item ∈ items ↔ links.HasKey (rt.stored texts t) item := by
  have hall : ∀ object_type ∈ replication_handlers,
      ∃ models, rt.get_all_models object_type t = .ok models := by
    intro object_type _
    obtain ⟨models, hmodels, -⟩ := h.get_all_models_spec hinj object_type
    exact ⟨models, hmodels⟩
  obtain ⟨lists, hlists, hmem⟩ := mapM_of_ok hall
  refine ⟨lists.flatten.map Object.item, by rw [get_local_inventory, hlists]; rfl, fun item => ?_⟩
  rw [List.mem_map]
  constructor
  · rintro ⟨o, ho, rfl⟩
    obtain ⟨models, hmodels, hom⟩ := List.mem_flatten.mp ho
    obtain ⟨object_type, -, hget⟩ := (hmem models).mp hmodels
    obtain ⟨models', hget', hspec⟩ := h.get_all_models_spec hinj object_type
    rw [hget] at hget'
    rw [Except.ok.inj hget'] at hom
    exact ⟨o, ((hspec o).mp hom).1, rfl⟩
  · rintro ⟨o, ho, rfl⟩
    obtain ⟨models, hget, hspec⟩ := h.get_all_models_spec hinj o.object_type
    exact ⟨o, List.mem_flatten.mpr ⟨models, (hmem models).mpr
      ⟨o.object_type, mem_replication_handlers _, hget⟩, (hspec o).mpr ⟨ho, rfl⟩⟩, rfl⟩

/-- The IHAVEs hold the inventory in canonical order. -/
theorem IsStore.announce_full_inventory_spec :
    ∃ items ihaves, rt.announce_full_inventory t = ⟨ihaves, .ok ()⟩ ∧
      ihaves.flatMap decode_gossip_items = canonicalize_items items ∧
      ∀ item, item ∈ items ↔ links.HasKey (rt.stored texts t) item := by
  obtain ⟨items, hitems, hmem⟩ := h.get_local_inventory_spec hinj
  obtain ⟨ihaves, hsent, hdecode⟩ := send_batches_spec items
  refine ⟨items, ihaves, ?_, hdecode, hmem⟩
  rw [announce_full_inventory, hitems]
  exact hsent

/-- What is sent for an item is a message that is read as the object it names. -/
theorem IsStore.send_object_spec (item : GossipItem) :
    (∃ o ∈ rt.stored texts t, o.item = item ∧ ∃ message,
      rt.send_object t item = .ok (some message) ∧ message.to_model rt = .ok o) ∨
    (¬ links.HasKey (rt.stored texts t) item ∧ rt.send_object t item = .ok none) := by
  rw [send_object, if_pos (mem_replication_handlers _)]
  by_cases hkey : links.HasKey (rt.stored texts t) item
  · obtain ⟨o, ho, hitem⟩ := hkey
    have hitem : o.item = item := hitem
    obtain ⟨message, hbuild, hread⟩ := o.to_model_build_message ho.1.created_at
    refine .inl ⟨o, ho, hitem, message, ?_, hread⟩
    rw [← hitem, h.get_stored_model_of_mem hinj ho, ok_bind]
    simp only [hbuild, ok_bind]
    rfl
  · refine .inr ⟨hkey, ?_⟩
    rw [h.hasKey_iff] at hkey
    rw [get_stored_model_of_not_mem hkey]
    rfl

end

/-! ## Taking an object in -/

/-- A message that is read as an object is answered with the status of `store_remote`. -/
theorem handle_object_message_of_read {now : String} {payload : Message} {o : Object}
    {status : StoreStatus} {t' : Tables} (hread : payload.to_model rt = .ok o)
    (hstore : rt.store_remote now o t = (.ok status, t')) :
    ∃ handled, rt.handle_object_message now payload t = (.ok handled, t') ∧
      handled.status = status := by
  rw [handle_object_message, hread]
  dsimp only
  rw [hstore]
  cases status with
  | STORED =>
      obtain ⟨blobs, hsent, -⟩ := send_batches_spec [o.item]
      dsimp only
      rw [hsent]
      exact ⟨⟨.STORED, true, blobs⟩, rfl, rfl⟩
  | ALREADY_PRESENT => exact ⟨_, rfl, rfl⟩
  | REJECTED => exact ⟨_, rfl, rfl⟩

end Runtime

end Superorganism.Democracy

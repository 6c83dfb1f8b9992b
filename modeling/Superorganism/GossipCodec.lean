/-
The gossip codec: batches, encoding and decoding.

The canonical list of some items is the one list that is strictly increasing in
(type, uuid) and has the same members (`SortedDistinct`); there is only one
(`SortedDistinct.unique`), so whatever the dictionary and the sort do in between,
two inputs with the same members are encoded alike and a batch, which is already
in order, is its own canonical list.

The blob is a number of 131-bit fields in big-endian bytes with up to seven bits
of padding in front. The decoder knows only the length; `count_of_encoded_size`
says that it gets the count back from it.
-/
import Superorganism.Gossip

set_option autoImplicit false

open Superorganism.Bytes Superorganism.Lists Superorganism.Py

namespace Superorganism.Gossip

/-! ## Items as numbers -/

theorem ObjectType.toInt_lt (t : ObjectType) : t.toInt < 2 ^ OBJECT_TYPE_BITS := by
  cases t <;> decide

@[simp] theorem ObjectType.ofInt_toInt (t : ObjectType) : ObjectType.ofInt t.toInt = some t := by
  cases t <;> rfl

theorem ObjectType.toInt_injective : Function.Injective ObjectType.toInt := by
  intro a b h
  have hab : some a = some b := by rw [← ofInt_toInt a, ← ofInt_toInt b, h]
  exact Option.some.inj hab

theorem GossipItem.key_injective : Function.Injective GossipItem.key := by
  rintro ⟨t, u⟩ ⟨t', u'⟩ h
  obtain ⟨ht, hu⟩ := Prod.mk.inj (toLex.injective h)
  obtain rfl := ObjectType.toInt_injective ht
  obtain rfl := BitVec.eq_of_toNat_eq hu
  rfl

/-- The 131 bits of an item. -/
def GossipItem.field (item : GossipItem) : ℕ :=
  item.object_type.toInt * 2 ^ OBJECT_ID_BITS + item.object_uuid.toNat

theorem GossipItem.field_lt (item : GossipItem) : item.field < 2 ^ BITS_PER_ITEM := by
  have ht := item.object_type.toInt_lt
  have hu : item.object_uuid.toNat < 2 ^ OBJECT_ID_BITS := item.object_uuid.isLt
  rw [GossipItem.field, BITS_PER_ITEM, pow_add]
  calc item.object_type.toInt * 2 ^ OBJECT_ID_BITS + item.object_uuid.toNat
      < item.object_type.toInt * 2 ^ OBJECT_ID_BITS + 2 ^ OBJECT_ID_BITS := by omega
    _ = (item.object_type.toInt + 1) * 2 ^ OBJECT_ID_BITS := by ring
    _ ≤ 2 ^ OBJECT_TYPE_BITS * 2 ^ OBJECT_ID_BITS := Nat.mul_le_mul_right _ ht

/-! ## Canonical lists -/

/-- The list has the members of `items`, each once, in increasing order of
(type, uuid). -/
structure SortedDistinct (items l : List GossipItem) : Prop where
  sorted : l.Pairwise fun a b => a.key < b.key
  mem : ∀ item, item ∈ l ↔ item ∈ items

theorem SortedDistinct.unique {items items' l l' : List GossipItem} (h : SortedDistinct items l)
    (h' : SortedDistinct items' l') (hmem : ∀ item, item ∈ items ↔ item ∈ items') : l = l' := by
  have : Std.Irrefl fun a b : GossipItem => a.key < b.key := ⟨fun a => lt_irrefl a.key⟩
  have : Std.Antisymm fun a b : GossipItem => a.key < b.key :=
    ⟨fun _ _ hab hba => absurd hba (lt_asymm hab)⟩
  refine h.sorted.eq_of_mem_iff h'.sorted fun item => ?_
  rw [h.mem, h'.mem, hmem]

/-- The dictionary holds each item met so far under its own key. -/
theorem deduplicate_entries (items : List GossipItem) (e : (ObjectType × UUID) × GossipItem) :
    e ∈ (items.foldl
        (fun unique_items item => unique_items.set (item.object_type, item.object_uuid) item)
        (PyDict.empty : PyDict (ObjectType × UUID) GossipItem)).entries ↔
      e.2 ∈ items ∧ e.1 = (e.2.object_type, e.2.object_uuid) := by
  induction items using List.reverseRecOn with
  | nil => simp [PyDict.empty]
  | append_singleton items item ih =>
      rw [List.foldl_append, List.foldl_cons, List.foldl_nil, PyDict.set, mem_setEntry (PyDict.nodup _),
        ih, List.mem_append, List.mem_singleton]
      obtain ⟨k, x⟩ := e
      constructor
      · rintro (h | ⟨⟨hx, hk⟩, -⟩)
        · obtain ⟨rfl, rfl⟩ := Prod.mk.inj h
          exact ⟨.inr rfl, rfl⟩
        · exact ⟨.inl hx, hk⟩
      · rintro ⟨hx, hk⟩
        dsimp only at hx hk
        subst hk
        -- an earlier item with the key of the last one is the last one
        by_cases hlast : x = item
        · exact .inl (by rw [hlast])
        · refine .inr ⟨⟨hx.resolve_right hlast, rfl⟩, fun heq => hlast ?_⟩
          obtain ⟨ht, hu⟩ := Prod.mk.inj heq
          cases x
          cases item
          simp only [GossipItem.mk.injEq]
          exact ⟨ht, hu⟩

theorem mem_deduplicate_items (items : List GossipItem) (item : GossipItem) :
    item ∈ deduplicate_items items ↔ item ∈ items := by
  rw [deduplicate_items, PyDict.values, List.mem_map]
  constructor
  · rintro ⟨e, he, rfl⟩
    exact ((deduplicate_entries items e).mp he).1
  · intro h
    exact ⟨((item.object_type, item.object_uuid), item),
      (deduplicate_entries items _).mpr ⟨h, rfl⟩, rfl⟩

theorem nodup_deduplicate_items (items : List GossipItem) : (deduplicate_items items).Nodup := by
  rw [deduplicate_items, PyDict.values]
  have hmap : ∀ es : List ((ObjectType × UUID) × GossipItem),
      (∀ e ∈ es, e.1 = (e.2.object_type, e.2.object_uuid)) →
      es.map Prod.fst = (es.map Prod.snd).map fun x => (x.object_type, x.object_uuid) := by
    intro es hes
    rw [List.map_map]
    exact List.map_congr_left hes
  refine List.Nodup.of_map (fun x => (x.object_type, x.object_uuid)) ?_
  rw [← hmap _ fun e he => ((deduplicate_entries items e).mp he).2]
  exact PyDict.nodup _

theorem canonicalize_items_sortedDistinct (items : List GossipItem) :
    SortedDistinct items (canonicalize_items items) := by
  have : Std.Total fun a b : GossipItem => a.key ≤ b.key := ⟨fun a b => le_total a.key b.key⟩
  have : IsTrans GossipItem fun a b => a.key ≤ b.key := ⟨fun _ _ _ hab hbc => le_trans hab hbc⟩
  have hperm := (deduplicate_items items).perm_insertionSort fun a b => a.key ≤ b.key
  refine ⟨?_, fun item => ?_⟩
  · have hsorted := (deduplicate_items items).pairwise_insertionSort fun a b => a.key ≤ b.key
    have hnodup : (canonicalize_items items).Nodup :=
      hperm.nodup_iff.mpr (nodup_deduplicate_items items)
    refine (hsorted.and hnodup).imp fun {a b} h => lt_of_le_of_ne h.1 fun hkey => ?_
    exact h.2 (GossipItem.key_injective hkey)
  · rw [canonicalize_items, hperm.mem_iff, mem_deduplicate_items]

/-- A list in canonical order is its own canonical list. -/
theorem canonicalize_items_of_sorted {l : List GossipItem}
    (h : l.Pairwise fun a b => a.key < b.key) : canonicalize_items l = l :=
  (canonicalize_items_sortedDistinct l).unique ⟨h, fun _ => Iff.rfl⟩ fun _ => Iff.rfl

/-- Only the set of items matters. -/
theorem canonicalize_items_congr {items items' : List GossipItem}
    (h : ∀ item, item ∈ items ↔ item ∈ items') :
    canonicalize_items items = canonicalize_items items' :=
  (canonicalize_items_sortedDistinct items).unique (canonicalize_items_sortedDistinct items') h

/-! ## Sizes -/

theorem encoded_size_bounds (n : ℕ) :
    n * 131 ≤ encoded_size_for_item_count n * 8 ∧
      encoded_size_for_item_count n * 8 < n * 131 + 8 := by
  rw [encoded_size_for_item_count, Nat.ceilDiv_eq_add_pred_div, BITS_PER_ITEM, OBJECT_TYPE_BITS,
    OBJECT_ID_BITS]
  omega

/-- The count comes back from the length alone. -/
theorem count_of_encoded_size (n : ℕ) : encoded_size_for_item_count n * 8 / BITS_PER_ITEM = n := by
  have h := encoded_size_bounds n
  rw [BITS_PER_ITEM, OBJECT_TYPE_BITS, OBJECT_ID_BITS]
  omega

/-! ## Packing -/

theorem pack_item_eq (acc : ℕ) (item : GossipItem) :
    pack_item acc item = acc * 2 ^ BITS_PER_ITEM + item.field := by
  have hu : item.object_uuid.toNat < 2 ^ OBJECT_ID_BITS := item.object_uuid.isLt
  rw [pack_item, shift_or_eq _ _ _ item.object_type.toInt_lt, shift_or_eq _ _ _ hu,
    GossipItem.field, BITS_PER_ITEM, pow_add]
  ring

theorem foldl_pack_item (items : List GossipItem) :
    items.foldl pack_item 0 = packFields BITS_PER_ITEM (items.map GossipItem.field) := by
  rw [packFields, List.foldl_map]
  congr 1
  funext acc item
  exact pack_item_eq acc item

theorem fields_lt (items : List GossipItem) :
    ∀ x ∈ items.map GossipItem.field, x < 2 ^ BITS_PER_ITEM := by
  intro x hx
  obtain ⟨item, -, rfl⟩ := List.mem_map.mp hx
  exact item.field_lt

/-- The packed items fit in the size that is reserved for them. -/
theorem packed_lt (items : List GossipItem) :
    items.foldl pack_item 0 < 256 ^ encoded_size_for_item_count items.length := by
  have hlt := packFields_lt (fields_lt items)
  rw [← foldl_pack_item, List.length_map] at hlt
  refine lt_of_lt_of_le hlt ?_
  rw [show (256 : ℕ) = 2 ^ 8 by norm_num, ← pow_mul]
  refine Nat.pow_le_pow_right (by norm_num) ?_
  have h := (encoded_size_bounds items.length).1
  rw [BITS_PER_ITEM, OBJECT_TYPE_BITS, OBJECT_ID_BITS]
  omega

/-- Each turn of the unpacking loop gives back the item that was packed there. -/
theorem unpack_item_packed (items : List GossipItem) (i : ℕ) (hi : i < items.length) :
    unpack_item (items.foldl pack_item 0) items.length i = some items[i] := by
  have hfield := field_packFields (fields_lt items) (i := i) (by rwa [List.length_map])
  simp only [List.getElem_map, List.length_map, ← foldl_pack_item] at hfield
  have hu : items[i].object_uuid.toNat < 2 ^ OBJECT_ID_BITS := items[i].object_uuid.isLt
  have htype : items[i].field / 2 ^ OBJECT_ID_BITS = items[i].object_type.toInt := by
    rw [GossipItem.field, mul_comm, Nat.mul_add_div (Nat.two_pow_pos _), Nat.div_eq_of_lt hu,
      add_zero]
  have huuid : items[i].field % 2 ^ OBJECT_ID_BITS = items[i].object_uuid.toNat := by
    rw [GossipItem.field, Nat.mul_add_mod_self_right, Nat.mod_eq_of_lt hu]
  rw [unpack_item, hfield, Nat.shiftRight_eq_div_pow, Nat.one_shiftLeft,
    Nat.and_two_pow_sub_one_eq_mod, htype, huuid, ObjectType.ofInt_toInt, Option.map_some,
    BitVec.ofNat_toNat, BitVec.setWidth_eq]

/-! ## Encoding and decoding -/

/-- Encoding never overflows; it packs the canonical list. -/
theorem encode_gossip_items_eq (items : List GossipItem) :
    encode_gossip_items items =
      .ok (beOfNat (encoded_size_for_item_count (canonicalize_items items).length)
        ((canonicalize_items items).foldl pack_item 0)) := by
  rw [encode_gossip_items]
  split_ifs with h0
  · rw [h0]
    rfl
  · rw [to_bytes, if_pos (packed_lt _)]
    rfl

/-- The announced size is the size of the blob. -/
theorem encoded_gossip_items_size_eq (items : List GossipItem) (blob : List UInt8)
    (h : encode_gossip_items items = .ok blob) :
    blob.length = encoded_gossip_items_size items := by
  rw [encode_gossip_items_eq] at h
  obtain rfl := Except.ok.inj h
  rw [beOfNat_length, encoded_gossip_items_size, canonicalize_items,
    (List.perm_insertionSort _ _).length_eq]

/-- Decoding the packed items gives them back. -/
theorem decode_packed (l : List GossipItem) :
    decode_gossip_items (beOfNat (encoded_size_for_item_count l.length) (l.foldl pack_item 0)) =
      l := by
  rw [decode_gossip_items]
  have hsize := encoded_size_bounds l.length
  cases hl : l with
  | nil => rfl
  | cons item items =>
      rw [← hl]
      have hpos : 0 < l.length := by rw [hl]; exact Nat.succ_pos _
      have hne : beOfNat (encoded_size_for_item_count l.length) (l.foldl pack_item 0) ≠ [] := by
        intro hnil
        have hlen := congrArg List.length hnil
        rw [beOfNat_length, List.length_nil] at hlen
        omega
      rw [if_neg hne, beOfNat_length, count_of_encoded_size, if_neg (by omega), if_neg (by simp),
        natOfBE_beOfNat _ _ (packed_lt l)]
      exact filterMap_range_eq fun i hi => unpack_item_packed l i hi

/-- The batches partition the canonical list, and each of them fits in a blob that decodes
to it. -/
theorem batch_gossip_items_spec (items : List GossipItem) (limit : ℤ) (hlimit : 17 ≤ limit) :
    ∃ batches, batch_gossip_items limit items = .ok batches ∧ (∀ batch ∈ batches, batch ≠ []) ∧
      batches.flatten = canonicalize_items items ∧
      ∀ batch ∈ batches, ∃ blob, encode_gossip_items batch = .ok blob ∧
        (blob.length : ℤ) ≤ limit ∧ decode_gossip_items blob = batch := by
  have hcanon := canonicalize_items_sortedDistinct items
  rw [batch_gossip_items]
  by_cases hnil : canonicalize_items items = []
  · rw [if_pos hnil]
    exact ⟨[], rfl, fun _ h => absurd h List.not_mem_nil, hnil.symm,
      fun _ h => absurd h List.not_mem_nil⟩
  · have hmax : max_gossip_items_for_blob_size limit = .ok (limit.toNat * 8 / BITS_PER_ITEM) :=
      if_neg (by omega)
    have hpos : 0 < limit.toNat * 8 / BITS_PER_ITEM := by
      rw [BITS_PER_ITEM, OBJECT_TYPE_BITS, OBJECT_ID_BITS]
      omega
    rw [if_neg hnil, hmax]
    refine ⟨slices (limit.toNat * 8 / BITS_PER_ITEM) (canonicalize_items items), if_neg (by omega),
      slices_ne_nil hpos, slices_flatten hpos, fun batch hbatch => ?_⟩
    -- a slice of a canonical list is canonical
    have hsorted := hcanon.sorted.sublist (slices_sublist batch hbatch)
    have hself := canonicalize_items_of_sorted hsorted
    have hlen := slices_length_le batch hbatch
    refine ⟨_, encode_gossip_items_eq batch, ?_, ?_⟩
    · have hsize := (encoded_size_bounds batch.length).2
      rw [BITS_PER_ITEM, OBJECT_TYPE_BITS, OBJECT_ID_BITS] at hlen
      rw [beOfNat_length, hself]
      omega
    · rw [hself, decode_packed]

/-- **The gossip codec.** For every list of items and every limit of at least 17 bytes:
`batch_gossip_items` yields non-empty batches whose concatenation is the list of distinct
items sorted by (type, uuid); the blob of a batch is at most the limit and decodes to the
batch. Encoding depends only on the set of items, and decoding an encoding gives the
sorted distinct list. -/
theorem gossip_codec_spec (items : List GossipItem) (limit : ℤ) (hlimit : 17 ≤ limit) :
    (∃ batches, batch_gossip_items limit items = .ok batches ∧ (∀ batch ∈ batches, batch ≠ []) ∧
      SortedDistinct items batches.flatten ∧
      ∀ batch ∈ batches, ∃ blob, encode_gossip_items batch = .ok blob ∧
        (blob.length : ℤ) ≤ limit ∧ decode_gossip_items blob = batch) ∧
    (∀ items', (∀ item, item ∈ items ↔ item ∈ items') →
      encode_gossip_items items = encode_gossip_items items') ∧
    ∃ blob, encode_gossip_items items = .ok blob ∧
      SortedDistinct items (decode_gossip_items blob) := by
  have hcanon := canonicalize_items_sortedDistinct items
  refine ⟨?_, fun items' h => ?_, ?_⟩
  · obtain ⟨batches, hbatches, hne, hflatten, hblobs⟩ := batch_gossip_items_spec items limit hlimit
    exact ⟨batches, hbatches, hne, by rwa [hflatten], hblobs⟩
  · rw [encode_gossip_items_eq, encode_gossip_items_eq, canonicalize_items_congr h]
  · exact ⟨_, encode_gossip_items_eq items, by rw [decode_packed]; exact hcanon⟩

/-- Three items, one of them twice, in batches of one. -/
theorem gossip_codec_spec_seventeen :
    ∃ batches, batch_gossip_items 17 [⟨.SOLUTION, 7⟩, ⟨.ISSUE, 9⟩, ⟨.SOLUTION, 7⟩, ⟨.ISSUE, 3⟩] =
        .ok batches ∧
      batches.flatten = [⟨.ISSUE, 3⟩, ⟨.ISSUE, 9⟩, ⟨.SOLUTION, 7⟩] := by
  obtain ⟨⟨batches, hok, -, hsorted, -⟩, -⟩ := gossip_codec_spec
    [⟨.SOLUTION, 7⟩, ⟨.ISSUE, 9⟩, ⟨.SOLUTION, 7⟩, ⟨.ISSUE, 3⟩] 17 (by decide)
  have hself : SortedDistinct [⟨.ISSUE, 3⟩, ⟨.ISSUE, 9⟩, ⟨.SOLUTION, 7⟩]
      [⟨.ISSUE, 3⟩, ⟨.ISSUE, 9⟩, ⟨.SOLUTION, 7⟩] := ⟨by decide, fun _ => Iff.rfl⟩
  refine ⟨batches, hok, hsorted.unique hself fun item => ?_⟩
  simp only [List.mem_cons, List.not_mem_nil, or_false]
  tauto

end Superorganism.Gossip

/-
`democracy/network/object_type.py` and the item functions of
`democracy/network/messages/gossip_messages.py`.

A UUID is its 128-bit integer, `UUID.int`. The module constant
`MAX_GOSSIP_ITEMS_BLOB_BYTES` is the first argument of `batch_gossip_items`, so
that what is proved holds for every limit. `math.ceil` of the quotient is read as
the exact rational ceiling, and a generator as the list of what it yields:
`batch_gossip_items` raises only before its first `yield`.
-/
import Mathlib.Algebra.Order.Floor.Div
import Mathlib.Data.List.Sort
import Mathlib.Data.Prod.Lex
import Superorganism.Bytes
import Superorganism.Lists
import Superorganism.Py

set_option autoImplicit false

open Superorganism.Bytes Superorganism.Lists Superorganism.Py

namespace Superorganism.Gossip

/-! ## Items -/

inductive ObjectType where
  | ISSUE
  | ISSUE_VOTE
  | SOLUTION
  | SOLUTION_VOTE
  | FUNDING_CAMPAIGN
  | FUNDING_PLEDGE
deriving DecidableEq, Repr

/-- `int(object_type)`. -/
def ObjectType.toInt : ObjectType → ℕ
  | .ISSUE => 0
  | .ISSUE_VOTE => 1
  | .SOLUTION => 2
  | .SOLUTION_VOTE => 3
  | .FUNDING_CAMPAIGN => 4
  | .FUNDING_PLEDGE => 5

/-- `ObjectType(value)`, where `none` is the `ValueError` of an unknown value. -/
def ObjectType.ofInt : ℕ → Option ObjectType
  | 0 => some .ISSUE
  | 1 => some .ISSUE_VOTE
  | 2 => some .SOLUTION
  | 3 => some .SOLUTION_VOTE
  | 4 => some .FUNDING_CAMPAIGN
  | 5 => some .FUNDING_PLEDGE
  | _ => none

structure GossipItem where
  object_type : ObjectType
  object_uuid : UUID
deriving DecidableEq, Repr

def OBJECT_TYPE_BITS : ℕ := 3

def OBJECT_ID_BITS : ℕ := 128

def BITS_PER_ITEM : ℕ := OBJECT_TYPE_BITS + OBJECT_ID_BITS

/-! ## Canonical order -/

def deduplicate_items (items : List GossipItem) : List GossipItem :=
  let unique_items := items.foldl
    (fun unique_items item => unique_items.set (item.object_type, item.object_uuid) item)
    (PyDict.empty : PyDict (ObjectType × UUID) GossipItem)
  unique_items.values

/-- The sort key: type first, then the integer of the UUID. -/
def GossipItem.key (item : GossipItem) : ℕ ×ₗ ℕ :=
  toLex (item.object_type.toInt, item.object_uuid.toNat)

def canonicalize_items (items : List GossipItem) : List GossipItem :=
  (deduplicate_items items).insertionSort fun a b => a.key ≤ b.key

/-! ## Sizes and batches -/

def encoded_size_for_item_count (item_count : ℕ) : ℕ := (item_count * BITS_PER_ITEM) ⌈/⌉ 8

def encoded_gossip_items_size (items : List GossipItem) : ℕ :=
  encoded_size_for_item_count (deduplicate_items items).length

def max_gossip_items_for_blob_size (max_blob_bytes : ℤ) : Except PyError ℕ :=
  if max_blob_bytes < 0 then throw (.ValueError "Maximum gossip blob size cannot be negative.")
  else pure (max_blob_bytes.toNat * 8 / BITS_PER_ITEM)

def batch_gossip_items (MAX_GOSSIP_ITEMS_BLOB_BYTES : ℤ) (items : List GossipItem) :
    Except PyError (List (List GossipItem)) :=
  let canonical_items := canonicalize_items items
  if canonical_items = [] then pure []
  else do
    let max_items_per_batch ← max_gossip_items_for_blob_size MAX_GOSSIP_ITEMS_BLOB_BYTES
    if max_items_per_batch < 1 then
      throw (.ValueError "Maximum gossip blob size is too small to fit one gossip item.")
    else pure (slices max_items_per_batch canonical_items)

/-! ## The blob -/

/-- One turn of the packing loop. -/
def pack_item (packed_items : ℕ) (item : GossipItem) : ℕ :=
  let packed_items := (packed_items <<< OBJECT_TYPE_BITS) ||| item.object_type.toInt
  (packed_items <<< OBJECT_ID_BITS) ||| item.object_uuid.toNat

/-- `int.to_bytes(size, byteorder="big")`. -/
def to_bytes (value size : ℕ) : Except PyError (List UInt8) :=
  if value < 256 ^ size then pure (beOfNat size value)
  else throw (.OverflowError "int too big to convert")

def encode_gossip_items (items : List GossipItem) : Except PyError (List UInt8) :=
  let canonical_items := canonicalize_items items
  let item_count := canonical_items.length
  if item_count = 0 then pure []
  else
    let packed_items := canonical_items.foldl pack_item 0
    to_bytes packed_items (encoded_size_for_item_count item_count)

/-- One turn of the unpacking loop; an item of unknown type is skipped. -/
def unpack_item (packed_items item_count item_index : ℕ) : Option GossipItem :=
  let shift := (item_count - item_index - 1) * BITS_PER_ITEM
  let packed_item := (packed_items >>> shift) &&& ((1 <<< BITS_PER_ITEM) - 1)
  let object_type_value := packed_item >>> OBJECT_ID_BITS
  let object_uuid_value := packed_item &&& ((1 <<< OBJECT_ID_BITS) - 1)
  (ObjectType.ofInt object_type_value).map fun object_type =>
    ⟨object_type, BitVec.ofNat 128 object_uuid_value⟩

def decode_gossip_items (payload_bytes : List UInt8) : List GossipItem :=
  if payload_bytes = [] then []
  else
    let item_count := payload_bytes.length * 8 / BITS_PER_ITEM
    if item_count = 0 then []
    else
      let expected_payload_bytes := encoded_size_for_item_count item_count
      if payload_bytes.length ≠ expected_payload_bytes then []
      else
        let packed_items := natOfBE payload_bytes
        (List.range item_count).filterMap (unpack_item packed_items item_count)

end Superorganism.Gossip

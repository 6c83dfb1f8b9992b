/-
`democracy/funding/bitcoin_tx.py`: the transaction data classes, the serializer,
the parser and the combination of pledges.

Everything is translated line by line. A `bytes` field is a `PyBytes`, an `int`
field an integer of any size: the range checks are those of the writers
(`uint32_le`, `uint64_le`, `encode_varint`), and they are why the serializers can
fail. The byte buffer a serializer fills is a plain list.

The parser is a `Format.Reader`: the stream is the list of unread bytes. Its
loops run `input_count`, `output_count` and `item_count` times, whatever the
input declares; a loop ends early only because a read fails.
-/
import Superorganism.Bytes
import Superorganism.Py
import Superorganism.Format

set_option autoImplicit false

open Superorganism.Bytes Superorganism.Py Superorganism.Format

namespace Superorganism.Tx

/-! ## Data classes -/

structure TxInput where
  prev_txid_le : PyBytes
  vout : ℤ
  script_sig : PyBytes
  sequence : ℤ
  witness : List PyBytes
deriving DecidableEq

/-- The outpoint as text: the transaction id in the byte order it is displayed in,
and the output index. -/
def TxInput.outpoint_key (txin : TxInput) : String × ℤ :=
  (hex txin.prev_txid_le.toList.reverse, txin.vout)

structure TxOutput where
  value_sats : ℤ
  script_pubkey : PyBytes
deriving DecidableEq

structure BitcoinTransaction where
  version : ℤ
  inputs : List TxInput
  outputs : List TxOutput
  locktime : ℤ
deriving DecidableEq

/-! ## Writing integers -/

def uint32_le (value : ℤ) : Except PyError (List UInt8) :=
  if value < 0 ∨ value > 0xFFFFFFFF then throw (.ValueError "uint32 out of range.")
  else pure (leOfNat 4 value.toNat)

def uint64_le (value : ℤ) : Except PyError (List UInt8) :=
  if value < 0 ∨ value > 0xFFFFFFFFFFFFFFFF then throw (.ValueError "uint64 out of range.")
  else pure (leOfNat 8 value.toNat)

def encode_varint (value : ℤ) : Except PyError (List UInt8) :=
  if value < 0 then throw (.ValueError "varint cannot be negative.")
  else if value < 0xFD then pure [UInt8.ofNat value.toNat]
  else if value ≤ 0xFFFF then pure (0xFD :: leOfNat 2 value.toNat)
  else if value ≤ 0xFFFFFFFF then pure (0xFE :: leOfNat 4 value.toNat)
  else if value ≤ 0xFFFFFFFFFFFFFFFF then pure (0xFF :: leOfNat 8 value.toNat)
  else throw (.ValueError "varint too large.")

/-! ## Serialization -/

/-- A byte string behind its length. -/
def var_bytes (b : PyBytes) : Except PyError (List UInt8) := do
  let len ← encode_varint b.length
  pure (len ++ b.toList)

/-- The body of the loop over the inputs. -/
def TxInput.serialize (txin : TxInput) : Except PyError (List UInt8) := do
  let vout ← uint32_le txin.vout
  let script_sig ← var_bytes txin.script_sig
  let sequence ← uint32_le txin.sequence
  pure (txin.prev_txid_le.toList ++ vout ++ script_sig ++ sequence)

/-- The body of the loop over the outputs. -/
def TxOutput.serialize (txout : TxOutput) : Except PyError (List UInt8) := do
  let value_sats ← uint64_le txout.value_sats
  let script_pubkey ← var_bytes txout.script_pubkey
  pure (value_sats ++ script_pubkey)

/-- The body of the loop over the witness stacks. -/
def TxInput.serialize_witness (txin : TxInput) : Except PyError (List UInt8) := do
  let item_count ← encode_varint txin.witness.length
  let items ← writeEach var_bytes txin.witness
  pure (item_count ++ items)

/-- `any(txin.witness for txin in self.inputs)`. -/
def BitcoinTransaction.has_witness (tx : BitcoinTransaction) : Bool :=
  tx.inputs.any fun txin => !txin.witness.isEmpty

def BitcoinTransaction.serialize (tx : BitcoinTransaction) : Except PyError (List UInt8) := do
  let version ← uint32_le tx.version
  let marker := if tx.has_witness then [0x00, 0x01] else []
  let input_count ← encode_varint tx.inputs.length
  let inputs ← writeEach TxInput.serialize tx.inputs
  let output_count ← encode_varint tx.outputs.length
  let outputs ← writeEach TxOutput.serialize tx.outputs
  let witness ← if tx.has_witness then writeEach TxInput.serialize_witness tx.inputs else pure []
  let locktime ← uint32_le tx.locktime
  pure (version ++ marker ++ input_count ++ inputs ++ output_count ++ outputs ++ witness ++ locktime)

def BitcoinTransaction.to_hex (tx : BitcoinTransaction) : Except PyError String := do
  let raw ← tx.serialize
  pure (hex raw)

def BitcoinTransaction.serialize_without_witness (tx : BitcoinTransaction) :
    Except PyError (List UInt8) := do
  let version ← uint32_le tx.version
  let input_count ← encode_varint tx.inputs.length
  let inputs ← writeEach TxInput.serialize tx.inputs
  let output_count ← encode_varint tx.outputs.length
  let outputs ← writeEach TxOutput.serialize tx.outputs
  let locktime ← uint32_le tx.locktime
  pure (version ++ input_count ++ inputs ++ output_count ++ outputs ++ locktime)

/-- The transaction id, over the hash function `hashlib.sha256`. -/
def BitcoinTransaction.txid (sha256 : List UInt8 → List UInt8) (tx : BitcoinTransaction) :
    Except PyError String := do
  let raw_no_witness ← tx.serialize_without_witness
  pure (hex (sha256 (sha256 raw_no_witness)).reverse)

/-! ## Reading -/

/-- A reader of the transaction stream. -/
abbrev TxReader (α : Type) := Reader UInt8 PyError α

/-- `BytesIO.read(size)` refuses a size beyond `sys.maxsize` and otherwise returns
what is left when the stream is shorter. -/
def read_exact (size : ℕ) : TxReader PyBytes := fun stream =>
  if hsize : size ≤ sys_maxsize then
    if hlen : (stream.take size).length = size then
      .ok (⟨stream.take size, by omega⟩, stream.drop size)
    else .error (.TxFormatError "Unexpected end of transaction.")
  else .error (.OverflowError "cannot fit 'int' into an index-sized integer")

def read_uint32_le : TxReader ℤ := do
  let value ← read_exact 4
  pure (natOfLE value.toList)

def read_uint64_le : TxReader ℤ := do
  let value ← read_exact 8
  pure (natOfLE value.toList)

/-- What `_read_varint` does with the prefix byte. -/
def read_varint_from (prefix_byte : ℕ) : TxReader ℕ :=
  if prefix_byte < 0xFD then pure prefix_byte
  else if prefix_byte = 0xFD then do
    let value ← read_exact 2
    pure (natOfLE value.toList)
  else if prefix_byte = 0xFE then do
    let value ← read_exact 4
    pure (natOfLE value.toList)
  else do
    let value ← read_exact 8
    pure (natOfLE value.toList)

def read_varint : TxReader ℕ := do
  let first ← read_exact 1
  read_varint_from (natOfLE first.toList)

/-- A byte string behind its length. -/
def read_var_bytes : TxReader PyBytes := do
  let len ← read_varint
  read_exact len

/-- The body of the loop over the inputs. -/
def read_input : TxReader TxInput := do
  let prev_txid_le ← read_exact 32
  let vout ← read_uint32_le
  let script_sig ← read_var_bytes
  let sequence ← read_uint32_le
  pure ⟨prev_txid_le, vout, script_sig, sequence, []⟩

/-- The body of the loop over the outputs. -/
def read_output : TxReader TxOutput := do
  let value_sats ← read_uint64_le
  let script_pubkey ← read_var_bytes
  pure ⟨value_sats, script_pubkey⟩

/-- The body of the loop over the witness stacks: the input with its stack. -/
def read_witness (txin : TxInput) : TxReader TxInput := do
  let item_count ← read_varint
  let witness_items ← readMany read_var_bytes item_count
  pure { txin with witness := witness_items }

/-- The loop over the inputs for their witness stacks, if the flag announced them. -/
def read_witnesses (has_witness : Bool) (inputs : List TxInput) : TxReader (List TxInput) :=
  if has_witness then readEach read_witness inputs else pure inputs

/-- The flag after a marker, and the input count after the flag. -/
def read_flag_and_count : TxReader (Bool × ℕ) := do
  let flag ← read_exact 1
  if flag.toList = [0x01] then
    let input_count ← read_varint
    pure (true, input_count)
  else throw (.TxFormatError "Invalid segwit transaction marker/flag.")

/-- Whether witnesses follow, and the input count: a first count of zero is the
segwit marker. -/
def read_input_count : TxReader (Bool × ℕ) := do
  let marker_or_input_count ← read_varint
  if marker_or_input_count = 0 then read_flag_and_count
  else pure (false, marker_or_input_count)

/-- `parse_transaction` from the first byte to the locktime. -/
def read_transaction : TxReader BitcoinTransaction := do
  let version ← read_uint32_le
  let count ← read_input_count
  let inputs ← readMany read_input count.2
  let output_count ← read_varint
  let outputs ← readMany read_output output_count
  let inputs ← read_witnesses count.1 inputs
  let locktime ← read_uint32_le
  pure ⟨version, inputs, outputs, locktime⟩

def parse_transaction (raw_tx_hex : String) : Except PyError BitcoinTransaction :=
  match fromhex raw_tx_hex with
  | none => throw (.TxFormatError "raw_tx_hex is not valid hex.")
  | some raw => do
    let (tx, remaining) ← read_transaction.run raw
    if remaining.isEmpty then pure tx
    else throw (.TxFormatError "Unexpected bytes after transaction end.")

/-! ## Combining pledges -/

def duplicate_input_message : String × ℤ → String
  | (txid, vout) => s!"Duplicate pledge input: {txid}:{vout}."

/-- The loop over the parsed pledges, with the outpoints seen so far. -/
def combine_inputs (first : BitcoinTransaction) :
    List BitcoinTransaction → List (String × ℤ) → Except PyError (List TxInput)
  | [], _ => pure []
  | tx :: parsed, seen_outpoints =>
    match tx.inputs with
    | [txin] =>
      if tx.outputs ≠ first.outputs then
        throw (.ValueError "All pledge transactions must have identical outputs.")
      else if tx.locktime ≠ first.locktime then
        throw (.ValueError "All pledge transactions must use the same locktime.")
      else if tx.version ≠ first.version then
        throw (.ValueError "All pledge transactions must use the same version.")
      else if txin.outpoint_key ∈ seen_outpoints then
        throw (.ValueError (duplicate_input_message txin.outpoint_key))
      else do
        let combined_inputs ← combine_inputs first parsed (txin.outpoint_key :: seen_outpoints)
        pure (txin :: combined_inputs)
    | _ => throw (.ValueError "Each signed pledge transaction must have exactly one input.")

def combine_anyonecanpay_pledges : List String → Except PyError String
  | [] => throw (.ValueError "At least one pledge transaction is required.")
  | raw :: raws => do
    let first ← parse_transaction raw
    let rest ← raws.mapM parse_transaction
    let combined_inputs ← combine_inputs first (first :: rest) []
    let final_tx : BitcoinTransaction :=
      ⟨first.version, combined_inputs, first.outputs, first.locktime⟩
    final_tx.to_hex

end Superorganism.Tx

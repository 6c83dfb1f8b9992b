/-
What a transaction id identifies.

`txid` hashes `serialize_without_witness`, a second serializer beside `serialize`. It writes what
`serialize` writes for the transaction with empty stacks, and its bytes tell everything but the
stacks: a number of fixed width, or a count and as many self-delimiting entries, can be taken off
the front of two equal texts alike. Unlike the whole format this one needs no input, for there is
no marker a zero count could be taken for. So a transaction id, as far as SHA-256 does not
collide, is the same exactly for transactions that differ in nothing but their witnesses.
-/
import Superorganism.TxRoundTrip

set_option autoImplicit false

open Superorganism.Bytes Superorganism.Py Superorganism.Format

namespace Superorganism.Tx

/-! ## Everything but the witnesses -/

/-- The transaction with every witness stack emptied. -/
def BitcoinTransaction.stripped (tx : BitcoinTransaction) : BitcoinTransaction :=
  { tx with inputs := tx.inputs.map TxInput.stripped }

/-- The inputs spend the same outpoint, with the same script and sequence. -/
def TxInput.Alike (a b : TxInput) : Prop :=
  a.prev_txid_le = b.prev_txid_le ∧ a.vout = b.vout ∧ a.script_sig = b.script_sig ∧
    a.sequence = b.sequence

/-- The transactions agree on everything but the witnesses. -/
structure BitcoinTransaction.Alike (a b : BitcoinTransaction) : Prop where
  version : a.version = b.version
  inputs : List.Forall₂ TxInput.Alike a.inputs b.inputs
  outputs : a.outputs = b.outputs
  locktime : a.locktime = b.locktime

theorem TxInput.stripped_eq_iff {a b : TxInput} : a.stripped = b.stripped ↔ a.Alike b := by
  simp only [TxInput.stripped, TxInput.Alike, TxInput.mk.injEq, and_true]

theorem BitcoinTransaction.stripped_eq_iff {a b : BitcoinTransaction} :
    a.stripped = b.stripped ↔ a.Alike b := by
  have hinputs : a.inputs.map TxInput.stripped = b.inputs.map TxInput.stripped ↔
      List.Forall₂ TxInput.Alike a.inputs b.inputs := by
    rw [← List.forall₂_eq_eq_eq, List.forall₂_map_left_iff, List.forall₂_map_right_iff]
    simp only [TxInput.stripped_eq_iff]
  simp only [BitcoinTransaction.stripped, BitcoinTransaction.mk.injEq, hinputs]
  constructor
  · rintro ⟨hversion, hin, hout, hlocktime⟩
    exact ⟨hversion, hin, hout, hlocktime⟩
  · intro h
    exact ⟨h.version, h.inputs, h.outputs, h.locktime⟩

/-! ## One serializer against the other -/

theorem BitcoinTransaction.has_witness_stripped (tx : BitcoinTransaction) :
    tx.stripped.has_witness = false := by
  rw [has_witness, stripped, List.any_map, List.any_eq_false]
  intro txin _
  simp [TxInput.stripped]

/-- The input loops of both serializers are the same, and never look at a stack. -/
theorem writeEach_stripped (inputs : List TxInput) :
    writeEach TxInput.serialize (inputs.map TxInput.stripped) =
      writeEach TxInput.serialize inputs := by
  induction inputs with
  | nil => rfl
  | cons txin inputs ih =>
      rw [List.map_cons, writeEach, writeEach, ih]
      rfl

/-- Without the witnesses is with the stacks emptied. -/
theorem serialize_without_witness_eq (tx : BitcoinTransaction) :
    tx.serialize_without_witness = tx.stripped.serialize := by
  rw [BitcoinTransaction.serialize, tx.has_witness_stripped]
  simp only [BitcoinTransaction.serialize_without_witness, BitcoinTransaction.stripped,
    List.length_map, writeEach_stripped, Bool.false_eq_true, if_false, pure_bind, List.append_nil]

/-! ## The bytes tell the transaction -/

/-- A transaction as `serialize_without_witness` writes it. -/
inductive StrippedWord : List UInt8 → BitcoinTransaction → Prop
  | mk {wv wc wi wo wx wl : List UInt8} {version locktime : ℤ} {inputs : List TxInput}
      {outputs : List TxOutput} :
      UIntLE 4 wv version → CompactSize wc inputs.length → Items InputWord wi inputs →
      CompactSize wo outputs.length → Items OutputWord wx outputs → UIntLE 4 wl locktime →
      StrippedWord (wv ++ (wc ++ (wi ++ (wo ++ (wx ++ wl))))) ⟨version, inputs, outputs, locktime⟩

/-- The fields are taken off the front one after the other. -/
theorem StrippedWord.eq {w w' : List UInt8} {tx tx' : BitcoinTransaction} (h : StrippedWord w tx)
    (h' : StrippedWord w' tx') (hw : w = w') : tx = tx' := by
  obtain ⟨hv, hc, hi, ho, hx, hl⟩ := h
  obtain ⟨hv', hc', hi', ho', hx', hl'⟩ := h'
  obtain ⟨rfl, hw⟩ := recognizes_read_uint32_le.split hv hv' hw
  obtain ⟨hcount, hw⟩ := recognizes_read_varint.split hc hc' hw
  obtain ⟨rfl, hw⟩ := (recognizes_readMany recognizes_read_input _).split ⟨hi, hcount⟩ ⟨hi', rfl⟩ hw
  obtain ⟨hcount, hw⟩ := recognizes_read_varint.split ho ho' hw
  obtain ⟨rfl, hw⟩ := (recognizes_readMany recognizes_read_output _).split ⟨hx, hcount⟩ ⟨hx', rfl⟩ hw
  obtain rfl := recognizes_read_uint32_le.eq hl hl' hw
  rfl

/-- A transaction in range is written, as a word for what it is without its witnesses. -/
theorem serialize_without_witness_word {tx : BitcoinTransaction} (hr : tx.InRange) :
    ∃ w, tx.serialize_without_witness = .ok w ∧ StrippedWord w tx.stripped := by
  obtain ⟨wv, hfv, hv, -⟩ := uint32_le_shortest hr.version
  obtain ⟨wc, hfc, hc, -⟩ := encode_varint_shortest hr.input_count
  obtain ⟨wi, hfi, hi, -⟩ :=
    writesShortest_writeEach fun txin hmem => TxInput.serialize_shortest (hr.inputs txin hmem)
  obtain ⟨wo, hfo, ho, -⟩ := encode_varint_shortest hr.output_count
  obtain ⟨wx, hfx, hx, -⟩ :=
    writesShortest_writeEach (g := id) fun txout hmem =>
      TxOutput.serialize_shortest (hr.outputs txout hmem)
  rw [List.map_id] at hx
  obtain ⟨wl, hfl, hl, -⟩ := uint32_le_shortest hr.locktime
  refine ⟨wv ++ (wc ++ (wi ++ (wo ++ (wx ++ wl)))), ?_, ?_⟩
  · rw [BitcoinTransaction.serialize_without_witness, hfv, hfc, hfi, hfo, hfx, hfl]
    simp only [ok_bind, List.append_assoc]
    rfl
  · exact StrippedWord.mk hv (by rwa [List.length_map]) hi ho hx hl

/-- Two transactions in range have the same bytes exactly if they differ in witnesses alone. -/
theorem serialize_without_witness_inj {tx tx' : BitcoinTransaction} (hr : tx.InRange)
    (hr' : tx'.InRange) :
    ∃ w w', tx.serialize_without_witness = .ok w ∧ tx'.serialize_without_witness = .ok w' ∧
      (w = w' ↔ tx.Alike tx') := by
  obtain ⟨w, hw, hword⟩ := serialize_without_witness_word hr
  obtain ⟨w', hw', hword'⟩ := serialize_without_witness_word hr'
  refine ⟨w, w', hw, hw', ?_⟩
  rw [← BitcoinTransaction.stripped_eq_iff]
  constructor
  · exact hword.eq hword'
  · intro h
    rw [serialize_without_witness_eq, h, ← serialize_without_witness_eq, hw'] at hw
    exact (Except.ok.inj hw).symm

/-! ## The transaction id -/

/-- Transactions that differ in witnesses alone have one id, whatever the hash function. -/
theorem txid_congr (sha256 : List UInt8 → List UInt8) {tx tx' : BitcoinTransaction}
    (h : tx.Alike tx') : tx.txid sha256 = tx'.txid sha256 := by
  rw [BitcoinTransaction.txid, BitcoinTransaction.txid, serialize_without_witness_eq,
    serialize_without_witness_eq, BitcoinTransaction.stripped_eq_iff.mpr h]

/-- **What a transaction id identifies.** Without its witnesses a transaction is written as
`serialize` writes it with empty stacks, and in range two of them are written alike exactly if
they agree on everything but the witnesses. So their ids are equal exactly then, unless SHA-256
collides on one of the texts that it is given for them; and new witnesses never change an id. -/
theorem txid_identifies :
    (∀ tx : BitcoinTransaction, tx.serialize_without_witness = tx.stripped.serialize) ∧
    (∀ tx tx' : BitcoinTransaction, tx.InRange → tx'.InRange →
      (∃ w w', tx.serialize_without_witness = .ok w ∧ tx'.serialize_without_witness = .ok w' ∧
        (w = w' ↔ tx.Alike tx')) ∧
      ∀ (sha256 : List UInt8 → List UInt8) (texts : Set (List UInt8)),
        Set.InjOn sha256 texts →
        (∀ w, tx.serialize_without_witness = .ok w ∨ tx'.serialize_without_witness = .ok w →
          w ∈ texts ∧ sha256 w ∈ texts) →
        ∃ id id', tx.txid sha256 = .ok id ∧ tx'.txid sha256 = .ok id' ∧
          (id = id' ↔ tx.Alike tx')) ∧
    ∀ (sha256 : List UInt8 → List UInt8) (tx tx' : BitcoinTransaction), tx.Alike tx' →
      tx.txid sha256 = tx'.txid sha256 := by
  refine ⟨serialize_without_witness_eq, fun tx tx' hr hr' => ?_, fun sha256 _ _ => txid_congr sha256⟩
  refine ⟨serialize_without_witness_inj hr hr', fun sha256 texts hinj htexts => ?_⟩
  obtain ⟨w, w', hw, hw', hiff⟩ := serialize_without_witness_inj hr hr'
  obtain ⟨hmem, hdigest⟩ := htexts w (.inl hw)
  obtain ⟨hmem', hdigest'⟩ := htexts w' (.inr hw')
  refine ⟨hex (sha256 (sha256 w)).reverse, hex (sha256 (sha256 w')).reverse, ?_, ?_, ?_⟩
  · rw [BitcoinTransaction.txid, hw]
    rfl
  · rw [BitcoinTransaction.txid, hw']
    rfl
  · rw [hex_injective.eq_iff, List.reverse_inj, hinj.eq_iff hdigest hdigest', hinj.eq_iff hmem hmem',
      hiff]

/-- The bytes of `mixedTransaction` without its witness. -/
def mixedBytes : List UInt8 :=
  [2, 0, 0, 0, 2] ++ List.replicate 32 0x11 ++ [0, 0, 0, 0, 0, 0xFD, 0xFF, 0xFF, 0xFF] ++
    List.replicate 32 0x22 ++ [1, 0, 0, 0, 1, 0x51, 0xFD, 0xFF, 0xFF, 0xFF, 1] ++
    [0x50, 0xC3, 0, 0, 0, 0, 0, 0, 1, 0x51, 0, 0, 0, 0]

/-- SHA-256 of the bytes of `mixedTransaction`. -/
def mixedDigest : List UInt8 :=
    [0x82, 0x61, 0x37, 0x7b, 0x65, 0x71, 0x20, 0xc8, 0x40, 0x7a, 0xe1, 0xa1, 0x75, 0xa5, 0xed, 0xdb,
      0x8f, 0x01, 0x5c, 0xc9, 0x60, 0x91, 0x7d, 0x4b, 0xfc, 0x13, 0x3d, 0x75, 0xea, 0x64, 0x46, 0x03]

/-- SHA-256 on these bytes and on their digest; other texts stand for themselves. -/
def mixedSha256 (text : List UInt8) : List UInt8 :=
  if text = mixedBytes then mixedDigest
  else if text = mixedDigest then
    [0x01, 0x25, 0x43, 0xbe, 0x06, 0x2b, 0x1c, 0x56, 0x13, 0xf8, 0x1f, 0x8a, 0xcd, 0x4d, 0x90, 0x50,
      0x18, 0x96, 0x21, 0x15, 0x81, 0xbc, 0x7e, 0xa0, 0x40, 0xb2, 0x10, 0xbe, 0x5e, 0x9c, 0xb8, 0x7a]
  else text

/-- `mixedTransaction` with another signature. -/
def resignedTransaction : BitcoinTransaction :=
  { mixedTransaction with
    inputs := mixedTransaction.inputs.map fun txin =>
      if txin.witness = [] then txin
      else { txin with witness := [⟨[0xBB, 0xCC], by decide +kernel⟩] } }

theorem resignedTransaction_inRange : resignedTransaction.InRange := by
  refine ⟨by decide, by decide, by decide +kernel, by decide +kernel, ?_, by decide⟩
  intro txin htxin
  obtain ⟨txin, hmixed, rfl⟩ := List.mem_map.mp htxin
  simp only [mixedTransaction, List.mem_cons, List.not_mem_nil, or_false] at hmixed
  rcases hmixed with rfl | rfl
  · exact ⟨by decide, by decide, by decide, by decide +kernel⟩
  · exact ⟨by decide, by decide, by decide, by decide +kernel⟩

/-- Two signatures, one id. -/
theorem txid_identifies_resigned :
    mixedTransaction.txid mixedSha256 =
        .ok "7ab89c5ebe10b240a07ebc811521961850904dcd8a1ff813561c2b06be432501" ∧
      ∃ id id', mixedTransaction.txid mixedSha256 = .ok id ∧
        resignedTransaction.txid mixedSha256 = .ok id' ∧
        (id = id' ↔ mixedTransaction.Alike resignedTransaction) := by
  refine ⟨by decide +kernel, (txid_identifies.2.1 mixedTransaction resignedTransaction
    mixedTransaction_inRange resignedTransaction_inRange).2 mixedSha256 {mixedBytes, mixedDigest}
    ?_ fun w hw => ?_⟩
  · have hdigest : mixedSha256 mixedBytes ≠ mixedSha256 mixedDigest := by decide +kernel
    rintro a (rfl | rfl) b (rfl | rfl) h
    · rfl
    · exact absurd h hdigest
    · exact absurd h.symm hdigest
    · rfl
  · have hbytes : mixedTransaction.serialize_without_witness = .ok mixedBytes ∧
        resignedTransaction.serialize_without_witness = .ok mixedBytes := by decide +kernel
    rw [hbytes.1, hbytes.2, or_self] at hw
    obtain rfl := Except.ok.inj hw
    exact ⟨.inl rfl, .inr (by decide +kernel)⟩

end Superorganism.Tx

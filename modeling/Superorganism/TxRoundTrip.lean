/-
The serializer against the grammar: every transaction whose fields are in range
serializes to a word that denotes it, and no other word for the same transaction
is shorter.

With `TxGrammar` this is the round trip in both directions. A transaction with an
input parses back from its own text; a transaction that came out of the parser
parses back again, from a text that is at most as long as the one it came from:
compact sizes are written in their shortest form, and marker, flag and stacks are
dropped when every stack is empty.

At least one input is needed. A transaction without inputs is written with a zero
count, and a zero count is read as the segwit marker.
-/
import Superorganism.TxGrammar

set_option autoImplicit false

open Superorganism.Bytes Superorganism.Py Superorganism.Format

namespace Superorganism.Tx

/-! ## Fields in range -/

/-- A 32-byte transaction id, 32-bit output index and sequence, and a stack whose
length a compact size can hold. -/
structure TxInput.InRange (txin : TxInput) : Prop where
  txid : txin.prev_txid_le.length = 32
  vout : 0 ≤ txin.vout ∧ txin.vout < 2 ^ 32
  sequence : 0 ≤ txin.sequence ∧ txin.sequence < 2 ^ 32
  witness : txin.witness.length < 2 ^ 64

/-- 32-bit version and locktime, 64-bit values, lengths below `2 ^ 64`. The length of
a script or a witness item is below that bound by its type. -/
structure BitcoinTransaction.InRange (tx : BitcoinTransaction) : Prop where
  version : 0 ≤ tx.version ∧ tx.version < 2 ^ 32
  locktime : 0 ≤ tx.locktime ∧ tx.locktime < 2 ^ 32
  input_count : tx.inputs.length < 2 ^ 64
  output_count : tx.outputs.length < 2 ^ 64
  inputs : ∀ txin ∈ tx.inputs, txin.InRange
  outputs : ∀ txout ∈ tx.outputs, 0 ≤ txout.value_sats ∧ txout.value_sats < 2 ^ 64

/-! ## Integers -/

/-- A fixed-width word denotes a number of that width. -/
theorem UIntLE.range {k : ℕ} {w : List UInt8} {n : ℤ} (h : UIntLE k w n) :
    0 ≤ n ∧ n < 256 ^ k := by
  obtain ⟨rfl, rfl⟩ := h
  have := natOfLE_lt w
  exact ⟨Int.natCast_nonneg _, by exact_mod_cast this⟩

theorem UIntLE.range32 {w : List UInt8} {n : ℤ} (h : UIntLE 4 w n) : 0 ≤ n ∧ n < 2 ^ 32 := by
  have := h.range
  omega

theorem UIntLE.range64 {w : List UInt8} {n : ℤ} (h : UIntLE 8 w n) : 0 ≤ n ∧ n < 2 ^ 64 := by
  have := h.range
  omega

/-- The width-`k` encoding of a number in range is a word for it. -/
theorem uintLE_leOfNat {k : ℕ} {n : ℤ} (h0 : 0 ≤ n) (hn : n < 256 ^ k) :
    UIntLE k (leOfNat k n.toNat) n := by
  refine ⟨leOfNat_length k _, ?_⟩
  have hlt : n.toNat < 256 ^ k := by
    have : (n.toNat : ℤ) < 256 ^ k := by rw [Int.toNat_of_nonneg h0]; exact hn
    exact_mod_cast this
  rw [natOfLE_leOfNat k _ hlt, Int.toNat_of_nonneg h0]

/-- Two words for the same fixed-width number have the same length. -/
private theorem uintLE_shortest {k : ℕ} {n : ℤ} (h0 : 0 ≤ n) (hn : n < 256 ^ k) :
    UIntLE k (leOfNat k n.toNat) n ∧
      ∀ w', UIntLE k w' n → (leOfNat k n.toNat).length ≤ w'.length :=
  ⟨uintLE_leOfNat h0 hn, fun w' hw' => by rw [leOfNat_length, hw'.1]⟩

theorem uint32_le_shortest {n : ℤ} (h : 0 ≤ n ∧ n < 2 ^ 32) :
    WritesShortest uint32_le (UIntLE 4) n n := by
  refine ⟨leOfNat 4 n.toNat, ?_, uintLE_shortest h.1 (by omega)⟩
  rw [uint32_le, if_neg (by omega)]
  rfl

theorem uint64_le_shortest {n : ℤ} (h : 0 ≤ n ∧ n < 2 ^ 64) :
    WritesShortest uint64_le (UIntLE 8) n n := by
  refine ⟨leOfNat 8 n.toNat, ?_, uintLE_shortest h.1 (by omega)⟩
  rw [uint64_le, if_neg (by omega)]
  rfl

theorem CompactSize.lt {w : List UInt8} {n : ℕ} (h : CompactSize w n) : n < 2 ^ 64 := by
  cases h with
  | one b hb => omega
  | two w hw => have := natOfLE_lt w; rw [hw] at this; omega
  | four w hw => have := natOfLE_lt w; rw [hw] at this; omega
  | eight w hw => have := natOfLE_lt w; rw [hw] at this; omega

theorem CompactSize.length_pos {w : List UInt8} {n : ℕ} (h : CompactSize w n) : 1 ≤ w.length := by
  cases h <;> simp

/-- `encode_varint` writes a compact size, the shortest there is. -/
theorem encode_varint_shortest {n : ℕ} (hn : n < 2 ^ 64) :
    WritesShortest encode_varint CompactSize n n := by
  -- how small a number of each width has to be
  have hmin : ∀ w', CompactSize w' n →
      (w'.length = 1 ∧ n < 0xFD) ∨ (w'.length = 3 ∧ n < 2 ^ 16) ∨
      (w'.length = 5 ∧ n < 2 ^ 32) ∨ w'.length = 9 := by
    intro w' h
    cases h with
    | one b hb => exact .inl ⟨rfl, hb⟩
    | two w hw => have := natOfLE_lt w; rw [hw] at this; simp [hw]; omega
    | four w hw => have := natOfLE_lt w; rw [hw] at this; simp [hw]; omega
    | eight w hw => simp [hw]
  have hcast : (n : ℤ).toNat = n := Int.toNat_natCast n
  rw [WritesShortest, encode_varint, if_neg (by omega), hcast]
  by_cases h1 : n < 0xFD
  · refine ⟨[UInt8.ofNat n], by rw [if_pos (by omega)]; rfl, ?_, ?_⟩
    · have hval : (UInt8.ofNat n).toNat = n := by rw [UInt8.toNat_ofNat']; omega
      have := CompactSize.one (UInt8.ofNat n) (by omega)
      rwa [hval] at this
    · intro w' h
      have := hmin w' h
      simp only [List.length_singleton]
      omega
  rw [if_neg (by omega)]
  by_cases h2 : n ≤ 0xFFFF
  · refine ⟨0xFD :: leOfNat 2 n, by rw [if_pos (by omega)]; rfl, ?_, ?_⟩
    · have := CompactSize.two (leOfNat 2 n) (leOfNat_length 2 n)
      rwa [natOfLE_leOfNat 2 n (by omega)] at this
    · intro w' h
      have := hmin w' h
      simp only [List.length_cons, leOfNat_length]
      omega
  rw [if_neg (by omega)]
  by_cases h3 : n ≤ 0xFFFFFFFF
  · refine ⟨0xFE :: leOfNat 4 n, by rw [if_pos (by omega)]; rfl, ?_, ?_⟩
    · have := CompactSize.four (leOfNat 4 n) (leOfNat_length 4 n)
      rwa [natOfLE_leOfNat 4 n (by omega)] at this
    · intro w' h
      have := hmin w' h
      simp only [List.length_cons, leOfNat_length]
      omega
  rw [if_neg (by omega), if_pos (by omega)]
  refine ⟨0xFF :: leOfNat 8 n, rfl, ?_, ?_⟩
  · have := CompactSize.eight (leOfNat 8 n) (leOfNat_length 8 n)
    rwa [natOfLE_leOfNat 8 n (by omega)] at this
  · intro w' h
    have := hmin w' h
    simp only [List.length_cons, leOfNat_length]
    omega

/-! ## Inputs, outputs and stacks -/

theorem var_bytes_shortest (d : PyBytes) : WritesShortest var_bytes VarBytes d d := by
  obtain ⟨wn, hf, hn, hmin⟩ := encode_varint_shortest d.length_lt
  refine ⟨wn ++ d.toList, ?_, VarBytes.mk hn, ?_⟩
  · rw [var_bytes, hf]
    rfl
  · rintro w' ⟨hn'⟩
    have := hmin _ hn'
    rw [List.length_append, List.length_append]
    omega

/-- An input as the input loop of the parser returns it. -/
def TxInput.stripped (txin : TxInput) : TxInput := { txin with witness := [] }

theorem TxInput.serialize_shortest {txin : TxInput} (h : txin.InRange) :
    WritesShortest TxInput.serialize InputWord txin txin.stripped := by
  obtain ⟨wv, hfv, hv, hvmin⟩ := uint32_le_shortest h.vout
  obtain ⟨ws, hfs, hs, hsmin⟩ := var_bytes_shortest txin.script_sig
  obtain ⟨wq, hfq, hq, hqmin⟩ := uint32_le_shortest h.sequence
  refine ⟨txin.prev_txid_le.toList ++ wv ++ ws ++ wq, ?_, InputWord.mk h.txid hv hs hq, ?_⟩
  · rw [TxInput.serialize, hfv, hfs, hfq]
    rfl
  · rintro w' hw'
    generalize hb : txin.stripped = b at hw'
    cases hw' with
    | mk ht' hv' hs' hq' =>
        cases hb
        have := hvmin _ hv'
        have := hsmin _ hs'
        have := hqmin _ hq'
        simp only [List.length_append]
        omega

theorem TxOutput.serialize_shortest {txout : TxOutput}
    (h : 0 ≤ txout.value_sats ∧ txout.value_sats < 2 ^ 64) :
    WritesShortest TxOutput.serialize OutputWord txout txout := by
  obtain ⟨wv, hfv, hv, hvmin⟩ := uint64_le_shortest h
  obtain ⟨ws, hfs, hs, hsmin⟩ := var_bytes_shortest txout.script_pubkey
  refine ⟨wv ++ ws, ?_, OutputWord.mk hv hs, ?_⟩
  · rw [TxOutput.serialize, hfv, hfs]
    rfl
  · rintro w' ⟨hv', hs'⟩
    have := hvmin _ hv'
    have := hsmin _ hs'
    rw [List.length_append, List.length_append]
    omega

theorem TxInput.serialize_witness_shortest {txin : TxInput} (h : txin.witness.length < 2 ^ 64) :
    WritesShortest TxInput.serialize_witness WitnessWord txin txin.witness := by
  obtain ⟨wc, hfc, hc, hcmin⟩ := encode_varint_shortest h
  obtain ⟨wi, hfi, hi, himin⟩ :=
    writesShortest_writeEach (g := id) fun d (_ : d ∈ txin.witness) => var_bytes_shortest d
  rw [List.map_id] at hi himin
  refine ⟨wc ++ wi, ?_, WitnessWord.mk hc hi, ?_⟩
  · rw [TxInput.serialize_witness, hfc, hfi]
    rfl
  · rintro w' ⟨hc', hi'⟩
    have := hcmin _ hc'
    have := himin _ hi'
    rw [List.length_append, List.length_append]
    omega

/-! ## The whole transaction -/

/-- Without a witness the inputs are what the input loop returns. -/
theorem map_stripped_of_no_witness {tx : BitcoinTransaction} (h : tx.has_witness = false) :
    tx.inputs.map TxInput.stripped = tx.inputs := by
  rw [BitcoinTransaction.has_witness, List.any_eq_false] at h
  have hid : ∀ txin ∈ tx.inputs, txin.stripped = id txin := by
    intro txin hmem
    have hnil : txin.witness = [] := by simpa using h txin hmem
    cases txin
    simp only [TxInput.stripped, id] at hnil ⊢
    rw [hnil]
  rw [List.map_congr_left hid, List.map_id]

/-- The input loop returns inputs without witnesses. -/
theorem map_stripped_of_items {w : List UInt8} {inputs : List TxInput}
    (h : Items InputWord w inputs) : inputs.map TxInput.stripped = inputs := by
  induction h with
  | nil => rfl
  | cons hu _ ih =>
      rw [List.map_cons, ih]
      cases hu
      rfl

theorem attachWitness_length {inputs : List TxInput} {witnesses : List (List PyBytes)}
    (h : witnesses.length = inputs.length) :
    (attachWitness inputs witnesses).length = inputs.length := by
  rw [attachWitness, List.length_zipWith, h, min_self]

/-- Attaching stacks changes nothing but the stacks, which become the given ones. -/
theorem attachWitness_map {inputs : List TxInput} {witnesses : List (List PyBytes)}
    (h : witnesses.length = inputs.length) :
    (attachWitness inputs witnesses).map TxInput.stripped = inputs.map TxInput.stripped ∧
      (attachWitness inputs witnesses).map TxInput.witness = witnesses := by
  induction inputs generalizing witnesses with
  | nil =>
      obtain rfl : witnesses = [] := List.length_eq_zero_iff.mp h
      exact ⟨rfl, rfl⟩
  | cons txin inputs ih =>
      cases witnesses with
      | nil => simp at h
      | cons items witnesses =>
          have hlen : witnesses.length = inputs.length := by simpa using h
          obtain ⟨h1, h2⟩ := ih hlen
          simp only [attachWitness, List.zipWith_cons_cons, List.map_cons] at h1 h2 ⊢
          rw [h1, h2]
          exact ⟨rfl, rfl⟩

/-- Inputs are their stripped form with their own stacks attached. -/
theorem attachWitness_self (inputs : List TxInput) :
    attachWitness (inputs.map TxInput.stripped) (inputs.map TxInput.witness) = inputs := by
  induction inputs with
  | nil => rfl
  | cons txin inputs ih =>
      simp only [attachWitness, List.map_cons, List.zipWith_cons_cons] at ih ⊢
      rw [ih]
      rfl

/-- What every word for a transaction contains, whichever of the two forms it has:
the shared fields, and in the segwit form two more bytes and the stacks. -/
theorem TxWord.parts {w : List UInt8} {tx : BitcoinTransaction} (h : TxWord w tx) :
    ∃ wv wc wi wo wx wl rest,
      UIntLE 4 wv tx.version ∧ CompactSize wc tx.inputs.length ∧
      Items InputWord wi (tx.inputs.map TxInput.stripped) ∧
      CompactSize wo tx.outputs.length ∧ Items OutputWord wx tx.outputs ∧
      UIntLE 4 wl tx.locktime ∧
      w.length = wv.length + wc.length + wi.length + wo.length + wx.length + wl.length + rest ∧
      ((∀ txin ∈ tx.inputs, txin.witness = []) ∨
        ∃ ww, Items WitnessWord ww (tx.inputs.map TxInput.witness) ∧ 2 + ww.length ≤ rest) := by
  cases h with
  | @legacy wv wc wi wo wx wl _ _ _ _ hv hc hne hi ho hx hl =>
      -- no stack is written, and the inputs that are read have none
      have hstrip := map_stripped_of_items hi
      refine ⟨wv, wc, wi, wo, wx, wl, 0, hv, hc, hstrip.symm ▸ hi, ho, hx, hl, ?_, .inl ?_⟩
      · simp only [List.length_append]
        omega
      · intro txin hmem
        rw [← hstrip] at hmem
        obtain ⟨txin', -, rfl⟩ := List.mem_map.mp hmem
        rfl
  | @segwit wv wz wc wi wo wx ww wl _ _ inputs _ witnesses hv hz hc hi ho hx hw hn hl =>
      -- the stacks are attached after the inputs are read without them
      obtain ⟨h1, h2⟩ := attachWitness_map hn
      have hzlen := hz.length_pos
      refine ⟨wv, wc, wi, wo, wx, wl, wz.length + 1 + ww.length, hv, ?_, ?_, ho, hx, hl, ?_,
        .inr ⟨ww, ?_, by omega⟩⟩
      · rwa [attachWitness_length hn]
      · rwa [h1, map_stripped_of_items hi]
      · simp only [List.length_append, List.length_singleton]
        omega
      · rwa [h2]

/-- **Serialization is a shortest word for the transaction.** -/
theorem serialize_shortest {tx : BitcoinTransaction} (hr : tx.InRange) (hne : tx.inputs ≠ []) :
    WritesShortest BitcoinTransaction.serialize TxWord tx tx := by
  obtain ⟨wv, hfv, hv, hvmin⟩ := uint32_le_shortest hr.version
  obtain ⟨wc, hfc, hc, hcmin⟩ := encode_varint_shortest hr.input_count
  obtain ⟨wi, hfi, hi, himin⟩ :=
    writesShortest_writeEach fun txin hmem => TxInput.serialize_shortest (hr.inputs txin hmem)
  obtain ⟨wo, hfo, ho, homin⟩ := encode_varint_shortest hr.output_count
  obtain ⟨wx, hfx, hx, hxmin⟩ :=
    writesShortest_writeEach (g := id) fun txout hmem =>
      TxOutput.serialize_shortest (hr.outputs txout hmem)
  rw [List.map_id] at hx hxmin
  obtain ⟨ww, hfw, hw, hwmin⟩ :=
    writesShortest_writeEach fun txin hmem =>
      TxInput.serialize_witness_shortest (hr.inputs txin hmem).witness
  obtain ⟨wl, hfl, hl, hlmin⟩ := uint32_le_shortest hr.locktime
  have hpos : tx.inputs.length ≠ 0 := fun h => hne (List.length_eq_zero_iff.mp h)
  -- each part is written shortest, and every word has these parts
  cases hwit : tx.has_witness with
  | false =>
      have hstrip := map_stripped_of_no_witness hwit
      refine ⟨wv ++ wc ++ wi ++ wo ++ wx ++ wl, ?_, ?_, ?_⟩
      · rw [BitcoinTransaction.serialize, hfv, hfc, hfi, hfo, hfx, hfl, hwit]
        simp [bind, Except.bind, pure, Except.pure]
      · rw [hstrip] at hi
        exact TxWord.legacy hv hc hpos hi ho hx hl
      · intro w' hw'
        obtain ⟨wv', wc', wi', wo', wx', wl', rest, hv', hc', hi', ho', hx', hl', hlen, -⟩ := hw'.parts
        have := hvmin _ hv'
        have := hcmin _ hc'
        have := himin _ hi'
        have := homin _ ho'
        have := hxmin _ hx'
        have := hlmin _ hl'
        simp only [List.length_append]
        omega
  | true =>
      refine ⟨wv ++ [0x00] ++ [0x01] ++ wc ++ wi ++ wo ++ wx ++ ww ++ wl, ?_, ?_, ?_⟩
      · rw [BitcoinTransaction.serialize, hfv, hfc, hfi, hfo, hfx, hfw, hfl, hwit]
        simp [bind, Except.bind, pure, Except.pure]
      · have hz : CompactSize [0x00] 0 := CompactSize.one 0x00 (by decide)
        have hword := TxWord.segwit hv hz (by rwa [List.length_map]) hi ho hx hw
          (by simp only [List.length_map]) hl
        rwa [attachWitness_self] at hword
      · intro w' hw'
        obtain ⟨wv', wc', wi', wo', wx', wl', rest, hv', hc', hi', ho', hx', hl', hlen, hrest⟩ :=
          hw'.parts
        rcases hrest with hnil | ⟨ww', hw'', hrest⟩
        · -- the legacy form has no room for a stack
          rw [BitcoinTransaction.has_witness, List.any_eq_true] at hwit
          obtain ⟨txin, hmem, hwit⟩ := hwit
          rw [hnil txin hmem] at hwit
          cases hwit
        · have := hvmin _ hv'
          have := hcmin _ hc'
          have := himin _ hi'
          have := homin _ ho'
          have := hxmin _ hx'
          have := hwmin _ hw''
          have := hlmin _ hl'
          simp only [List.length_append, List.length_singleton]
          omega

/-! ## What the parser returns is in range -/

theorem InputWord.inRange {w : List UInt8} {txin : TxInput} (h : InputWord w txin)
    {items : List PyBytes} (hw : items.length < 2 ^ 64) :
    ({ txin with witness := items } : TxInput).InRange := by
  cases h with
  | mk ht hv hs hq => exact ⟨ht, hv.range32, hq.range32, hw⟩

/-- A property of the words of a format holds of every element of a repetition. -/
theorem items_forall {α : Type} {F : Lang UInt8 α} {P : α → Prop} {w : List UInt8} {xs : List α}
    (h : Items F w xs) (hP : ∀ u x, F u x → P x) : ∀ x ∈ xs, P x := by
  induction h with
  | nil => intro x hx; cases hx
  | cons hu _ ih =>
      intro y hy
      rcases List.mem_cons.mp hy with rfl | hy
      · exact hP _ _ hu
      · exact ih y hy

theorem TxWord.inRange {w : List UInt8} {tx : BitcoinTransaction} (h : TxWord w tx) :
    tx.InRange := by
  obtain ⟨wv, wc, wi, wo, wx, wl, rest, hv, hc, hi, ho, hx, hl, -, hwit⟩ := h.parts
  refine ⟨hv.range32, hl.range32, hc.lt, ho.lt, ?_, ?_⟩
  · intro txin hmem
    have hstack : txin.witness.length < 2 ^ 64 := by
      rcases hwit with hnil | ⟨ww, hw, -⟩
      · rw [hnil txin hmem]
        norm_num
      · refine items_forall (P := fun items => items.length < 2 ^ 64) hw ?_ _
          (List.mem_map_of_mem hmem)
        rintro u items ⟨hc, -⟩
        exact hc.lt
    have hstrip : ∀ items : List PyBytes, items.length < 2 ^ 64 →
        ({ txin.stripped with witness := items } : TxInput).InRange := by
      refine items_forall (P := fun t => ∀ items : List PyBytes, items.length < 2 ^ 64 →
        ({ t with witness := items } : TxInput).InRange) hi ?_ _ (List.mem_map_of_mem hmem)
      exact fun u t ht items hlt => ht.inRange hlt
    exact hstrip txin.witness hstack
  · refine items_forall hx ?_
    rintro u txout ⟨hv, -⟩
    exact hv.range64

/-! ## The round trip -/

/-- Every transaction with an input and fields in range parses back from its text. -/
theorem parse_to_hex {tx : BitcoinTransaction} (hr : tx.InRange) (hne : tx.inputs ≠ []) :
    ∃ text, tx.to_hex = .ok text ∧ parse_transaction text = .ok tx := by
  obtain ⟨w, hser, hword, -⟩ := serialize_shortest hr hne
  refine ⟨hex w, ?_, ?_⟩
  · rw [BitcoinTransaction.to_hex, hser]
    rfl
  · exact (parse_transaction_eq_ok _ _).mpr ⟨w, fromhex_hex w, hword⟩

/-- **Round trip.** A transaction with an input and fields in range parses back from its
own text. A transaction with an input that came out of the parser does so too, and its
serialization is no longer than the bytes it was parsed from. -/
theorem transaction_round_trip :
    (∀ tx : BitcoinTransaction, tx.InRange → tx.inputs ≠ [] →
      ∃ text, tx.to_hex = .ok text ∧ parse_transaction text = .ok tx) ∧
    (∀ h tx, parse_transaction h = .ok tx → tx.inputs ≠ [] →
      (∃ text, tx.to_hex = .ok text ∧ parse_transaction text = .ok tx) ∧
      ∃ raw w, fromhex h = some raw ∧ tx.serialize = .ok w ∧ w.length ≤ raw.length) := by
  refine ⟨fun tx hr hne => parse_to_hex hr hne, fun h tx hparse hne => ?_⟩
  obtain ⟨raw, hraw, hword⟩ := (parse_transaction_eq_ok h tx).mp hparse
  refine ⟨parse_to_hex hword.inRange hne, ?_⟩
  obtain ⟨w, hser, -, hmin⟩ := serialize_shortest hword.inRange hne
  exact ⟨raw, w, hraw, hser, hmin raw hword⟩

/-- A transaction with one witness input and one without. -/
def mixedTransaction : BitcoinTransaction where
  version := 2
  inputs := [
    ⟨⟨List.replicate 32 0x11, by decide +kernel⟩, 0, ⟨[], by decide +kernel⟩, 0xFFFFFFFD,
      [⟨[0xAA], by decide +kernel⟩]⟩,
    ⟨⟨List.replicate 32 0x22, by decide +kernel⟩, 1, ⟨[0x51], by decide +kernel⟩, 0xFFFFFFFD, []⟩]
  outputs := [⟨50000, ⟨[0x51], by decide +kernel⟩⟩]
  locktime := 0

theorem mixedTransaction_inRange : mixedTransaction.InRange := by
  refine ⟨by decide, by decide, by decide +kernel, by decide +kernel, ?_, by decide⟩
  intro txin htxin
  simp only [mixedTransaction, List.mem_cons, List.not_mem_nil, or_false] at htxin
  rcases htxin with rfl | rfl
  · exact ⟨by decide, by decide, by decide, by decide +kernel⟩
  · exact ⟨by decide, by decide, by decide, by decide +kernel⟩

/-- The mixed transaction, and a text whose input count is not in its shortest form. -/
theorem transaction_round_trip_mixed :
    (∃ text, mixedTransaction.to_hex = .ok text ∧
      parse_transaction text = .ok mixedTransaction) ∧
    ∃ tx text, parse_transaction (hex ([2, 0, 0, 0, 0xFD, 1, 0] ++ List.replicate 32 0x11 ++
        [0, 0, 0, 0, 0, 0xFD, 0xFF, 0xFF, 0xFF, 0, 0, 0, 0, 0])) = .ok tx ∧
      tx.to_hex = .ok text ∧ parse_transaction text = .ok tx := by
  refine ⟨transaction_round_trip.1 mixedTransaction mixedTransaction_inRange (by decide), ?_⟩
  have hparse : parse_transaction (hex ([2, 0, 0, 0, 0xFD, 1, 0] ++ List.replicate 32 0x11 ++
      [0, 0, 0, 0, 0, 0xFD, 0xFF, 0xFF, 0xFF, 0, 0, 0, 0, 0])) =
      .ok ⟨2, [⟨⟨List.replicate 32 0x11, by decide +kernel⟩, 0, ⟨[], by decide +kernel⟩,
        0xFFFFFFFD, []⟩], [], 0⟩ := by
    rw [parse_transaction, fromhex_hex]
    decide +kernel
  obtain ⟨⟨text, htext, hback⟩, -⟩ := transaction_round_trip.2 _ _ hparse (by decide)
  exact ⟨_, text, hparse, htext, hback⟩

end Superorganism.Tx

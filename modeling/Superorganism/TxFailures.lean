/-
What `parse_transaction` does with a text it does not accept.

A length that a transaction declares is handed to `BytesIO.read` as it stands. One that no
`bytes` object can have makes the read raise an `OverflowError`; one that is only larger than
what is left makes it come back short, and the parser raises its `TxFormatError`. So the
streams on which the parser fails with anything else are those that are a transaction up to
such a length (`Oversized`), and nothing behind the length matters.

The loops run as often as the input says. Every turn reads at least one byte, so there are
never more turns than bytes, whatever the counts declare.
-/
import Superorganism.TxGrammar
import Superorganism.Readers

set_option autoImplicit false

open Superorganism.Bytes Superorganism.Py Superorganism.Format

namespace Superorganism.Tx

/-! ## Transactions cut off behind a length that cannot be read -/

/-- A length beyond `sys.maxsize`. -/
def OversizedLength (w : List UInt8) : Prop := ∃ n, CompactSize w n ∧ sys_maxsize < n

/-- An input up to the length of its script. -/
inductive OversizedInput : List UInt8 → Prop
  | mk {txid wv ws : List UInt8} (ht : txid.length = 32) (hv : wv.length = 4)
      (hs : OversizedLength ws) : OversizedInput (txid ++ wv ++ ws)

/-- An output up to the length of its script. -/
inductive OversizedOutput : List UInt8 → Prop
  | mk {wv ws : List UInt8} (hv : wv.length = 8) (hs : OversizedLength ws) :
      OversizedOutput (wv ++ ws)

/-- A witness stack up to the length of one of its items. -/
inductive OversizedWitness : List UInt8 → Prop
  | mk {wc wi ws : List UInt8} {item_count : ℕ} {items : List PyBytes}
      (hc : CompactSize wc item_count) (hi : Items VarBytes wi items)
      (hlt : items.length < item_count) (hs : OversizedLength ws) :
      OversizedWitness (wc ++ wi ++ ws)

/-- The input count, and whether it stands behind marker and flag. -/
inductive InputCount : List UInt8 → Bool × ℕ → Prop
  | plain {wc : List UInt8} {n : ℕ} (hc : CompactSize wc n) (hn : n ≠ 0) : InputCount wc (false, n)
  | segwit {wz wc : List UInt8} {n : ℕ} (hz : CompactSize wz 0) (hc : CompactSize wc n) :
      InputCount (wz ++ [0x01] ++ wc) (true, n)

/-- A transaction up to the length of a script or of a witness item, that length being one
that cannot be read. -/
inductive Oversized : List UInt8 → Prop
  | input {wv wc wi w : List UInt8} {has_witness : Bool} {input_count : ℕ} {inputs : List TxInput}
      (hv : wv.length = 4) (hc : InputCount wc (has_witness, input_count))
      (hi : Items InputWord wi inputs) (hlt : inputs.length < input_count)
      (hw : OversizedInput w) :
      Oversized (wv ++ wc ++ wi ++ w)
  | output {wv wc wi wo wx w : List UInt8} {has_witness : Bool} {output_count : ℕ}
      {inputs : List TxInput} {outputs : List TxOutput}
      (hv : wv.length = 4) (hc : InputCount wc (has_witness, inputs.length))
      (hi : Items InputWord wi inputs)
      (ho : CompactSize wo output_count) (hx : Items OutputWord wx outputs)
      (hlt : outputs.length < output_count) (hw : OversizedOutput w) :
      Oversized (wv ++ wc ++ wi ++ wo ++ wx ++ w)
  | witness {wv wc wi wo wx ww w : List UInt8} {inputs : List TxInput} {outputs : List TxOutput}
      {witnesses : List (List PyBytes)}
      (hv : wv.length = 4) (hc : InputCount wc (true, inputs.length))
      (hi : Items InputWord wi inputs)
      (ho : CompactSize wo outputs.length) (hx : Items OutputWord wx outputs)
      (hs : Items WitnessWord ww witnesses) (hlt : witnesses.length < inputs.length)
      (hw : OversizedWitness w) :
      Oversized (wv ++ wc ++ wi ++ wo ++ wx ++ ww ++ w)

/-! ## Where the readers break -/

/-- An exception other than the parser's own. -/
def NotTxFormat (e : PyError) : Prop := ∀ message, e ≠ .TxFormatError message

theorem breaks_read_exact (size : ℕ) :
    Breaks (read_exact size) NotTxFormat fun w => w = [] ∧ sys_maxsize < size := by
  intro s
  simp only [StateT.run, read_exact]
  constructor
  · rintro ⟨e, he, hP⟩
    -- a size within bounds: all bytes or the short read, which is the parser's own exception
    split at he
    · split at he
      · cases he
      · cases he
        exact absurd rfl (hP _)
    · exact ⟨[], s, ⟨rfl, by omega⟩, rfl⟩
  · rintro ⟨w, s', ⟨rfl, hlt⟩, rfl⟩
    -- the size is refused before a byte is read
    rw [dif_neg (by omega)]
    exact ⟨_, rfl, fun message => by simp⟩

/-- A read of a size that a `bytes` object can have only falls short. -/
theorem spares_read_exact {size : ℕ} (h : size ≤ sys_maxsize) :
    Spares (read_exact size) NotTxFormat := by
  refine (breaks_read_exact size).congr fun w => ?_
  simp only [iff_false, not_and]
  intro _
  omega

theorem spares_read_uint32_le : Spares read_uint32_le NotTxFormat :=
  spares_bind (spares_read_exact (by norm_num [sys_maxsize])) fun _ => spares_pure _ _

theorem spares_read_uint64_le : Spares read_uint64_le NotTxFormat :=
  spares_bind (spares_read_exact (by norm_num [sys_maxsize])) fun _ => spares_pure _ _

theorem spares_read_varint : Spares read_varint NotTxFormat := by
  refine spares_bind (spares_read_exact (by norm_num [sys_maxsize])) fun first => ?_
  -- the first byte chooses one of four sizes, the largest eight bytes
  rw [read_varint_from]
  split_ifs
  · exact spares_pure _ _
  · exact spares_bind (spares_read_exact (by norm_num [sys_maxsize])) fun _ => spares_pure _ _
  · exact spares_bind (spares_read_exact (by norm_num [sys_maxsize])) fun _ => spares_pure _ _
  · exact spares_bind (spares_read_exact (by norm_num [sys_maxsize])) fun _ => spares_pure _ _

theorem breaks_read_var_bytes : Breaks read_var_bytes NotTxFormat OversizedLength := by
  refine (breaks_spares_bind recognizes_read_varint spares_read_varint
    fun _ n _ => breaks_read_exact n).congr fun w => ?_
  constructor
  · rintro ⟨u, _, n, hn, ⟨rfl, hlt⟩, rfl⟩
    rw [List.append_nil]
    exact ⟨n, hn, hlt⟩
  · rintro ⟨n, hn, hlt⟩
    exact ⟨w, [], n, hn, ⟨rfl, hlt⟩, (List.append_nil w).symm⟩

theorem breaks_read_input : Breaks read_input NotTxFormat OversizedInput := by
  -- txid and index are short, the script may be announced as anything, the sequence is short
  refine (breaks_spares_bind (recognizes_read_exact 32)
    (spares_read_exact (by norm_num [sys_maxsize])) fun _ txid _ =>
    breaks_spares_bind recognizes_read_uint32_le spares_read_uint32_le fun _ vout _ =>
    breaks_bind_spares recognizes_read_var_bytes breaks_read_var_bytes fun script =>
    spares_bind spares_read_uint32_le fun sequence => spares_pure _ _).congr fun w => ?_
  constructor
  · rintro ⟨_, _, txid, ⟨rfl, ht⟩, ⟨wv, ws, vout, ⟨hv, -⟩, hs, rfl⟩, rfl⟩
    rw [← List.append_assoc]
    exact OversizedInput.mk ht hv hs
  · rintro ⟨ht, hv, hs⟩
    rename_i txid wv ws
    exact ⟨txid, wv ++ ws, ⟨txid, ht ▸ by norm_num [sys_maxsize]⟩, ⟨rfl, ht⟩,
      ⟨wv, ws, natOfLE wv, ⟨hv, rfl⟩, hs, rfl⟩, List.append_assoc _ _ _⟩

theorem breaks_read_output : Breaks read_output NotTxFormat OversizedOutput := by
  refine (breaks_spares_bind recognizes_read_uint64_le spares_read_uint64_le fun _ value _ =>
    breaks_bind_spares recognizes_read_var_bytes breaks_read_var_bytes fun script =>
    spares_pure _ _).congr fun w => ?_
  constructor
  · rintro ⟨wv, ws, value, ⟨hv, -⟩, hs, rfl⟩
    exact OversizedOutput.mk hv hs
  · rintro ⟨hv, hs⟩
    exact ⟨_, _, _, ⟨hv, rfl⟩, hs, rfl⟩

theorem breaks_read_witness (txin : TxInput) :
    Breaks (read_witness txin) NotTxFormat OversizedWitness := by
  refine (breaks_spares_bind recognizes_read_varint spares_read_varint fun _ item_count _ =>
    breaks_bind_spares (recognizes_readMany recognizes_read_var_bytes item_count)
      (breaks_readMany recognizes_read_var_bytes breaks_read_var_bytes item_count)
      fun witness_items => spares_pure _ _).congr fun w => ?_
  constructor
  · rintro ⟨wc, _, item_count, hc, ⟨wi, ws, items, hi, hlt, hs, rfl⟩, rfl⟩
    rw [← List.append_assoc]
    exact OversizedWitness.mk hc hi hlt hs
  · rintro ⟨hc, hi, hlt, hs⟩
    exact ⟨_, _, _, hc, ⟨_, _, _, hi, hlt, hs, rfl⟩, List.append_assoc _ _ _⟩

/-- The stacks that were read before the one that breaks belong to the first inputs. -/
theorem breaks_read_witnesses (has_witness : Bool) (inputs : List TxInput) :
    Breaks (read_witnesses has_witness inputs) NotTxFormat fun w => has_witness = true ∧
      ∃ ww ws witnesses, Items WitnessWord ww witnesses ∧ witnesses.length < inputs.length ∧
        OversizedWitness ws ∧ w = ww ++ ws := by
  rw [read_witnesses]
  cases has_witness with
  -- without the flag no stack is read
  | false => exact (spares_pure inputs _).congr fun w => by simp
  | true =>
      -- the stacks before the one that breaks are as many as the inputs they belong to
      refine (breaks_readEach recognizes_read_witness breaks_read_witness inputs).congr fun w => ?_
      simp only [each_witness_iff, true_and]
      constructor
      · rintro ⟨ks₁, k, ks₂, ww, ws, _, rfl, ⟨witnesses, hw, hlen, rfl⟩, hs, rfl⟩
        refine ⟨ww, ws, witnesses, hw, ?_, hs, rfl⟩
        rw [hlen, List.length_append, List.length_cons]
        omega
      · rintro ⟨ww, ws, witnesses, hw, hlt, hs, rfl⟩
        refine ⟨inputs.take witnesses.length, inputs.get ⟨witnesses.length, hlt⟩,
          inputs.drop (witnesses.length + 1), ww, ws, _, ?_, ⟨witnesses, hw, ?_, rfl⟩, hs, rfl⟩
        · rw [List.get_eq_getElem, ← List.drop_eq_getElem_cons hlt, List.take_append_drop]
        · rw [List.length_take]
          omega

theorem inputCount_iff (w : List UInt8) (r : Bool × ℕ) :
    InputCount w r ↔ (∃ n, r = (false, n) ∧ n ≠ 0 ∧ CompactSize w n) ∨
      ∃ n wz wc, r = (true, n) ∧ CompactSize wz 0 ∧ CompactSize wc n ∧ w = wz ++ [0x01] ++ wc := by
  constructor
  · rintro (⟨hc, hn⟩ | ⟨hz, hc⟩)
    · exact .inl ⟨_, rfl, hn, hc⟩
    · exact .inr ⟨_, _, _, rfl, hz, hc, rfl⟩
  · rintro (⟨n, rfl, hn, hc⟩ | ⟨n, wz, wc, rfl, hz, hc, rfl⟩)
    · exact InputCount.plain hc hn
    · exact InputCount.segwit hz hc

theorem recognizes_inputCount : Recognizes read_input_count InputCount :=
  recognizes_read_input_count.congr fun w r => (inputCount_iff w r).symm

theorem spares_read_input_count : Spares read_input_count NotTxFormat := by
  refine spares_bind spares_read_varint fun m => ?_
  split_ifs
  · refine spares_bind (spares_read_exact (by norm_num [sys_maxsize])) fun flag => ?_
    split_ifs
    · exact spares_bind spares_read_varint fun _ => spares_pure _ _
    · exact spares_throw fun h => h _ rfl
  · exact spares_pure _ _

/-- The parser up to the locktime breaks on the words of `Oversized`: in the loop over the
inputs, in the loop over the outputs, or in the loop over the witness stacks. -/
theorem breaks_read_transaction : Breaks read_transaction NotTxFormat Oversized := by
  have htail (version : ℤ) (inputs : List TxInput) (outputs : List TxOutput) : Spares (do
      let locktime ← read_uint32_le
      pure (BitcoinTransaction.mk version inputs outputs locktime)) NotTxFormat :=
    spares_bind spares_read_uint32_le fun _ => spares_pure _ _
  -- the order of the reads; only the three loops and the stacks can break
  refine (breaks_spares_bind recognizes_read_uint32_le spares_read_uint32_le fun _ version _ =>
    breaks_spares_bind recognizes_inputCount spares_read_input_count fun _ r _ =>
    breaks_bind (recognizes_readMany recognizes_read_input r.2)
      (breaks_readMany recognizes_read_input breaks_read_input r.2) fun _ inputs _ =>
    breaks_spares_bind recognizes_read_varint spares_read_varint fun _ output_count _ =>
    breaks_bind (recognizes_readMany recognizes_read_output output_count)
      (breaks_readMany recognizes_read_output breaks_read_output output_count) fun _ outputs _ =>
    breaks_bind_spares (recognizes_read_witnesses r.1 inputs) (breaks_read_witnesses r.1 inputs)
      fun inputs' => htail version inputs' outputs).congr fun w => ?_
  constructor
  · rintro ⟨wv, _, version, ⟨hv, -⟩, ⟨wc, _, ⟨has_witness, n⟩, hc,
      ⟨wi, wb, inputs, hi, hlt, hb, rfl⟩ | ⟨wi, _, inputs, ⟨hi, hin⟩, ⟨wo, _, m, ho, hrest, rfl⟩, rfl⟩,
      rfl⟩, rfl⟩
    -- an input script
    · simp only [← List.append_assoc]
      exact Oversized.input hv hc hi hlt hb
    · obtain rfl : inputs.length = n := hin
      rcases hrest with ⟨wx, wb, outputs, hx, hlt, hb, rfl⟩ |
        ⟨wx, _, outputs, ⟨hx, rfl⟩, ⟨hflag, ww, wb, witnesses, hw, hlt, hb, rfl⟩, rfl⟩
      -- an output script
      · simp only [← List.append_assoc]
        exact Oversized.output hv hc hi ho hx hlt hb
      -- a witness item, which only a transaction with the flag has
      · obtain rfl : has_witness = true := hflag
        simp only [← List.append_assoc]
        exact Oversized.witness hv hc hi ho hx hw hlt hb
  · intro h
    cases h with
    | input hv hc hi hlt hb =>
        exact ⟨_, _, _, ⟨hv, rfl⟩, ⟨_, _, _, hc, .inl ⟨_, _, _, hi, hlt, hb, rfl⟩, rfl⟩,
          by simp only [List.append_assoc]⟩
    | output hv hc hi ho hx hlt hb =>
        exact ⟨_, _, _, ⟨hv, rfl⟩, ⟨_, _, _, hc, .inr ⟨_, _, _, ⟨hi, rfl⟩, ⟨_, _, _, ho,
          .inl ⟨_, _, _, hx, hlt, hb, rfl⟩, rfl⟩, rfl⟩, rfl⟩, by simp only [List.append_assoc]⟩
    | witness hv hc hi ho hx hs hlt hb =>
        exact ⟨_, _, _, ⟨hv, rfl⟩, ⟨_, _, _, hc, .inr ⟨_, _, _, ⟨hi, rfl⟩, ⟨_, _, _, ho,
          .inr ⟨_, _, _, ⟨hx, rfl⟩, ⟨rfl, _, _, _, hs, hlt, hb, rfl⟩, rfl⟩, rfl⟩, rfl⟩, rfl⟩,
          by simp only [List.append_assoc]⟩

/-! ## Counting the turns -/

open Counted

/-- The body of the loop over the witness stacks, with its inner loop counted. -/
def counted_witness (txin : TxInput) : Counted UInt8 PyError TxInput := do
  let item_count ← of read_varint
  let witness_items ← many (of read_var_bytes) item_count
  pure { txin with witness := witness_items }

def counted_witnesses (has_witness : Bool) (inputs : List TxInput) :
    Counted UInt8 PyError (List TxInput) :=
  if has_witness then each counted_witness inputs else pure inputs

/-- `parse_transaction` from the first byte to the locktime, with its loops counted. -/
def counted_transaction : Counted UInt8 PyError BitcoinTransaction := do
  let version ← of read_uint32_le
  let count ← of read_input_count
  let inputs ← many (of read_input) count.2
  let output_count ← of read_varint
  let outputs ← many (of read_output) output_count
  let inputs ← counted_witnesses count.1 inputs
  let locktime ← of read_uint32_le
  pure ⟨version, inputs, outputs, locktime⟩

/-- The turns the four loops of `parse_transaction` take together on a text, up to where it
returns or raises. -/
def parse_iterations (raw_tx_hex : String) : ℕ :=
  match fromhex raw_tx_hex with
  | none => 0
  | some raw => (counted_transaction raw).2

theorem reader_counted_witness (txin : TxInput) :
    (counted_witness txin).reader = read_witness txin := by
  simp only [counted_witness, read_witness, reader_bind, reader_of, reader_many, reader_pure]

/-- Leaving the count out gives the parser. -/
theorem reader_counted_transaction : counted_transaction.reader = read_transaction := by
  have hwitnesses (has_witness : Bool) (inputs : List TxInput) :
      (counted_witnesses has_witness inputs).reader = read_witnesses has_witness inputs := by
    rw [counted_witnesses, read_witnesses]
    split_ifs
    · rw [reader_each]
      simp only [reader_counted_witness]
    · rfl
  simp only [counted_transaction, read_transaction, reader_bind, reader_of, reader_many,
    reader_pure, hwitnesses]

theorem compactSize_length_pos {w : List UInt8} {n : ℕ} (h : CompactSize w n) : 1 ≤ w.length := by
  cases h <;> simp

theorem pays_read_varint : (of read_varint).Pays 1 0 :=
  pays_of recognizes_read_varint fun _ _ => compactSize_length_pos

theorem pays_read_var_bytes : (of read_var_bytes).Pays 1 0 := by
  refine pays_of recognizes_read_var_bytes fun w d h => ?_
  cases h with
  | mk hn =>
      have := compactSize_length_pos hn
      rw [List.length_append]
      omega

theorem pays_read_input : (of read_input).Pays 1 0 := by
  refine pays_of recognizes_read_input fun w txin h => ?_
  cases h with
  | mk ht _ _ _ =>
      simp only [List.length_append]
      omega

theorem pays_read_output : (of read_output).Pays 1 0 := by
  refine pays_of recognizes_read_output fun w txout h => ?_
  cases h with
  | mk hv _ =>
      have := hv.1
      rw [List.length_append]
      omega

/-- A stack pays for the turn it is read in: with its count. -/
theorem pays_counted_witness (txin : TxInput) : (counted_witness txin).Pays 1 0 := by
  refine (pays_read_varint.bind (fun item_count => ?_) le_rfl).mono (Nat.le_add_right 1 0) le_rfl
  exact (pays_read_var_bytes.many item_count).bind (fun items => pays_pure _) (Nat.zero_le _)

theorem pays_counted_witnesses (has_witness : Bool) (inputs : List TxInput) :
    (counted_witnesses has_witness inputs).Pays 0 1 := by
  rw [counted_witnesses]
  split_ifs
  · exact Pays.each pays_counted_witness inputs
  · exact (pays_pure inputs).mono le_rfl (Nat.zero_le _)

/-- The four bytes of the version pay for the turn the parser fails in. -/
theorem pays_counted_transaction : counted_transaction.Pays 0 0 := by
  have hversion : (of read_uint32_le).Pays 4 0 :=
    pays_of recognizes_read_uint32_le fun w n h => h.1.ge
  have hcount : (of read_input_count).Pays 0 0 :=
    pays_of recognizes_read_input_count fun w r _ => Nat.zero_le _
  have hlocktime : (of read_uint32_le).Pays 0 0 := hversion.mono (Nat.zero_le 4) le_rfl
  have hoptional {α : Type} {p : Counted UInt8 PyError α} (h : p.Pays 0 0) : p.Pays 0 1 :=
    h.mono le_rfl (Nat.zero_le 1)
  -- every loop may fail in a turn that is not paid for, and the version pays for that turn
  refine Pays.mono (a := 4 + 0) (b := 0) ?_ (Nat.zero_le _) le_rfl
  refine hversion.bind (fun version => (?_ : Pays _ 0 1)) (by omega)
  refine (hoptional hcount).seq fun count => ?_
  refine (pays_read_input.many count.2).seq fun inputs => ?_
  refine (hoptional (pays_read_varint.mono (Nat.zero_le 1) le_rfl)).seq fun output_count => ?_
  refine (pays_read_output.many output_count).seq fun outputs => ?_
  refine (pays_counted_witnesses count.1 inputs).seq fun inputs' => ?_
  exact (hoptional hlocktime).seq fun locktime => hoptional (pays_pure _)

/-- A turn a byte: the loops of the parser take at most as many turns as the text has bytes,
whatever the counts in it say and however the parser ends. -/
theorem parse_iterations_le {raw_tx_hex : String} {raw : List UInt8}
    (h : fromhex raw_tx_hex = some raw) : parse_iterations raw_tx_hex ≤ raw.length := by
  rw [parse_iterations, h]
  have hpays := pays_counted_transaction
  cases hrun : (counted_transaction raw).1 with
  | error e => exact hpays.error raw e hrun
  | ok r =>
      have := hpays.ok raw r.1 r.2 hrun
      dsimp only
      omega

/-! ## Returning or refusing -/

/-- The parser returns a transaction or refuses the text with its own exception, and its
loops take at most one turn a byte. -/
structure ParsesOrRefuses (raw_tx_hex : String) : Prop where
  outcome : (∃ tx, parse_transaction raw_tx_hex = .ok tx) ∨
    ∃ message, parse_transaction raw_tx_hex = .error (.TxFormatError message)
  iterations : parse_iterations raw_tx_hex ≤ ((fromhex raw_tx_hex).getD []).length

/-- The parser fails with another exception exactly when the readers do. -/
theorem parse_transaction_breaks {raw_tx_hex : String} {raw : List UInt8}
    (h : fromhex raw_tx_hex = some raw) :
    (∃ e, parse_transaction raw_tx_hex = .error e ∧ NotTxFormat e) ↔
      ∃ e, read_transaction.run raw = .error e ∧ NotTxFormat e := by
  rw [parse_transaction, h]
  dsimp only
  cases hrun : read_transaction.run raw with
  | error e => simp only [Bind.bind, Except.bind, Except.error.injEq]
  | ok r =>
      obtain ⟨tx, remaining⟩ := r
      simp only [Bind.bind, Except.bind]
      constructor
      · rintro ⟨e, he, hP⟩
        -- bytes behind the locktime are refused with the parser's own exception
        split_ifs at he
        · cases he
        · cases he
          exact absurd rfl (hP _)
      · rintro ⟨e, he, -⟩
        cases he

/-- **When the parser fails with nothing but its own exception.** It returns or raises
`TxFormatError`, in at most one turn a byte, exactly on the texts whose bytes do not start with
a transaction up to a length beyond `sys.maxsize`. -/
theorem parses_or_refuses_iff (raw_tx_hex : String) :
    ParsesOrRefuses raw_tx_hex ↔
      ∀ raw w rest, fromhex raw_tx_hex = some raw → raw = w ++ rest → ¬ Oversized w := by
  constructor
  · rintro ⟨outcome, -⟩ raw w rest hraw hsplit hw
    obtain ⟨e, he, hP⟩ := (parse_transaction_breaks hraw).mpr
      ((breaks_read_transaction raw).mpr ⟨w, rest, hw, hsplit⟩)
    rcases outcome with ⟨tx, htx⟩ | ⟨message, hmessage⟩
    · rw [he] at htx
      cases htx
    · rw [he] at hmessage
      exact hP message (Except.error.inj hmessage)
  · intro hclean
    cases hraw : fromhex raw_tx_hex with
    | none =>
        refine ⟨.inr ⟨"raw_tx_hex is not valid hex.", ?_⟩, ?_⟩
        · rw [parse_transaction, hraw]
          rfl
        · rw [parse_iterations, hraw]
          rfl
    | some raw =>
        refine ⟨?_, by rw [hraw]; exact parse_iterations_le hraw⟩
        cases hparse : parse_transaction raw_tx_hex with
        | ok tx => exact .inl ⟨tx, rfl⟩
        | error e =>
            -- an exception that is not the parser's own comes from a length
            by_contra hne
            have hP : NotTxFormat e := by
              rintro message rfl
              exact hne (.inr ⟨message, rfl⟩)
            obtain ⟨w, rest, hw, hsplit⟩ := (breaks_read_transaction raw).mp
              ((parse_transaction_breaks hraw).mp ⟨e, hparse, hP⟩)
            exact hclean raw w rest hraw hsplit hw

/-- One input whose script is declared `2 ^ 64 - 1` bytes long, and nothing behind the length. -/
def oversized_script_hex : String :=
  hex ([1, 0, 0, 0, 1] ++ List.replicate 36 0 ++ List.replicate 9 0xFF)

theorem oversized_script_not_refused : ¬ ParsesOrRefuses oversized_script_hex := by
  rintro ⟨outcome, -⟩
  have hrun : parse_transaction oversized_script_hex =
      .error (.OverflowError "cannot fit 'int' into an index-sized integer") := by
    rw [parse_transaction, oversized_script_hex, fromhex_hex]
    decide +kernel
  rw [hrun] at outcome
  rcases outcome with ⟨tx, htx⟩ | ⟨message, hmessage⟩
  · cases htx
  · cases hmessage

end Superorganism.Tx

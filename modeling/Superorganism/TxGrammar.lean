/-
The grammar of a serialized transaction, and that `parse_transaction` is its
recogniser.

The grammar is stated on its own, as a relation between byte strings and the
transactions they denote: four bytes of version, either a non-zero compact-size
input count or the segwit marker (a compact size denoting zero, in any of its
four widths), the flag byte `01` and an input count, that many inputs, a counted
list of outputs, in the second case one counted witness stack per input, and four
bytes of locktime. A compact size may be wider than needed. Scripts and witness
items are `bytes` objects, so a word never declares a script or an item of more
than `sys.maxsize` bytes; a stream that does is refused by `BytesIO.read`, and
that is the only reason the bound appears.

Each reader of `Tx` recognises the format of the same name, by the rules of
`Format`, and the parser on top of them accepts a text exactly when its bytes are
one word with nothing after it.
-/
import Superorganism.Tx

set_option autoImplicit false

open Superorganism.Bytes Superorganism.Py Superorganism.Format

namespace Superorganism.Tx

/-! ## The grammar -/

/-- A string of exactly `n` bytes. -/
def FixedBytes (n : ℕ) (w : List UInt8) (d : PyBytes) : Prop :=
  d.toList = w ∧ w.length = n

/-- A `k`-byte little-endian unsigned integer. -/
def UIntLE (k : ℕ) (w : List UInt8) (n : ℤ) : Prop :=
  w.length = k ∧ n = natOfLE w

/-- A compact size: one byte below `FD`, or a marker and two, four or eight bytes. -/
inductive CompactSize : List UInt8 → ℕ → Prop
  | one (b : UInt8) (h : b.toNat < 0xFD) : CompactSize [b] b.toNat
  | two (w : List UInt8) (h : w.length = 2) : CompactSize (0xFD :: w) (natOfLE w)
  | four (w : List UInt8) (h : w.length = 4) : CompactSize (0xFE :: w) (natOfLE w)
  | eight (w : List UInt8) (h : w.length = 8) : CompactSize (0xFF :: w) (natOfLE w)

/-- A byte string behind its compact size. -/
inductive VarBytes : List UInt8 → PyBytes → Prop
  | mk {wn : List UInt8} {d : PyBytes} (hn : CompactSize wn d.length) :
      VarBytes (wn ++ d.toList) d

/-- An input without its witness: transaction id, output index, script, sequence. -/
inductive InputWord : List UInt8 → TxInput → Prop
  | mk {txid script : PyBytes} {wv ws wq : List UInt8} {vout sequence : ℤ}
      (ht : txid.toList.length = 32) (hv : UIntLE 4 wv vout) (hs : VarBytes ws script)
      (hq : UIntLE 4 wq sequence) :
      InputWord (txid.toList ++ wv ++ ws ++ wq) ⟨txid, vout, script, sequence, []⟩

/-- An output: value and script. -/
inductive OutputWord : List UInt8 → TxOutput → Prop
  | mk {wv ws : List UInt8} {value : ℤ} {script : PyBytes}
      (hv : UIntLE 8 wv value) (hs : VarBytes ws script) :
      OutputWord (wv ++ ws) ⟨value, script⟩

/-- A witness stack: a counted list of items. -/
inductive WitnessWord : List UInt8 → List PyBytes → Prop
  | mk {wc wi : List UInt8} {items : List PyBytes}
      (hc : CompactSize wc items.length) (hi : Items VarBytes wi items) :
      WitnessWord (wc ++ wi) items

/-- The inputs with the stacks that follow the outputs, in order. -/
def attachWitness (inputs : List TxInput) (witnesses : List (List PyBytes)) : List TxInput :=
  List.zipWith (fun txin items => { txin with witness := items }) inputs witnesses

/-- A serialized transaction. -/
inductive TxWord : List UInt8 → BitcoinTransaction → Prop
  | legacy {wv wc wi wo wx wl : List UInt8} {version locktime : ℤ}
      {inputs : List TxInput} {outputs : List TxOutput}
      (hv : UIntLE 4 wv version)
      (hc : CompactSize wc inputs.length) (hne : inputs.length ≠ 0)
      (hi : Items InputWord wi inputs)
      (ho : CompactSize wo outputs.length) (hx : Items OutputWord wx outputs)
      (hl : UIntLE 4 wl locktime) :
      TxWord (wv ++ wc ++ wi ++ wo ++ wx ++ wl) ⟨version, inputs, outputs, locktime⟩
  | segwit {wv wz wc wi wo wx ww wl : List UInt8} {version locktime : ℤ}
      {inputs : List TxInput} {outputs : List TxOutput} {witnesses : List (List PyBytes)}
      (hv : UIntLE 4 wv version) (hz : CompactSize wz 0)
      (hc : CompactSize wc inputs.length) (hi : Items InputWord wi inputs)
      (ho : CompactSize wo outputs.length) (hx : Items OutputWord wx outputs)
      (hw : Items WitnessWord ww witnesses) (hn : witnesses.length = inputs.length)
      (hl : UIntLE 4 wl locktime) :
      TxWord (wv ++ wz ++ [0x01] ++ wc ++ wi ++ wo ++ wx ++ ww ++ wl)
        ⟨version, attachWitness inputs witnesses, outputs, locktime⟩

/-! ## The readers recognise their formats -/

/-- `read_exact` takes a string of the given length, if one can have that length. -/
theorem recognizes_read_exact (size : ℕ) :
    Recognizes (read_exact size) (FixedBytes size) := by
  intro s d s'
  simp only [StateT.run, read_exact, FixedBytes]
  constructor
  · intro h
    split at h
    · split at h
      · simp only [Except.ok.injEq, Prod.mk.injEq] at h
        obtain ⟨rfl, rfl⟩ := h
        exact ⟨s.take size, ⟨rfl, by assumption⟩, (List.take_append_drop size s).symm⟩
      · cases h
    · cases h
  · rintro ⟨w, ⟨rfl, hlen⟩, rfl⟩
    have hmax : size ≤ sys_maxsize := hlen ▸ d.length_le
    have htake : (d.toList ++ s').take size = d.toList := by
      rw [← hlen, List.take_left]
    have hdrop : (d.toList ++ s').drop size = s' := by
      rw [← hlen, List.drop_left]
    rw [dif_pos hmax, dif_pos (by rw [htake, hlen])]
    simp only [htake, hdrop]

/-- A fixed-width integer is a string of that width read as a number. -/
theorem recognizes_width {α : Type} {k : ℕ} (hk : k ≤ sys_maxsize) (f : ℕ → α) :
    Recognizes (do let value ← read_exact k; pure (f (natOfLE value.toList)))
      (fun w a => w.length = k ∧ a = f (natOfLE w)) := by
  refine (recognizes_bind (recognizes_read_exact k) fun _ d _ => recognizes_pure _).congr ?_
  intro w n
  constructor
  · rintro ⟨u, v, d, ⟨rfl, hlen⟩, ⟨rfl, rfl⟩, rfl⟩
    rw [List.append_nil]
    exact ⟨hlen, rfl⟩
  · rintro ⟨hlen, rfl⟩
    exact ⟨w, [], ⟨w, hlen ▸ hk⟩, ⟨rfl, hlen⟩, ⟨rfl, rfl⟩, (List.append_nil w).symm⟩

theorem recognizes_read_uint32_le : Recognizes read_uint32_le (UIntLE 4) :=
  recognizes_width (by norm_num [sys_maxsize]) (fun n => (n : ℤ))

theorem recognizes_read_uint64_le : Recognizes read_uint64_le (UIntLE 8) :=
  recognizes_width (by norm_num [sys_maxsize]) (fun n => (n : ℤ))

/-- A one-byte string is that byte. -/
private theorem exists_byte {w : List UInt8} (h : w.length = 1) :
    ∃ b : UInt8, w = [b] ∧ natOfLE w = b.toNat := by
  obtain ⟨b, rfl⟩ := List.length_eq_one_iff.mp h
  exact ⟨b, rfl, by simp only [natOfLE, Nat.mul_zero, Nat.add_zero]⟩

/-- What follows the first byte of a compact size. -/
private theorem recognizes_read_varint_from (b : UInt8) :
    Recognizes (read_varint_from b.toNat) (fun w n => CompactSize (b :: w) n) := by
  rw [read_varint_from]
  have hb : b.toNat < 256 := b.toNat_lt
  have hmark : ∀ m : UInt8, b.toNat = m.toNat → b = m := fun m h => UInt8.toNat_inj.mp h
  split_ifs with h1 h2 h3
  · refine (recognizes_pure b.toNat).congr fun w n => ?_
    constructor
    · rintro ⟨rfl, rfl⟩
      exact CompactSize.one b h1
    · intro h
      cases h with
      | one _ _ => exact ⟨rfl, rfl⟩
      | two _ _ => exact absurd h1 (by decide)
      | four _ _ => exact absurd h1 (by decide)
      | eight _ _ => exact absurd h1 (by decide)
  · obtain rfl := hmark 0xFD h2
    refine (recognizes_width (by norm_num [sys_maxsize]) (fun n => n)).congr fun w n => ?_
    constructor
    · rintro ⟨hlen, rfl⟩
      exact CompactSize.two w hlen
    · intro h
      cases h with
      | one _ h' => exact absurd h' (by decide)
      | two _ hlen => exact ⟨hlen, rfl⟩
  · obtain rfl := hmark 0xFE h3
    refine (recognizes_width (by norm_num [sys_maxsize]) (fun n => n)).congr fun w n => ?_
    constructor
    · rintro ⟨hlen, rfl⟩
      exact CompactSize.four w hlen
    · intro h
      cases h with
      | one _ h' => exact absurd h' (by decide)
      | four _ hlen => exact ⟨hlen, rfl⟩
  · obtain rfl := hmark 0xFF (by
      show b.toNat = 255
      omega)
    refine (recognizes_width (by norm_num [sys_maxsize]) (fun n => n)).congr fun w n => ?_
    constructor
    · rintro ⟨hlen, rfl⟩
      exact CompactSize.eight w hlen
    · intro h
      cases h with
      | one _ h' => exact absurd h' (by decide)
      | eight _ hlen => exact ⟨hlen, rfl⟩

theorem recognizes_read_varint : Recognizes read_varint CompactSize := by
  refine (recognizes_bind (G := fun d w n => CompactSize (d.toList ++ w) n)
    (recognizes_read_exact 1) ?_).congr fun w n => ?_
  · rintro u d ⟨rfl, hlen⟩
    obtain ⟨b, hd, hval⟩ := exists_byte hlen
    rw [hval, hd]
    exact recognizes_read_varint_from b
  constructor
  · rintro ⟨u, v, d, ⟨rfl, -⟩, h, rfl⟩
    exact h
  · intro h
    have key : ∀ (b : UInt8) (v : List UInt8), CompactSize (b :: v) n →
        Then (FixedBytes 1) (fun d w n => CompactSize (d.toList ++ w) n) (b :: v) n :=
      fun b v h => ⟨[b], v, ⟨[b], by norm_num [sys_maxsize]⟩, ⟨rfl, rfl⟩, h, rfl⟩
    cases h with
    | one b hb => exact key b [] (CompactSize.one b hb)
    | two v hv => exact key _ v (CompactSize.two v hv)
    | four v hv => exact key _ v (CompactSize.four v hv)
    | eight v hv => exact key _ v (CompactSize.eight v hv)

theorem recognizes_read_var_bytes : Recognizes read_var_bytes VarBytes := by
  refine (recognizes_bind recognizes_read_varint
    fun _ n _ => recognizes_read_exact n).congr fun w d => ?_
  constructor
  · rintro ⟨wn, _, n, hn, ⟨rfl, rfl⟩, rfl⟩
    exact VarBytes.mk hn
  · rintro ⟨hn⟩
    exact ⟨_, _, _, hn, ⟨rfl, rfl⟩, rfl⟩

theorem recognizes_read_input : Recognizes read_input InputWord := by
  refine (recognizes_bind (recognizes_read_exact 32) fun _ txid _ =>
    recognizes_bind recognizes_read_uint32_le fun _ vout _ =>
    recognizes_bind recognizes_read_var_bytes fun _ script _ =>
    recognizes_bind recognizes_read_uint32_le fun _ sequence _ =>
    recognizes_pure (TxInput.mk txid vout script sequence [])).congr fun w txin => ?_
  constructor
  · rintro ⟨_, _, txid, ⟨rfl, ht⟩, ⟨wv, _, vout, hv, ⟨ws, _, script, hs,
      ⟨wq, _, sequence, hq, ⟨rfl, rfl⟩, rfl⟩, rfl⟩, rfl⟩, rfl⟩
    simp only [List.append_nil, ← List.append_assoc]
    exact InputWord.mk ht hv hs hq
  · rintro ⟨ht, hv, hs, hq⟩
    exact ⟨_, _, _, ⟨rfl, ht⟩, ⟨_, _, _, hv, ⟨_, _, _, hs, ⟨_, _, _, hq, ⟨rfl, rfl⟩, rfl⟩, rfl⟩,
      rfl⟩, by simp only [List.append_nil, List.append_assoc]⟩

theorem recognizes_read_output : Recognizes read_output OutputWord := by
  refine (recognizes_bind recognizes_read_uint64_le fun _ value _ =>
    recognizes_bind recognizes_read_var_bytes fun _ script _ =>
    recognizes_pure (TxOutput.mk value script)).congr fun w txout => ?_
  constructor
  · rintro ⟨wv, _, value, hv, ⟨ws, _, script, hs, ⟨rfl, rfl⟩, rfl⟩, rfl⟩
    rw [List.append_nil]
    exact OutputWord.mk hv hs
  · rintro ⟨hv, hs⟩
    exact ⟨_, _, _, hv, ⟨_, _, _, hs, ⟨rfl, rfl⟩, rfl⟩, by rw [List.append_nil]⟩

/-- The witness loop reads a stack and returns the input that carries it. -/
theorem recognizes_read_witness (txin : TxInput) :
    Recognizes (read_witness txin)
      (fun w txin' => ∃ items, WitnessWord w items ∧ txin' = { txin with witness := items }) := by
  refine (recognizes_bind recognizes_read_varint fun _ n _ =>
    recognizes_bind (recognizes_readMany recognizes_read_var_bytes n) fun _ items _ =>
    recognizes_pure { txin with witness := items }).congr fun w txin' => ?_
  constructor
  · rintro ⟨wc, _, n, hc, ⟨wi, _, items, ⟨hi, rfl⟩, ⟨rfl, rfl⟩, rfl⟩, rfl⟩
    rw [List.append_nil]
    exact ⟨items, WitnessWord.mk hc hi, rfl⟩
  · rintro ⟨items, ⟨hc, hi⟩, rfl⟩
    exact ⟨_, _, _, hc, ⟨_, _, _, ⟨hi, rfl⟩, ⟨rfl, rfl⟩, rfl⟩, by rw [List.append_nil]⟩

/-- One stack for each input is a list of stacks of that length, attached in order. -/
theorem each_witness_iff (inputs : List TxInput) (w : List UInt8) (inputs' : List TxInput) :
    Each (fun txin w txin' => ∃ items, WitnessWord w items ∧ txin' = { txin with witness := items })
        inputs w inputs' ↔
      ∃ witnesses, Items WitnessWord w witnesses ∧ witnesses.length = inputs.length ∧
        inputs' = attachWitness inputs witnesses := by
  constructor
  · intro h
    induction h with
    | nil => exact ⟨[], Items.nil, rfl, rfl⟩
    | cons hu _ ih =>
        obtain ⟨items, hitems, rfl⟩ := hu
        obtain ⟨witnesses, hw, hlen, rfl⟩ := ih
        exact ⟨items :: witnesses, Items.cons hitems hw, by simp only [List.length_cons, hlen], rfl⟩
  · rintro ⟨witnesses, hw, hlen, rfl⟩
    induction hw generalizing inputs with
    | nil =>
        obtain rfl : inputs = [] := List.length_eq_zero_iff.mp hlen.symm
        exact Each.nil
    | cons hu _ ih =>
        cases inputs with
        | nil => simp at hlen
        | cons txin inputs =>
            exact Each.cons ⟨_, hu, rfl⟩ (ih inputs (by simpa using hlen))

theorem recognizes_read_flag_and_count :
    Recognizes read_flag_and_count (fun w r =>
      ∃ n wc, r = (true, n) ∧ CompactSize wc n ∧ w = 0x01 :: wc) := by
  refine (recognizes_bind
    (G := fun d w r => d.toList = [0x01] ∧ ∃ n, r = (true, n) ∧ CompactSize w n)
    (recognizes_read_exact 1) fun _ d _ => ?_).congr fun w r => ?_
  · split_ifs with hd
    · refine (recognizes_bind recognizes_read_varint fun _ n _ =>
        recognizes_pure (true, n)).congr fun w r => ?_
      constructor
      · rintro ⟨wc, _, n, hc, ⟨rfl, rfl⟩, rfl⟩
        rw [List.append_nil]
        exact ⟨hd, n, rfl, hc⟩
      · rintro ⟨-, n, rfl, hc⟩
        exact ⟨w, [], n, hc, ⟨rfl, rfl⟩, (List.append_nil w).symm⟩
    · exact (recognizes_throw _).congr fun w r => ⟨False.elim, fun h => absurd h.1 hd⟩
  · constructor
    · rintro ⟨u, wc, d, ⟨rfl, -⟩, ⟨hd, n, rfl, hc⟩, rfl⟩
      exact ⟨n, wc, rfl, hc, by rw [hd]; rfl⟩
    · rintro ⟨n, wc, rfl, hc, rfl⟩
      exact ⟨[0x01], wc, ⟨[0x01], by norm_num [sys_maxsize]⟩, ⟨rfl, rfl⟩, ⟨rfl, n, rfl, hc⟩, rfl⟩

/-- The input count in its two forms: plain, or behind marker and flag. -/
theorem recognizes_read_input_count :
    Recognizes read_input_count (fun w r =>
      (∃ n, r = (false, n) ∧ n ≠ 0 ∧ CompactSize w n) ∨
      (∃ n wz wc, r = (true, n) ∧ CompactSize wz 0 ∧ CompactSize wc n ∧
        w = wz ++ [0x01] ++ wc)) := by
  refine (recognizes_bind
    (G := fun m w r => (m ≠ 0 ∧ w = [] ∧ r = (false, m)) ∨
      (m = 0 ∧ ∃ n wc, r = (true, n) ∧ CompactSize wc n ∧ w = 0x01 :: wc))
    recognizes_read_varint fun _ m _ => ?_).congr fun w r => ?_
  · split_ifs with hm
    · exact recognizes_read_flag_and_count.congr fun w r => by simp [hm]
    · refine (recognizes_pure (false, m)).congr fun w r => by simp [hm]
  · constructor
    · rintro ⟨wz, _, m, hz, ⟨hm, rfl, rfl⟩ | ⟨rfl, n, wc, rfl, hc, rfl⟩, rfl⟩
      · rw [List.append_nil]
        exact .inl ⟨m, rfl, hm, hz⟩
      · exact .inr ⟨n, wz, wc, rfl, hz, hc, by rw [List.append_assoc]; rfl⟩
    · rintro (⟨n, rfl, hn, hc⟩ | ⟨n, wz, wc, rfl, hz, hc, rfl⟩)
      · exact ⟨w, [], n, hc, .inl ⟨hn, rfl, rfl⟩, (List.append_nil w).symm⟩
      · exact ⟨wz, 0x01 :: wc, 0, hz, .inr ⟨rfl, n, wc, rfl, hc, rfl⟩, by
          rw [List.append_assoc]; rfl⟩

theorem recognizes_read_witnesses (has_witness : Bool) (inputs : List TxInput) :
    Recognizes (read_witnesses has_witness inputs) (fun w inputs' =>
      (has_witness = false ∧ w = [] ∧ inputs' = inputs) ∨
      (has_witness = true ∧ ∃ witnesses, Items WitnessWord w witnesses ∧
        witnesses.length = inputs.length ∧ inputs' = attachWitness inputs witnesses)) := by
  rw [read_witnesses]
  cases has_witness with
  | false => exact (recognizes_pure inputs).congr fun w inputs' => by simp
  | true =>
      refine (recognizes_readEach recognizes_read_witness inputs).congr fun w inputs' => ?_
      simp only [each_witness_iff, Bool.true_eq_false, false_and, true_and, false_or]

/-- `parse_transaction` up to the locktime recognises the grammar. -/
theorem recognizes_read_transaction : Recognizes read_transaction TxWord := by
  refine (recognizes_bind recognizes_read_uint32_le fun _ version _ =>
    recognizes_bind recognizes_read_input_count fun _ r _ =>
    recognizes_bind (recognizes_readMany recognizes_read_input r.2) fun _ inputs _ =>
    recognizes_bind recognizes_read_varint fun _ output_count _ =>
    recognizes_bind (recognizes_readMany recognizes_read_output output_count) fun _ outputs _ =>
    recognizes_bind (recognizes_read_witnesses r.1 inputs) fun _ inputs' _ =>
    recognizes_bind recognizes_read_uint32_le fun _ locktime _ =>
    recognizes_pure (BitcoinTransaction.mk version inputs' outputs locktime)).congr fun w tx => ?_
  constructor
  · rintro ⟨wv, _, version, hv, ⟨wr, _, r, hr, ⟨wi, _, inputs, ⟨hi, hin⟩, ⟨wo, _, m, ho,
      ⟨wx, _, outputs, ⟨hx, rfl⟩, ⟨ww, _, inputs', hw, ⟨wl, _, locktime, hl, ⟨rfl, rfl⟩, rfl⟩,
      rfl⟩, rfl⟩, rfl⟩, rfl⟩, rfl⟩, rfl⟩
    -- the flag read with the input count says which of the two forms the word has
    rcases hr with ⟨n, rfl, hn, hc⟩ | ⟨n, wz, wc, rfl, hz, hc, rfl⟩
    · obtain rfl : inputs.length = n := hin
      rcases hw with ⟨-, rfl, rfl⟩ | ⟨h, -⟩
      · have := TxWord.legacy hv hc hn hi ho hx hl
        simpa only [List.append_assoc, List.append_nil, List.nil_append] using this
      · cases h
    · obtain rfl : inputs.length = n := hin
      rcases hw with ⟨h, -⟩ | ⟨-, witnesses, hws, hlen, rfl⟩
      · cases h
      · have := TxWord.segwit hv hz hc hi ho hx hws hlen hl
        simpa only [List.append_assoc, List.append_nil] using this
  · intro h
    cases h with
    | legacy hv hc hne hi ho hx hl =>
        exact ⟨_, _, _, hv, ⟨_, _, (false, _), .inl ⟨_, rfl, hne, hc⟩, ⟨_, _, _, ⟨hi, rfl⟩,
          ⟨_, _, _, ho, ⟨_, _, _, ⟨hx, rfl⟩, ⟨[], _, _, .inl ⟨rfl, rfl, rfl⟩,
          ⟨_, _, _, hl, ⟨rfl, rfl⟩, rfl⟩, rfl⟩, rfl⟩, rfl⟩, rfl⟩, rfl⟩,
          by simp only [List.append_assoc, List.append_nil, List.nil_append]⟩
    | segwit hv hz hc hi ho hx hw hn hl =>
        exact ⟨_, _, _, hv, ⟨_, _, (true, _), .inr ⟨_, _, _, rfl, hz, hc, rfl⟩, ⟨_, _, _, ⟨hi, rfl⟩,
          ⟨_, _, _, ho, ⟨_, _, _, ⟨hx, rfl⟩, ⟨_, _, _, .inr ⟨rfl, _, hw, hn, rfl⟩,
          ⟨_, _, _, hl, ⟨rfl, rfl⟩, rfl⟩, rfl⟩, rfl⟩, rfl⟩, rfl⟩, rfl⟩,
          by simp only [List.append_assoc, List.append_nil]⟩

/-! ## The parser -/

/-- The parser accepts a text exactly when its bytes are one word of the grammar,
and returns the transaction that word denotes. -/
theorem parse_transaction_eq_ok (raw_tx_hex : String) (tx : BitcoinTransaction) :
    parse_transaction raw_tx_hex = .ok tx ↔
      ∃ raw, fromhex raw_tx_hex = some raw ∧ TxWord raw tx := by
  rw [parse_transaction]
  cases hraw : fromhex raw_tx_hex with
  | none => simp [throw, throwThe, MonadExceptOf.throw]
  | some raw =>
      simp only [Option.some.injEq, exists_eq_left']
      have hrec := recognizes_read_transaction raw
      cases hrun : read_transaction.run raw with
      | error e =>
          have hno : ¬ TxWord raw tx := fun hw => by
            have := (hrec tx []).mpr ⟨raw, hw, (List.append_nil raw).symm⟩
            rw [hrun] at this
            cases this
          simp [bind, Except.bind, hno]
      | ok r =>
          obtain ⟨tx', remaining⟩ := r
          -- the reader recognises words at the front; the text is one word when nothing remains
          have hiff : TxWord raw tx ↔ tx' = tx ∧ remaining = [] := by
            have h := hrec tx []
            rw [hrun] at h
            simpa only [List.append_nil, Except.ok.injEq, Prod.mk.injEq, exists_eq_right'] using h.symm
          rw [hiff]
          cases remaining with
          | nil => simp [bind, Except.bind, pure, Except.pure]
          | cons b bs => simp [bind, Except.bind, throw, throwThe, MonadExceptOf.throw]

/-- **The parser is the grammar's recogniser.** It accepts the hexadecimal text
of a byte string exactly when the byte string is a word of the grammar; a word
denotes exactly one transaction, and that transaction is what is returned. -/
theorem parse_transaction_iff_word (b : List UInt8) :
    ((∃ tx, parse_transaction (hex b) = .ok tx) ↔ ∃ tx, TxWord b tx) ∧
      ((∃ tx, TxWord b tx) → ∃! tx, TxWord b tx) ∧
      (∀ tx, TxWord b tx → parse_transaction (hex b) = .ok tx) := by
  have hiff : ∀ tx, parse_transaction (hex b) = .ok tx ↔ TxWord b tx := by
    intro tx
    rw [parse_transaction_eq_ok, fromhex_hex]
    simp only [Option.some.injEq, exists_eq_left']
  refine ⟨exists_congr hiff, ?_, fun tx hw => (hiff tx).mpr hw⟩
  rintro ⟨tx, hw⟩
  refine ⟨tx, hw, fun tx' hw' => ?_⟩
  have h1 := (hiff tx).mpr hw
  have h2 := (hiff tx').mpr hw'
  rw [h1] at h2
  exact (Except.ok.inj h2).symm

/-- A word whose marker is the three-byte encoding of zero, with one input, no output and
an empty stack. -/
theorem parse_transaction_iff_word_wide_marker :
    ∃! tx, TxWord ([2, 0, 0, 0, 0xFD, 0, 0, 1, 1] ++ List.replicate 32 0x11 ++
      [0, 0, 0, 0, 0, 0xFD, 0xFF, 0xFF, 0xFF, 0, 0, 0, 0, 0, 0]) tx := by
  refine (parse_transaction_iff_word _).2.1 ((parse_transaction_iff_word _).1.mp
    ⟨⟨2, [⟨⟨List.replicate 32 0x11, by decide +kernel⟩, 0, ⟨[], by decide +kernel⟩,
      0xFFFFFFFD, []⟩], [], 0⟩, ?_⟩)
  rw [parse_transaction, fromhex_hex]
  decide +kernel

end Superorganism.Tx

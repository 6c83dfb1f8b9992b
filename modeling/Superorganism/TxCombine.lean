/-
`combine_anyonecanpay_pledges`: when it succeeds, and what it produces.

The loop keeps the set of outpoints it has seen; its invariant is
`combine_inputs_eq_ok`: it succeeds on a list exactly when every transaction of the
list has one input and the first one's outputs, locktime and version, and the
outpoints are new and pairwise distinct, and then it returns the inputs in order.
The seen-set is keyed by text, `outpoint_key_inj` takes it back to the bytes.

What makes the result useful is that nothing a pledger signed moves. An
ALL|ANYONECANPAY signature covers the version, the signed outpoint and its sequence,
all outputs and the locktime, and for each of the pledges these are the same in the
pledge and in the combined transaction.
-/
import Superorganism.TxRoundTrip

set_option autoImplicit false

open Superorganism.Bytes Superorganism.Py Superorganism.Format

namespace Superorganism.Tx

/-! ## The statement -/

/-- The outpoint an input spends. -/
def TxInput.outpoint (txin : TxInput) : PyBytes × ℤ := (txin.prev_txid_le, txin.vout)

/-- The parsed pledges can share one transaction. -/
structure Compatible (txs : List BitcoinTransaction) : Prop where
  one_input : ∀ tx ∈ txs, tx.inputs.length = 1
  outputs : ∀ a ∈ txs, ∀ b ∈ txs, a.outputs = b.outputs
  locktime : ∀ a ∈ txs, ∀ b ∈ txs, a.locktime = b.locktime
  version : ∀ a ∈ txs, ∀ b ∈ txs, a.version = b.version
  outpoints : ((txs.flatMap (·.inputs)).map TxInput.outpoint).Nodup

/-- A transaction with the pledges' version, outputs and locktime whose inputs are the
pledges' inputs in order. -/
structure Combines (txs : List BitcoinTransaction) (final : BitcoinTransaction) : Prop where
  version : ∀ tx ∈ txs, final.version = tx.version
  outputs : ∀ tx ∈ txs, final.outputs = tx.outputs
  locktime : ∀ tx ∈ txs, final.locktime = tx.locktime
  inputs : final.inputs = txs.flatMap (·.inputs)

/-- The texts parse as these transactions, one each. -/
def ParseAll (hexes : List String) (txs : List BitcoinTransaction) : Prop :=
  List.Forall₂ (fun h tx => parse_transaction h = .ok tx) hexes txs

/-- What an ALL|ANYONECANPAY signature of input `i` covers: version, outpoint,
sequence, outputs and locktime. -/
def BitcoinTransaction.signedData (tx : BitcoinTransaction) (i : ℕ) :
    Option (ℤ × (PyBytes × ℤ) × ℤ × List TxOutput × ℤ) :=
  tx.inputs[i]?.map fun txin =>
    (tx.version, txin.outpoint, txin.sequence, tx.outputs, tx.locktime)

/-! ## The loop -/

theorem outpoint_key_inj {a b : TxInput} :
    a.outpoint_key = b.outpoint_key ↔ a.outpoint = b.outpoint := by
  simp only [TxInput.outpoint_key, TxInput.outpoint, Prod.mk.injEq, hex_injective.eq_iff,
    List.reverse_inj]
  exact and_congr_left fun _ => ⟨fun h => PySeq.ext h, fun h => by rw [h]⟩

theorem nodup_outpoint_key (txins : List TxInput) :
    (txins.map TxInput.outpoint_key).Nodup ↔ (txins.map TxInput.outpoint).Nodup := by
  simp only [List.Nodup, List.pairwise_map, ne_eq, outpoint_key_inj]

/-- What the loop checks of one transaction. -/
def Fits (first tx : BitcoinTransaction) : Prop :=
  tx.inputs.length = 1 ∧ tx.outputs = first.outputs ∧ tx.locktime = first.locktime ∧
    tx.version = first.version

/-- One turn of the loop. -/
theorem combine_inputs_cons_eq_ok {first tx : BitcoinTransaction}
    {txs : List BitcoinTransaction} {seen : List (String × ℤ)} {ins : List TxInput} :
    combine_inputs first (tx :: txs) seen = .ok ins ↔
      ∃ txin rest, tx.inputs = [txin] ∧ Fits first tx ∧ txin.outpoint_key ∉ seen ∧
        combine_inputs first txs (txin.outpoint_key :: seen) = .ok rest ∧ ins = txin :: rest := by
  rw [combine_inputs, Fits]
  split
  · rename_i txin htx
    rw [htx]
    split_ifs with h1 h2 h3 h4
    -- the checks in the order of the source; each that fails denies its part of the right side
    · exact ⟨fun h => (by cases h), fun ⟨_, _, _, h, _⟩ => absurd h.2.1 h1⟩
    · exact ⟨fun h => (by cases h), fun ⟨_, _, _, h, _⟩ => absurd h.2.2.1 h2⟩
    · exact ⟨fun h => (by cases h), fun ⟨_, _, _, h, _⟩ => absurd h.2.2.2 h3⟩
    · refine ⟨fun h => (by cases h), ?_⟩
      rintro ⟨t, _, ht, -, hnew, -⟩
      obtain rfl : txin = t := by simpa using ht
      exact absurd h4 hnew
    · rw [bind_eq_ok]
      constructor
      · rintro ⟨rest, hrest, h⟩
        exact ⟨txin, rest, rfl, ⟨rfl, not_not.mp h1, not_not.mp h2, not_not.mp h3⟩, h4, hrest,
          (Except.ok.inj h).symm⟩
      · rintro ⟨t, rest, ht, -, -, hrest, rfl⟩
        obtain rfl : txin = t := by simpa using ht
        exact ⟨rest, hrest, rfl⟩
  · rename_i hne
    refine ⟨fun h => (by cases h), ?_⟩
    rintro ⟨txin, -, htx, -⟩
    exact absurd htx (hne txin)

/-- **The loop invariant.** The loop succeeds on a list exactly when every transaction
fits the first one and the outpoints are pairwise distinct and unseen, and it returns
the inputs in order. -/
theorem combine_inputs_eq_ok {first : BitcoinTransaction} {txs : List BitcoinTransaction}
    {seen : List (String × ℤ)} {ins : List TxInput} :
    combine_inputs first txs seen = .ok ins ↔
      (∀ tx ∈ txs, Fits first tx) ∧ ins = txs.flatMap (·.inputs) ∧
        (ins.map TxInput.outpoint_key).Nodup ∧ ∀ txin ∈ ins, txin.outpoint_key ∉ seen := by
  induction txs generalizing seen ins with
  | nil =>
      rw [combine_inputs]
      constructor
      · intro h
        obtain rfl : [] = ins := Except.ok.inj h
        simp
      · rintro ⟨-, rfl, -⟩
        rfl
  | cons tx txs ih =>
      rw [combine_inputs_cons_eq_ok]
      constructor
      · rintro ⟨txin, rest, htx, hfit, hnew, hrest, rfl⟩
        obtain ⟨hall, rfl, hnodup, hseen⟩ := ih.mp hrest
        simp only [List.mem_cons, not_or] at hseen
        refine ⟨?_, by rw [List.flatMap_cons, htx]; rfl, ?_, ?_⟩
        · intro t ht
          rcases List.mem_cons.mp ht with rfl | ht
          · exact hfit
          · exact hall t ht
        · rw [List.map_cons, List.nodup_cons]
          refine ⟨fun hmem => ?_, hnodup⟩
          obtain ⟨t, ht, hkey⟩ := List.mem_map.mp hmem
          exact (hseen t ht).1 hkey
        · intro t ht
          rcases List.mem_cons.mp ht with rfl | ht
          · exact hnew
          · exact (hseen t ht).2
      · -- the outpoint just read joins those that the later ones must differ from
        rintro ⟨hall, rfl, hnodup, hseen⟩
        have hfit := hall tx List.mem_cons_self
        obtain ⟨txin, htx⟩ := List.length_eq_one_iff.mp hfit.1
        have hflat : (tx :: txs).flatMap (·.inputs) = txin :: txs.flatMap (·.inputs) := by
          rw [List.flatMap_cons, htx]
          rfl
        rw [hflat] at hnodup hseen
        rw [List.map_cons, List.nodup_cons] at hnodup
        refine ⟨txin, txs.flatMap (·.inputs), htx, hfit, hseen txin List.mem_cons_self,
          ih.mpr ⟨fun t ht => hall t (List.mem_cons_of_mem tx ht), rfl, hnodup.2, ?_⟩, hflat⟩
        intro t ht hmem
        rcases List.mem_cons.mp hmem with hkey | hmem
        · exact hnodup.1 (hkey ▸ List.mem_map_of_mem ht)
        · exact hseen t (List.mem_cons_of_mem txin ht) hmem

/-! ## The whole function -/

/-- Combining compatible pledges is writing out the transaction that combines them. -/
theorem combine_eq_ok {hexes : List String} {out : String} :
    combine_anyonecanpay_pledges hexes = .ok out ↔
      ∃ txs final, hexes ≠ [] ∧ ParseAll hexes txs ∧ Compatible txs ∧ Combines txs final ∧
        final.to_hex = .ok out := by
  cases hexes with
  | nil =>
      rw [combine_anyonecanpay_pledges]
      exact ⟨fun h => (by cases h), fun ⟨_, _, h, _⟩ => absurd rfl h⟩
  | cons raw raws =>
      rw [combine_anyonecanpay_pledges, bind_eq_ok]
      constructor
      · -- fitting the first transaction, any two fit each other
        rintro ⟨first, hfirst, h⟩
        obtain ⟨rest, hrest, h⟩ := bind_eq_ok.mp h
        obtain ⟨ins, hins, h⟩ := bind_eq_ok.mp h
        obtain ⟨hfit, rfl, hnodup, -⟩ := combine_inputs_eq_ok.mp hins
        have hparse : ParseAll (raw :: raws) (first :: rest) :=
          List.Forall₂.cons hfirst (mapM_eq_ok.mp hrest)
        refine ⟨first :: rest, _, List.cons_ne_nil _ _, hparse, ?_, ?_, h⟩
        · refine ⟨fun tx htx => (hfit tx htx).1, fun a ha b hb => ?_, fun a ha b hb => ?_,
            fun a ha b hb => ?_, (nodup_outpoint_key _).mp hnodup⟩
          · rw [(hfit a ha).2.1, (hfit b hb).2.1]
          · rw [(hfit a ha).2.2.1, (hfit b hb).2.2.1]
          · rw [(hfit a ha).2.2.2, (hfit b hb).2.2.2]
        · exact ⟨fun tx htx => (hfit tx htx).2.2.2.symm, fun tx htx => (hfit tx htx).2.1.symm,
            fun tx htx => (hfit tx htx).2.2.1.symm, rfl⟩
      · rintro ⟨txs, final, -, hparse, hcomp, hfinal, hhex⟩
        cases hparse with
        | @cons _ first _ rest hfirst hrest =>
            have hmem : first ∈ first :: rest := List.mem_cons_self
            refine ⟨first, hfirst, bind_eq_ok.mpr ⟨rest, mapM_eq_ok.mpr hrest, bind_eq_ok.mpr
              ⟨(first :: rest).flatMap (·.inputs), combine_inputs_eq_ok.mpr ⟨?_, rfl,
                (nodup_outpoint_key _).mpr hcomp.outpoints, fun _ _ => List.not_mem_nil⟩, ?_⟩⟩⟩
            · exact fun tx htx => ⟨hcomp.one_input tx htx, hcomp.outputs tx htx first hmem,
                hcomp.locktime tx htx first hmem, hcomp.version tx htx first hmem⟩
            · obtain ⟨hv, ho, hl, hi⟩ := hfinal
              rw [← hv first hmem, ← ho first hmem, ← hl first hmem, ← hi]
              exact hhex

/-- Every element of a parsed list came out of the parser. -/
theorem ParseAll.mem {hexes : List String} {txs : List BitcoinTransaction}
    (h : ParseAll hexes txs) : ∀ tx ∈ txs, ∃ t, parse_transaction t = .ok tx := by
  induction h with
  | nil => intro tx htx; cases htx
  | @cons t _ _ _ ht _ ih =>
      intro tx htx
      rcases List.mem_cons.mp htx with rfl | htx
      · exact ⟨t, ht⟩
      · exact ih tx htx

theorem parseAll_unique {hexes : List String} {txs txs' : List BitcoinTransaction}
    (h : ParseAll hexes txs) (h' : ParseAll hexes txs') : txs = txs' := by
  induction h generalizing txs' with
  | nil => exact (List.forall₂_nil_left_iff.mp h').symm
  | cons ht _ ih =>
      obtain ⟨tx', rest', ht', hrest', rfl⟩ := List.forall₂_cons_left_iff.mp h'
      rw [ht] at ht'
      rw [Except.ok.inj ht', ih hrest']

/-- With one input each, there are as many inputs as pledges, and the `i`-th input is
the input of the `i`-th pledge. -/
theorem getElem?_flatMap_inputs {txs : List BitcoinTransaction}
    (h : ∀ tx ∈ txs, tx.inputs.length = 1) (i : ℕ) :
    (txs.flatMap (·.inputs))[i]? = txs[i]?.bind fun tx => tx.inputs[0]? := by
  induction txs generalizing i with
  | nil => simp
  | cons tx txs ih =>
      obtain ⟨txin, htx⟩ := List.length_eq_one_iff.mp (h tx List.mem_cons_self)
      rw [List.flatMap_cons, htx, List.singleton_append]
      cases i with
      | zero => simp [htx]
      | succ i =>
          rw [List.getElem?_cons_succ, List.getElem?_cons_succ]
          exact ih (fun t ht => h t (List.mem_cons_of_mem tx ht)) i

theorem length_flatMap_inputs {txs : List BitcoinTransaction}
    (h : ∀ tx ∈ txs, tx.inputs.length = 1) : (txs.flatMap (·.inputs)).length = txs.length := by
  rw [List.length_flatMap, List.map_congr_left h]
  simp

/-- The combined transaction has its fields in range when there are fewer pledges than a
compact size can count. -/
theorem Combines.inRange {hexes : List String} {txs : List BitcoinTransaction}
    {final : BitcoinTransaction} (hfinal : Combines txs final) (hne : txs ≠ [])
    (hparse : ParseAll hexes txs) (hcomp : Compatible txs) (hlen : txs.length < 2 ^ 64) :
    final.InRange := by
  have hrange : ∀ tx ∈ txs, tx.InRange := by
    intro tx htx
    obtain ⟨t, ht⟩ := hparse.mem tx htx
    obtain ⟨raw, -, hword⟩ := (parse_transaction_eq_ok t tx).mp ht
    exact hword.inRange
  obtain ⟨first, hfirst⟩ := List.exists_mem_of_ne_nil txs hne
  have hr := hrange first hfirst
  refine ⟨hfinal.version first hfirst ▸ hr.version, hfinal.locktime first hfirst ▸ hr.locktime,
    ?_, hfinal.outputs first hfirst ▸ hr.output_count, ?_, hfinal.outputs first hfirst ▸ hr.outputs⟩
  · rw [hfinal.inputs, length_flatMap_inputs hcomp.one_input]
    exact hlen
  · intro txin hmem
    rw [hfinal.inputs] at hmem
    obtain ⟨tx, htx, hin⟩ := List.mem_flatMap.mp hmem
    exact (hrange tx htx).inputs txin hin

/-- Compatible pledges have a combination. -/
theorem Compatible.exists_combines {txs : List BitcoinTransaction} (h : Compatible txs)
    (hne : txs ≠ []) : ∃ final, Combines txs final := by
  obtain ⟨first, hfirst⟩ := List.exists_mem_of_ne_nil txs hne
  exact ⟨⟨first.version, txs.flatMap (·.inputs), first.outputs, first.locktime⟩,
    fun tx htx => h.version first hfirst tx htx, fun tx htx => h.outputs first hfirst tx htx,
    fun tx htx => h.locktime first hfirst tx htx, rfl⟩

/-- The signed data of every pledge is the same in the combined transaction. -/
theorem Combines.signedData_eq {txs : List BitcoinTransaction} {final : BitcoinTransaction}
    (hfinal : Combines txs final) (hone : ∀ tx ∈ txs, tx.inputs.length = 1) (i : ℕ)
    (tx : BitcoinTransaction) (hi : txs[i]? = some tx) :
    final.signedData i = tx.signedData 0 := by
  have hmem : tx ∈ txs := List.mem_of_getElem? hi
  rw [BitcoinTransaction.signedData, BitcoinTransaction.signedData, hfinal.inputs,
    getElem?_flatMap_inputs hone, hi, Option.bind_some, hfinal.version tx hmem,
    hfinal.outputs tx hmem, hfinal.locktime tx hmem]

/-- The text of a combination parses back. Only this uses that a list object is shorter
than `2 ^ 64`. -/
theorem Combines.parse_to_hex {hexes : PySeq String} {txs : List BitcoinTransaction}
    {final : BitcoinTransaction} (hfinal : Combines txs final) (hne : hexes.toList ≠ [])
    (hparse : ParseAll hexes.toList txs) (hcomp : Compatible txs) :
    ∃ text, final.to_hex = .ok text ∧ parse_transaction text = .ok final := by
  have hlen : txs.length = hexes.length := hparse.length_eq.symm
  have htxs : txs ≠ [] := by
    rintro rfl
    exact hne (List.length_eq_zero_iff.mp hlen.symm)
  have hrange := hfinal.inRange htxs hparse hcomp (hlen ▸ hexes.length_lt)
  refine Tx.parse_to_hex hrange ?_
  intro hnil
  have h0 := length_flatMap_inputs hcomp.one_input
  rw [← hfinal.inputs, hnil, List.length_nil] at h0
  exact htxs (List.length_eq_zero_iff.mp h0.symm)

/-- When the combination succeeds. -/
theorem combine_isOk_iff (hexes : PySeq String) :
    (∃ out, combine_anyonecanpay_pledges hexes.toList = .ok out) ↔
      hexes.toList ≠ [] ∧ ∃ txs, ParseAll hexes.toList txs ∧ Compatible txs := by
  constructor
  · rintro ⟨out, h⟩
    obtain ⟨txs, -, hne, hparse, hcomp, -⟩ := combine_eq_ok.mp h
    exact ⟨hne, txs, hparse, hcomp⟩
  · rintro ⟨hne, txs, hparse, hcomp⟩
    have htxs : txs ≠ [] := by
      rintro rfl
      exact hne (List.forall₂_nil_right_iff.mp hparse)
    obtain ⟨final, hfinal⟩ := hcomp.exists_combines htxs
    obtain ⟨text, hhex, -⟩ := hfinal.parse_to_hex hne hparse hcomp
    exact ⟨text, combine_eq_ok.mpr ⟨txs, final, hne, hparse, hcomp, hfinal, hhex⟩⟩

/-- **Combining pledges.** `combine_anyonecanpay_pledges` succeeds exactly when the list is
not empty, every text parses, every transaction has one input, all have the same outputs,
locktime and version, and the outpoints are pairwise distinct. The text it returns then
parses as the transaction with that version, those outputs and that locktime whose inputs
are the pledges' inputs in list order, and for every index the data an ALL|ANYONECANPAY
signature covers is the same in the pledge and in the combined transaction. -/
theorem combine_anyonecanpay_pledges_spec (hexes : PySeq String) :
    ((∃ out, combine_anyonecanpay_pledges hexes.toList = .ok out) ↔
      hexes.toList ≠ [] ∧ ∃ txs, ParseAll hexes.toList txs ∧ Compatible txs) ∧
    ∀ out, combine_anyonecanpay_pledges hexes.toList = .ok out →
      ∃ txs final, ParseAll hexes.toList txs ∧ parse_transaction out = .ok final ∧
        Combines txs final ∧
        ∀ i tx, txs[i]? = some tx → final.signedData i = tx.signedData 0 := by
  refine ⟨combine_isOk_iff hexes, fun out h => ?_⟩
  obtain ⟨txs, final, hne, hparse, hcomp, hfinal, hhex⟩ := combine_eq_ok.mp h
  obtain ⟨text, hhex', hpt⟩ := hfinal.parse_to_hex hne hparse hcomp
  rw [hhex] at hhex'
  obtain rfl : out = text := Except.ok.inj hhex'
  exact ⟨txs, final, hparse, hpt, hfinal, hfinal.signedData_eq hcomp.one_input⟩

/-- Two pledges to one output, one signed by a witness and one by a script. -/
def mixedPledges : PySeq String where
  toList := [
    hex ([2, 0, 0, 0, 0, 1, 1] ++ List.replicate 32 0x11 ++ [0, 0, 0, 0, 0, 0xFD, 0xFF, 0xFF, 0xFF,
      1, 0x50, 0xC3, 0, 0, 0, 0, 0, 0, 1, 0x51, 1, 1, 0xAA, 0, 0, 0, 0]),
    hex ([2, 0, 0, 0, 1] ++ List.replicate 32 0x22 ++ [1, 0, 0, 0, 1, 0x51, 0xFD, 0xFF, 0xFF, 0xFF,
      1, 0x50, 0xC3, 0, 0, 0, 0, 0, 0, 1, 0x51, 0, 0, 0, 0])]
  length_le := by decide +kernel

/-- The two pledges combine into the transaction with both inputs. -/
theorem combine_mixedPledges :
    ∃ out txs, combine_anyonecanpay_pledges mixedPledges.toList = .ok out ∧
      ParseAll mixedPledges.toList txs ∧ parse_transaction out = .ok mixedTransaction ∧
      ∀ i tx, txs[i]? = some tx → mixedTransaction.signedData i = tx.signedData 0 := by
  have hparse : ParseAll mixedPledges.toList (mixedTransaction.inputs.map fun txin =>
      { mixedTransaction with inputs := [txin] }) := by
    refine .cons ?_ (.cons ?_ .nil)
    · rw [parse_transaction, fromhex_hex]
      decide +kernel
    · rw [parse_transaction, fromhex_hex]
      decide +kernel
  have hcomp : Compatible (mixedTransaction.inputs.map fun txin =>
      { mixedTransaction with inputs := [txin] }) :=
    ⟨by decide +kernel, by decide +kernel, by decide +kernel, by decide +kernel, by decide +kernel⟩
  obtain ⟨out, hout⟩ := (combine_anyonecanpay_pledges_spec mixedPledges).1.mpr
    ⟨by simp [mixedPledges], _, hparse, hcomp⟩
  obtain ⟨txs, final, hparse', hfinal, hcombines, hsigned⟩ :=
    (combine_anyonecanpay_pledges_spec mixedPledges).2 out hout
  obtain rfl := parseAll_unique hparse hparse'
  have hmixed : final = mixedTransaction := by
    obtain ⟨version, inputs, outputs, locktime⟩ := final
    have hv := hcombines.version _ List.mem_cons_self
    have ho := hcombines.outputs _ List.mem_cons_self
    have hl := hcombines.locktime _ List.mem_cons_self
    have hi := hcombines.inputs
    simp only at hv ho hl hi
    rw [hv, ho, hl, hi]
    rfl
  subst hmixed
  exact ⟨out, _, hout, hparse, hfinal, hsigned⟩

end Superorganism.Tx

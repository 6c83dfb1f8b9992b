/-
Codes that tell where they end.

An encoder is *self-delimiting* on the values of a set when no encoding of one of them, with
anything behind it, starts like the encoding of another. A record that is written field by
field by such encoders can be taken apart again field by field: from two equal byte strings
the first fields are equal, and the rests (`SelfDelimiting.split`). An encoder of a fixed
width is self-delimiting if it is injective, and so is any text behind its length.

The second half is about fixed-width integers in big-endian order and about UTF-8. Nothing
here is about one record.
-/
import Superorganism.Py

set_option autoImplicit false

open Superorganism.Bytes Superorganism.Py

namespace Superorganism.Codes

/-! ## Self-delimiting encoders -/

section

variable {τ α β : Type} {P : α → Prop} {encode : α → List τ}

/-- The encodings of values in `P`, with what stands behind them, determine the value and
the rest. -/
def SelfDelimiting (P : α → Prop) (encode : α → List τ) : Prop :=
  ∀ a b rest rest', P a → P b → encode a ++ rest = encode b ++ rest' → a = b ∧ rest = rest'

/-- The first field and the rest of two equal byte strings. -/
theorem SelfDelimiting.split (h : SelfDelimiting P encode) {a b : α} (ha : P a) (hb : P b)
    {rest rest' : List τ} (heq : encode a ++ rest = encode b ++ rest') : a = b ∧ rest = rest' :=
  h a b rest rest' ha hb heq

/-- The last field. -/
theorem SelfDelimiting.eq (h : SelfDelimiting P encode) {a b : α} (ha : P a) (hb : P b)
    (heq : encode a = encode b) : a = b := by
  have happ : encode a ++ [] = encode b ++ [] := by rw [heq]
  exact (h.split ha hb happ).1

/-- Encodings of one length end where they have to. -/
theorem selfDelimiting_of_width {width : ℕ} (hwidth : ∀ a, P a → (encode a).length = width)
    (hinj : ∀ a b, P a → P b → encode a = encode b → a = b) : SelfDelimiting P encode := by
  intro a b rest rest' ha hb heq
  obtain ⟨hfield, hrest⟩ := List.append_inj heq ((hwidth a ha).trans (hwidth b hb).symm)
  exact ⟨hinj a b ha hb hfield, hrest⟩

/-- A text behind its length. -/
theorem selfDelimiting_prefixed {lengths : ℕ → Prop} {encodeLength : ℕ → List τ}
    (h : SelfDelimiting lengths encodeLength) :
    SelfDelimiting (fun text : List τ => lengths text.length)
      (fun text => encodeLength text.length ++ text) := by
  intro a b rest rest' ha hb heq
  rw [List.append_assoc, List.append_assoc] at heq
  obtain ⟨hlength, htext⟩ := h.split ha hb heq
  exact List.append_inj htext hlength

/-- A value that is written as another one. -/
theorem SelfDelimiting.comap (h : SelfDelimiting P encode) {f : β → α}
    (hf : Function.Injective f) :
    SelfDelimiting (fun b => P (f b)) (fun b => encode (f b)) := by
  intro a b rest rest' ha hb heq
  obtain ⟨hfield, hrest⟩ := h.split ha hb heq
  exact ⟨hf hfield, hrest⟩

theorem SelfDelimiting.mono {Q : α → Prop} (h : SelfDelimiting P encode) (hQ : ∀ a, Q a → P a) :
    SelfDelimiting Q encode :=
  fun a b rest rest' ha hb heq => h a b rest rest' (hQ a ha) (hQ b hb) heq

end

/-! ## Integers of a fixed width -/

/-- Reading a byte string and writing the number is the identity. -/
theorem leOfNat_natOfLE (bs : List UInt8) : leOfNat bs.length (natOfLE bs) = bs := by
  induction bs with
  | nil => rfl
  | cons b bs ih =>
      have hb : b.toNat < 256 := b.toNat_lt
      have hlow : (b.toNat + 256 * natOfLE bs) % 256 = b.toNat := by omega
      have hhigh : (b.toNat + 256 * natOfLE bs) / 256 = natOfLE bs := by omega
      rw [List.length_cons, leOfNat, natOfLE, hhigh, ih]
      congr 1
      apply UInt8.toNat_inj.mp
      rw [UInt8.toNat_ofNat', hlow]

theorem beOfNat_natOfBE {k : ℕ} {bs : List UInt8} (h : bs.length = k) :
    beOfNat k (natOfBE bs) = bs := by
  rw [beOfNat, natOfBE, ← h, ← List.length_reverse, leOfNat_natOfLE, List.reverse_reverse]

theorem natOfBE_lt (bs : List UInt8) : natOfBE bs < 256 ^ bs.length := by
  rw [natOfBE, ← List.length_reverse]
  exact natOfLE_lt bs.reverse

theorem beOfNat_inj {k a b : ℕ} (ha : a < 256 ^ k) (hb : b < 256 ^ k)
    (h : beOfNat k a = beOfNat k b) : a = b := by
  rw [← natOfBE_beOfNat k a ha, ← natOfBE_beOfNat k b hb, h]

theorem selfDelimiting_beOfNat (k : ℕ) : SelfDelimiting (· < 256 ^ k) (beOfNat k) :=
  selfDelimiting_of_width (fun a _ => beOfNat_length k a) fun _ _ ha hb => beOfNat_inj ha hb

/-- A byte string behind its length in `k` bytes. -/
theorem selfDelimiting_bytes (k : ℕ) :
    SelfDelimiting (fun text : List UInt8 => text.length < 256 ^ k)
      (fun text => beOfNat k text.length ++ text) :=
  selfDelimiting_prefixed (selfDelimiting_beOfNat k)

/-- The bytes of a UUID. -/
theorem uuid_bytes_injective : Function.Injective UUID.bytes := by
  intro a b h
  have hbound (u : UUID) : u.toNat < 256 ^ 16 := lt_of_lt_of_eq u.isLt (by norm_num)
  exact BitVec.eq_of_toNat_eq (beOfNat_inj (hbound a) (hbound b) h)

theorem selfDelimiting_uuid : SelfDelimiting (fun _ => True) UUID.bytes :=
  selfDelimiting_of_width (fun u _ => by rw [UUID.bytes, beOfNat_length])
    fun _ _ _ _ h => uuid_bytes_injective h

theorem exists_uuid {bs : List UInt8} (h : bs.length = 16) : ∃ u : UUID, u.bytes = bs := by
  refine ⟨BitVec.ofNat 128 (natOfBE bs), ?_⟩
  have hlt : natOfBE bs < 2 ^ 128 := by
    have := natOfBE_lt bs
    rw [h] at this
    exact lt_of_lt_of_eq this (by norm_num)
  rw [UUID.bytes, BitVec.toNat_ofNat, Nat.mod_eq_of_lt hlt, beOfNat_natOfBE h]

/-! ## UTF-8 -/

theorem utf8_injective : Function.Injective utf8 := by
  intro a b h
  have hbytes (s : String) : s.toByteArray = (utf8 s).toByteArray := by
    rw [utf8, ← List.utf8Encode, ← String.toByteArray_ofList, String.ofList_toList]
  apply String.toByteArray_inj.mp
  rw [hbytes a, hbytes b, h]

end Superorganism.Codes

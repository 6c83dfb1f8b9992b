/-
The serializer of `ipv8/messaging/serialization.py`: packers that read at an offset of a buffer,
and the loops over the formats of a payload class.

A payload is a list of fields, one for each name of the `format_list` of its class. Modelled are
the formats of the integers, of the byte strings and of the texts; every exception that a packer
raises is a `PackError` where the loops let it out. The slices of the packers do not fail behind
the end of the buffer.

`unpack_serializable_list_iff` says what the loop accepts from a buffer that it is to consume: what
is packed, or a buffer that ends within a last byte string or text.
-/
import Superorganism.Wire

set_option autoImplicit false

open Superorganism.Bytes Superorganism.Py Superorganism.Codes Superorganism.Wire

namespace Superorganism.Ipv8

/-- The exceptions, by class. -/
inductive WireError where
  /-- `struct.error`. -/
  | error
  | TypeError
  | AttributeError
  | UnicodeDecodeError
  | IndexError
  | PackError
  | PacketDecodingError
  | ValueError
deriving DecidableEq, Repr

/-- What stands in a field. -/
inductive Field where
  | int (n : ℤ)
  | bytes (data : List UInt8)
  | str (text : String)
deriving DecidableEq, Repr

/-! ## Packers -/

structure Packer where
  pack : Field → Except WireError (List UInt8)
  unpack : List UInt8 → ℕ → Except WireError (Field × ℕ)

/-- The bytes that `unpack_from` reads. -/
def unpack_from (size : ℕ) (data : List UInt8) (offset : ℕ) : Except WireError (List UInt8) :=
  if offset + size ≤ data.length then .ok ((data.drop offset).take size) else .error .error

/-- `data[first:last]`, for bounds that are not negative. -/
def slice (data : List UInt8) (first last : ℕ) : List UInt8 := (data.take last).drop first

/-- `struct.pack` of an integer, as two's complement if it is signed. -/
def struct_pack (size : ℕ) (signed : Bool) (n : ℤ) : Except WireError (List UInt8) :=
  if signed then
    if -(256 ^ size : ℕ) ≤ 2 * n ∧ 2 * n < (256 ^ size : ℕ) then
      .ok (beOfNat size (n % (256 ^ size : ℕ)).toNat)
    else .error .error
  else if 0 ≤ n ∧ n < (256 ^ size : ℕ) then .ok (beOfNat size n.toNat)
  else .error .error

/-- The integer that was read. -/
def struct_value (size : ℕ) (signed : Bool) (w : List UInt8) : ℤ :=
  if signed ∧ 256 ^ size ≤ 2 * natOfBE w then (natOfBE w : ℤ) - (256 ^ size : ℕ) else natOfBE w

/-- `bytes.decode`. -/
def decode (data : List UInt8) : Except WireError String :=
  match String.fromUTF8? data.toByteArray with
  | some text => .ok text
  | none => .error .UnicodeDecodeError

namespace Packer

/-- A `DefaultStruct` of one integer. -/
def DefaultStruct (size : ℕ) (signed : Bool) : Packer where
  pack
    | .int n => struct_pack size signed n
    | _ => throw .error
  unpack data offset := do
    let w ← unpack_from size data offset
    pure (.int (struct_value size signed w), offset + size)

def pack_block (length_size : ℕ) (data : List UInt8) : Except WireError (List UInt8) := do
  let length ← struct_pack length_size false data.length
  pure (length ++ data)

def unpack_block (length_size : ℕ) (data : List UInt8) (offset : ℕ) :
    Except WireError (List UInt8 × ℕ) := do
  let length ← unpack_from length_size data offset
  let str_length := natOfBE length
  pure (slice data (offset + length_size) (offset + length_size + str_length),
    offset + length_size + str_length)

/-- `VarLen`, with a base of 1. -/
def VarLen (length_size : ℕ) : Packer where
  pack
    | .bytes data => pack_block length_size data
    | _ => throw .TypeError
  unpack data offset := do
    let (text, offset) ← unpack_block length_size data offset
    pure (.bytes text, offset)

def VarLenUtf8 (length_size : ℕ) : Packer where
  pack
    | .str text => pack_block length_size (utf8 text)
    | _ => throw .AttributeError
  unpack data offset := do
    let (encoded, offset) ← unpack_block length_size data offset
    let text ← decode encoded
    pure (.str text, offset)

end Packer

/-! ## The serializer -/

namespace Serializer

/-- The registered formats of integers, byte strings and texts. -/
def packers : String → Option Packer
  | "B" => some (.DefaultStruct 1 false)
  | "H" => some (.DefaultStruct 2 false)
  | "I" => some (.DefaultStruct 4 false)
  | "l" => some (.DefaultStruct 4 true)
  | "q" => some (.DefaultStruct 8 true)
  | "Q" => some (.DefaultStruct 8 false)
  | "varlenH" => some (.VarLen 2)
  | "varlenHutf8" => some (.VarLenUtf8 2)
  | "varlenIutf8" => some (.VarLenUtf8 4)
  | "varlenI" => some (.VarLen 4)
  | "doublevarlenH" => some (.VarLen 2)
  | _ => none

/-- The loop over a pack list. A name that is not registered is a `KeyError`, and that is a
`PackError` too. -/
def pack_serializable : List (String × Field) → Except WireError (List UInt8)
  | [] => pure []
  | (fmt, value) :: packables =>
    match packers fmt with
    | none => throw .PackError
    | some packer => do
      let packed ← (packer.pack value).mapError fun _ => WireError.PackError
      let rest ← pack_serializable packables
      pure (packed ++ rest)

/-- The loop over the formats of a class. A name that is not registered is taken for a class, which
`issubclass` refuses. -/
def unpack_serializable (data : List UInt8) : List String → ℕ → Except WireError (List Field × ℕ)
  | [], offset => pure ([], offset)
  | fmt :: fmts, offset =>
    match packers fmt with
    | none => throw .TypeError
    | some packer => do
      let (value, offset) ← (packer.unpack data offset).mapError fun _ => WireError.PackError
      let (values, offset) ← unpack_serializable data fmts offset
      pure (value :: values, offset)

def unpack_each (data : List UInt8) : List (List String) → ℕ →
    Except WireError (List (List Field) × ℕ)
  | [], offset => pure ([], offset)
  | format_list :: classes, offset => do
    let (payload, offset) ← unpack_serializable data format_list offset
    let (payloads, offset) ← unpack_each data classes offset
    pure (payload :: payloads, offset)

/-- `unpack_serializable_list`, with `consume_all`. -/
def unpack_serializable_list (classes : List (List String)) (data : List UInt8) (offset : ℕ) :
    Except WireError (List (List Field)) := do
  let (unpacked, offset) ← unpack_each data classes offset
  if data.drop offset ≠ [] then throw .PackError
  else pure unpacked

end Serializer

/-! ## Integers and texts -/

section

variable {size : ℕ} {n : ℤ} {w : List UInt8}

/-- A remainder `m` stands for `n` in two's complement. -/
theorem twos_complement {N m : ℕ} (hm : m < N) :
    ((-(N : ℤ) ≤ 2 * n ∧ 2 * n < N) ∧ (n % N).toNat = m) ↔
      (if N ≤ 2 * m then (m : ℤ) - N else m) = n := by
  constructor
  · rintro ⟨⟨hlow, hhigh⟩, rfl⟩
    rcases le_or_gt 0 n with hn | hn
    · rw [Int.emod_eq_of_lt hn (by omega), if_neg (by omega), Int.toNat_of_nonneg hn]
    · have hmod : n % N = n + N := by
        rw [← Int.add_emod_right, Int.emod_eq_of_lt (by omega) (by omega)]
      rw [hmod, if_pos (by omega), Int.toNat_of_nonneg (by omega)]
      omega
  · intro h
    split_ifs at h with hhalf
    · have hmod : n % N = m := by
        rw [← h, Int.sub_emod_right, Int.emod_eq_of_lt (by omega) (by omega)]
      rw [hmod]
      omega
    · rw [← h, Int.emod_eq_of_lt (by omega) (by omega)]
      omega

/-- The words that are written of an integer are those that are read as it. -/
theorem struct_pack_eq_ok {signed : Bool} :
    struct_pack size signed n = .ok w ↔ w.length = size ∧ struct_value size signed w = n := by
  have hwords (m : ℕ) (hm : m < 256 ^ size) : beOfNat size m = w ↔ w.length = size ∧ natOfBE w = m := by
    constructor
    · rintro rfl
      exact ⟨beOfNat_length size m, natOfBE_beOfNat size m hm⟩
    · rintro ⟨hlen, rfl⟩
      exact beOfNat_natOfBE hlen
  have hbound (hlen : w.length = size) : natOfBE w < 256 ^ size := by
    rw [← hlen]
    exact natOfBE_lt w
  have hpos : 0 < 256 ^ size := Nat.pow_pos (by omega)
  rw [struct_pack]
  cases signed with
  | false =>
      have hvalue : struct_value size false w = natOfBE w := by
        rw [struct_value, if_neg (fun h => by cases h.1)]
      rw [if_neg Bool.false_ne_true, hvalue]
      split_ifs with hn
      · rw [Except.ok.injEq, hwords _ (by omega)]
        exact and_congr_right fun _ => by omega
      · constructor
        · intro h
          cases h
        · rintro ⟨hlen, rfl⟩
          have := hbound hlen
          omega
  | true =>
      have hvalue : struct_value size true w =
          if 256 ^ size ≤ 2 * natOfBE w then (natOfBE w : ℤ) - (256 ^ size : ℕ) else natOfBE w := by
        simp only [struct_value, true_and]
      rw [if_pos rfl, hvalue]
      by_cases hn : -(256 ^ size : ℕ) ≤ 2 * n ∧ 2 * n < (256 ^ size : ℕ)
      · rw [if_pos hn]
        have hlt : (n % (256 ^ size : ℕ)).toNat < 256 ^ size := by
          have := Int.emod_nonneg n (b := (256 ^ size : ℕ)) (by omega)
          have := Int.emod_lt_of_pos n (b := (256 ^ size : ℕ)) (by omega)
          omega
        rw [Except.ok.injEq, hwords _ hlt]
        refine and_congr_right fun hlen => ?_
        rw [← twos_complement (hbound hlen), eq_comm]
        exact (and_iff_right hn).symm
      · rw [if_neg hn]
        constructor
        · intro h
          cases h
        · rintro ⟨hlen, h⟩
          exact absurd ((twos_complement (hbound hlen)).mpr h).1 hn

/-- A signed integer of eight bytes. -/
theorem struct_pack_isOk : (∃ w, struct_pack 8 true n = .ok w) ↔ -2 ^ 63 ≤ n ∧ n < 2 ^ 63 := by
  have hrange : (-((256 ^ 8 : ℕ) : ℤ) ≤ 2 * n ∧ 2 * n < (256 ^ 8 : ℕ)) ↔ -2 ^ 63 ≤ n ∧ n < 2 ^ 63 := by
    norm_num
    omega
  rw [struct_pack, if_pos rfl, ← hrange]
  split_ifs with hn
  · exact ⟨fun _ => hn, fun _ => ⟨_, rfl⟩⟩
  · constructor
    · rintro ⟨w, h⟩
      cases h
    · intro h
      exact absurd h hn

end

/-- What is decoded is what was encoded. -/
theorem decode_eq_ok {data : List UInt8} {text : String} : decode data = .ok text ↔ utf8 text = data := by
  have hbytes (s : String) : s.toByteArray = (utf8 s).toByteArray := by
    rw [utf8, ← List.utf8Encode, ← String.toByteArray_ofList, String.ofList_toList]
  rw [decode, String.fromUTF8?]
  constructor
  · intro h
    split_ifs at h with hvalid
    obtain rfl := Except.ok.inj h
    have hround := (hbytes (String.fromUTF8 data.toByteArray hvalid)).symm.trans rfl
    exact List.toByteArray_inj.mp hround
  · rintro rfl
    rw [← hbytes, dif_pos text.isValidUTF8]
    rfl

/-! ## What a packer does is what a codec does -/

/-- The packer writes and reads as the codec does, at every offset. Where a length stands in front
of the value, the data may end within it. -/
structure Packer.Follows (packer : Packer) (length_size : Option ℕ) (c : Codec WireError Field) :
    Prop where
  pack : ∀ x, packer.pack x = c.write x
  unpack : ∀ data offset,
    packer.unpack data offset = (c.read (data.drop offset)).map fun r => (r.1, offset + r.2)
  cut : ∀ {x s step}, c.Cut x s step ↔ ∃ k text n, length_size = some k ∧
    packer.pack x = .ok (beOfNat k text.length ++ text) ∧ text.length < n ∧ n < 256 ^ k ∧
    s = beOfNat k n ++ text ∧ step = k + n

theorem unpack_from_eq {size : ℕ} (hsize : 0 < size) (data : List UInt8) (offset : ℕ) :
    unpack_from size data offset =
      if size ≤ (data.drop offset).length then .ok ((data.drop offset).take size)
      else .error .error := by
  rw [unpack_from, List.length_drop]
  congr 1
  rw [eq_iff_iff]
  omega

section

variable {size : ℕ} (hsize : 0 < size) (signed : Bool)

def Field.as_int : Field → Except WireError ℤ
  | .int n => .ok n
  | _ => .error .error

def Field.as_bytes : Field → Except WireError (List UInt8)
  | .bytes data => .ok data
  | _ => .error .TypeError

/-- The text as it is encoded. -/
def Field.as_utf8 : Field → Except WireError (List UInt8)
  | .str text => .ok (utf8 text)
  | _ => .error .AttributeError

def intCodec : Codec WireError Field :=
  (Codec.fixed size hsize .error (struct_value size signed) (struct_pack size signed)
    struct_pack_eq_ok).via Field.as_int (fun n => .ok (.int n)) (by
      intro n x
      constructor
      · intro h
        rw [← Except.ok.inj h]
        rfl
      · intro h
        cases x with
        | int m => rw [Except.ok.inj h]
        | bytes data => cases h
        | str text => cases h)

def bytesCodec : Codec WireError Field :=
  (Codec.block size hsize .error .error).via Field.as_bytes (fun data => .ok (.bytes data)) (by
    intro data x
    constructor
    · intro h
      rw [← Except.ok.inj h]
      rfl
    · intro h
      cases x with
      | int m => cases h
      | bytes data => rw [Except.ok.inj h]
      | str text => cases h)

def utf8Codec : Codec WireError Field :=
  (Codec.block size hsize .error .error).via Field.as_utf8
    (fun data => decode data >>= fun text => pure (.str text)) (by
      intro data x
      constructor
      · intro h
        obtain ⟨text, htext, h⟩ := bind_eq_ok.mp h
        rw [← Except.ok.inj h, ← decode_eq_ok.mp htext]
        rfl
      · intro h
        cases x with
        | int m => cases h
        | bytes data => cases h
        | str text =>
            rw [decode_eq_ok.mpr (Except.ok.inj h)]
            rfl)

theorem DefaultStruct_follows :
    (Packer.DefaultStruct size signed).Follows none (intCodec hsize signed) where
  pack := by
    intro x
    cases x with
    | int n => rfl
    | bytes data => rfl
    | str text => rfl
  unpack := by
    intro data offset
    simp only [Packer.DefaultStruct, intCodec, Codec.via, Codec.fixed, unpack_from_eq hsize]
    split_ifs with hlen
    · rfl
    · rfl
  cut := by
    intro x s step
    constructor
    · rintro ⟨n, -, hcut⟩
      exact hcut.elim
    · rintro ⟨k, text, n, h, -⟩
      cases h

/-- The length is written as an unsigned integer. -/
theorem pack_block_eq (text : List UInt8) :
    Packer.pack_block size text = (Codec.block size hsize WireError.error WireError.error).write text := by
  simp only [Packer.pack_block, Codec.block, struct_pack, Bool.false_eq_true, if_false]
  have hbound : (0 ≤ (text.length : ℤ) ∧ (text.length : ℤ) < (256 ^ size : ℕ)) ↔
      text.length < 256 ^ size := by omega
  rw [if_congr hbound rfl rfl]
  split_ifs with hlen
  · rfl
  · rfl

/-- The slice behind the length is what the stream has. -/
theorem unpack_block_eq (data : List UInt8) (offset : ℕ) :
    Packer.unpack_block size data offset =
      ((Codec.block size hsize WireError.error WireError.error).read (data.drop offset)).map
        fun r => (r.1, offset + r.2) := by
  simp only [Packer.unpack_block, Codec.block, unpack_from_eq hsize]
  split_ifs with hlen
  · rw [ok_bind, slice, List.drop_take, List.drop_drop, Nat.add_sub_cancel_left, Nat.add_assoc]
    rfl
  · rfl

include hsize in
theorem pack_block_isOk {text : List UInt8} :
    (∃ w, Packer.pack_block size text = .ok w) ↔ text.length < 256 ^ size := by
  rw [pack_block_eq hsize]
  simp only [Codec.block]
  split_ifs with hlen
  · exact ⟨fun _ => hlen, fun _ => ⟨_, rfl⟩⟩
  · constructor
    · rintro ⟨w, h⟩
      cases h
    · intro h
      exact absurd h hlen

theorem block_cut {text s : List UInt8} {step : ℕ} :
    (Codec.block size hsize WireError.error WireError.error).Cut text s step ↔
      ∃ n, Packer.pack_block size text = .ok (beOfNat size text.length ++ text) ∧
        text.length < n ∧ n < 256 ^ size ∧ s = beOfNat size n ++ text ∧ step = size + n := by
  constructor
  · rintro ⟨n, hn, hlt, hs, hstep⟩
    refine ⟨n, ?_, hlt, hn, hs, hstep⟩
    rw [pack_block_eq hsize]
    exact if_pos (hlt.trans hn)
  · rintro ⟨n, -, hlt, hn, hs, hstep⟩
    exact ⟨n, hn, hlt, hs, hstep⟩

theorem pack_block_inj {text text' : List UInt8} {k : ℕ}
    (h : Packer.pack_block k text = .ok (beOfNat k text'.length ++ text')) : text = text' := by
  obtain ⟨length, hlength, h⟩ := bind_eq_ok.mp h
  have hlen := (struct_pack_eq_ok.mp hlength).1
  exact (List.append_inj (Except.ok.inj h) (by rw [hlen, beOfNat_length])).2

/-- A field whose bytes stand behind their length can be cut there, and nowhere else. -/
theorem field_cut {packer : Packer} {as_block : Field → Except WireError (List UInt8)}
    (hpack : ∀ x, packer.pack x = as_block x >>= Packer.pack_block size) {x : Field} {s : List UInt8}
    {step : ℕ} :
    (∃ text, as_block x = .ok text ∧
        (Codec.block size hsize WireError.error WireError.error).Cut text s step) ↔
      ∃ k text n, some size = some k ∧ packer.pack x = .ok (beOfNat k text.length ++ text) ∧
        text.length < n ∧ n < 256 ^ k ∧ s = beOfNat k n ++ text ∧ step = k + n := by
  simp only [hpack, block_cut hsize]
  constructor
  · rintro ⟨text, htext, n, hblock, h⟩
    exact ⟨size, text, n, rfl, bind_eq_ok.mpr ⟨text, htext, hblock⟩, h⟩
  · rintro ⟨k, text, n, hk, hblock, h⟩
    obtain rfl := Option.some.inj hk
    obtain ⟨text', htext, hblock⟩ := bind_eq_ok.mp hblock
    obtain rfl := pack_block_inj hblock
    exact ⟨text', htext, n, hblock, h⟩

theorem VarLen_pack (x : Field) :
    (Packer.VarLen size).pack x = x.as_bytes >>= Packer.pack_block size := by
  cases x with
  | int n => rfl
  | bytes data => rfl
  | str text => rfl

theorem VarLenUtf8_pack (x : Field) :
    (Packer.VarLenUtf8 size).pack x = x.as_utf8 >>= Packer.pack_block size := by
  cases x with
  | int n => rfl
  | bytes data => rfl
  | str text => rfl

theorem VarLen_follows : (Packer.VarLen size).Follows (some size) (bytesCodec hsize) where
  pack := by
    intro x
    rw [VarLen_pack, funext (pack_block_eq hsize)]
    rfl
  unpack := by
    intro data offset
    simp only [Packer.VarLen, bytesCodec, Codec.via, unpack_block_eq hsize]
    cases (Codec.block size hsize WireError.error WireError.error).read (data.drop offset) with
    | error e => rfl
    | ok r => rfl
  cut := field_cut hsize VarLen_pack

theorem VarLenUtf8_follows : (Packer.VarLenUtf8 size).Follows (some size) (utf8Codec hsize) where
  pack := by
    intro x
    rw [VarLenUtf8_pack, funext (pack_block_eq hsize)]
    rfl
  unpack := by
    intro data offset
    simp only [Packer.VarLenUtf8, utf8Codec, Codec.via, unpack_block_eq hsize]
    cases (Codec.block size hsize WireError.error WireError.error).read (data.drop offset) with
    | error e => rfl
    | ok r =>
        cases hdecode : decode r.1 with
        | error e => simp only [Except.map, ok_bind, hdecode, error_bind]
        | ok text => simp only [Except.map, ok_bind, hdecode, pure, Except.pure]
  cut := field_cut hsize VarLenUtf8_pack

end

/-! ## What a class accepts -/

namespace Serializer

/-- The size of the length that stands in front of a value of the format. -/
def length_size : String → Option ℕ
  | "varlenH" => some 2
  | "varlenHutf8" => some 2
  | "varlenIutf8" => some 4
  | "varlenI" => some 4
  | "doublevarlenH" => some 2
  | _ => none

theorem packers_follows {fmt : String} {packer : Packer} (h : packers fmt = some packer) :
    ∃ c, packer.Follows (length_size fmt) c := by
  unfold packers at h
  split at h
  case h_12 => cases h
  all_goals
    obtain rfl := Option.some.inj h
    first
      | exact ⟨_, DefaultStruct_follows (by decide) _⟩
      | exact ⟨_, VarLen_follows (by decide)⟩
      | exact ⟨_, VarLenUtf8_follows (by decide)⟩

/-- The codec of a format, with the errors that the loops let out. -/
def Stands (fmt : String) (c : Codec WireError Field) : Prop :=
  ∃ packer d, packers fmt = some packer ∧ packer.Follows (length_size fmt) d ∧
    c = d.catching fun _ => WireError.PackError

theorem exists_stands {format_list : List String} (h : ∀ fmt ∈ format_list, (packers fmt).isSome) :
    ∃ cs, List.Forall₂ Stands format_list cs := by
  induction format_list with
  | nil => exact ⟨[], .nil⟩
  | cons fmt fmts ih =>
      obtain ⟨packer, hpacker⟩ := Option.isSome_iff_exists.mp (h fmt List.mem_cons_self)
      obtain ⟨c, hc⟩ := packers_follows hpacker
      obtain ⟨cs, hcs⟩ := ih fun fmt' h' => h fmt' (List.mem_cons_of_mem fmt h')
      exact ⟨_ :: cs, .cons ⟨packer, c, hpacker, hc, rfl⟩ hcs⟩

section

variable {fmt : String} {format_list : List String} {c : Codec WireError Field}
  {cs : List (Codec WireError Field)} {values : List Field} {w : List UInt8}

/-- A pack list is packed word by word. -/
theorem pack_serializable_eq_ok (h : List.Forall₂ Stands format_list cs)
    (hlen : format_list.length = values.length) :
    pack_serializable (format_list.zip values) = .ok w ↔ Codec.Writes cs values w := by
  induction h generalizing values w with
  | nil =>
      obtain rfl := List.length_eq_zero_iff.mp hlen.symm
      constructor
      · intro h
        rw [← Except.ok.inj h]
        exact .nil
      · rintro ⟨⟩
        rfl
  | @cons fmt c fmts cs hfmt _ ih =>
      obtain ⟨packer, d, hpacker, hd, rfl⟩ := hfmt
      cases values with
      | nil => cases hlen
      | cons x xs =>
          have hfirst (u : List UInt8) : (packer.pack x).mapError (fun _ => WireError.PackError) = .ok u ↔
              (d.catching fun _ => WireError.PackError).write x = .ok u := by
            rw [hd.pack]
            rfl
          have hrest {v : List UInt8} : pack_serializable (fmts.zip xs) = .ok v ↔ Codec.Writes cs xs v :=
            ih (Nat.succ.inj hlen)
          rw [List.zip_cons_cons, pack_serializable, hpacker]
          refine bind_eq_ok.trans ⟨?_, ?_⟩
          · rintro ⟨u, hu, h⟩
            obtain ⟨v, hv, h⟩ := bind_eq_ok.mp h
            rw [← Except.ok.inj h]
            exact .cons ((hfirst u).mp hu) (hrest.mp hv)
          · rintro (_ | ⟨hu, hv⟩)
            exact ⟨_, (hfirst _).mpr hu, bind_eq_ok.mpr ⟨_, hrest.mpr hv, rfl⟩⟩

/-- The loop reads what the chain of the codecs reads. -/
theorem unpack_serializable_eq (hfirst : Stands fmt c) (h : List.Forall₂ Stands format_list cs)
    (data : List UInt8) (offset : ℕ) :
    unpack_serializable data (fmt :: format_list) offset =
      ((Codec.chain .PackError c cs).read (data.drop offset)).map fun r => (r.1, offset + r.2) := by
  have hunpack {fmt : String} {c : Codec WireError Field} (hfmt : Stands fmt c) (offset : ℕ) :
      ∃ packer, packers fmt = some packer ∧
        (packer.unpack data offset).mapError (fun _ => WireError.PackError) =
          (c.read (data.drop offset)).map fun r => (r.1, offset + r.2) := by
    obtain ⟨packer, d, hpacker, hd, rfl⟩ := hfmt
    refine ⟨packer, hpacker, ?_⟩
    rw [hd.unpack]
    simp only [Codec.catching]
    cases d.read (data.drop offset) with
    | error e => rfl
    | ok r => rfl
  induction h generalizing fmt c offset with
  | nil =>
      obtain ⟨packer, hpacker, hread⟩ := hunpack hfirst offset
      rw [unpack_serializable, hpacker]
      simp only [hread, Codec.chain, Codec.via]
      cases c.read (data.drop offset) with
      | error e => rfl
      | ok r => rfl
  | @cons fmt' c' fmts cs hfmt _ ih =>
      obtain ⟨packer, hpacker, hread⟩ := hunpack hfirst offset
      rw [unpack_serializable, hpacker]
      simp only [hread, Codec.chain, Codec.via, Codec.seq]
      cases c.read (data.drop offset) with
      | error e => rfl
      | ok r =>
          simp only [Except.map, ok_bind, ih hfmt (offset + r.2), List.drop_drop]
          cases (Codec.chain .PackError c' cs).read (data.drop (offset + r.2)) with
          | error e => rfl
          | ok r' => simp only [ok_bind, pure, Except.pure, Nat.add_assoc]

end

/-- The data ends within the last field: the length in front of it is overstated. -/
def CutOff (format_list : List String) (values : List Field) (data : List UInt8) : Prop :=
  ∃ fmts fmt xs x u k text n, format_list = fmts ++ [fmt] ∧ values = xs ++ [x] ∧
    fmts.length = xs.length ∧ pack_serializable (fmts.zip xs) = .ok u ∧ length_size fmt = some k ∧
    pack_serializable [(fmt, x)] = .ok (beOfNat k text.length ++ text) ∧
    text.length < n ∧ n < 256 ^ k ∧ data = u ++ (beOfNat k n ++ text)

theorem CutOff.length_eq {format_list : List String} {values : List Field} {data : List UInt8}
    (h : CutOff format_list values data) : format_list.length = values.length := by
  obtain ⟨fmts, fmt, xs, x, -, -, -, -, rfl, rfl, hlen, -⟩ := h
  rw [List.length_append, List.length_append, hlen]
  rfl

/-- Lists that are related member by member have related last members. -/
theorem forall₂_concat {α β : Type} {R : α → β → Prop} {xs : List α} {ys : List β} {y : β}
    (h : List.Forall₂ R xs (ys ++ [y])) :
    ∃ xs' x, xs = xs' ++ [x] ∧ List.Forall₂ R xs' ys ∧ R x y := by
  obtain ⟨x, _, hx, hnil, hdrop⟩ := List.forall₂_cons_right_iff.mp (List.forall₂_drop_append xs ys [y] h)
  obtain rfl := List.forall₂_nil_right_iff.mp hnil
  refine ⟨xs.take ys.length, x, ?_, List.forall₂_take_append xs ys [y] h, hx⟩
  rw [← hdrop, List.take_append_drop]

/-- One value is packed by its packer. -/
theorem pack_serializable_singleton {fmt : String} {packer : Packer} (hpacker : packers fmt = some packer)
    {x : Field} {w : List UInt8} :
    pack_serializable [(fmt, x)] = .ok w ↔ packer.pack x = .ok w := by
  rw [pack_serializable, hpacker]
  refine bind_eq_ok.trans ⟨?_, ?_⟩
  · rintro ⟨u, hu, h⟩
    obtain ⟨v, hv, h⟩ := bind_eq_ok.mp h
    obtain rfl := Except.ok.inj hv
    rw [← Except.ok.inj h, List.append_nil]
    exact Codec.mapError_eq_ok.mp hu
  · intro h
    refine ⟨w, Codec.mapError_eq_ok.mpr h, ?_⟩
    rw [pack_serializable, pure_bind, List.append_nil]
    rfl

/-- A pack list is packed exactly when each of its items is. -/
theorem packs_iff {packables : List (String × Field)} :
    (∃ w, pack_serializable packables = .ok w) ↔
      ∀ packable ∈ packables, ∃ w, pack_serializable [packable] = .ok w := by
  induction packables with
  | nil => exact ⟨fun _ packable h => absurd h List.not_mem_nil, fun _ => ⟨[], rfl⟩⟩
  | cons packable packables ih =>
      obtain ⟨fmt, value⟩ := packable
      rw [List.forall_mem_cons, ← ih]
      cases hpacker : packers fmt with
      | none =>
          have herror (rest : List (String × Field)) :
              pack_serializable ((fmt, value) :: rest) = .error .PackError := by
            rw [pack_serializable, hpacker]
            rfl
          simp only [herror, reduceCtorEq, exists_false, false_and]
      | some packer =>
          simp only [pack_serializable_singleton hpacker]
          constructor
          · rintro ⟨w, h⟩
            rw [pack_serializable, hpacker] at h
            obtain ⟨u, hu, h⟩ := bind_eq_ok.mp h
            obtain ⟨v, hv, -⟩ := bind_eq_ok.mp h
            exact ⟨⟨u, Codec.mapError_eq_ok.mp hu⟩, v, hv⟩
          · rintro ⟨⟨u, hu⟩, v, hv⟩
            refine ⟨u ++ v, ?_⟩
            rw [pack_serializable, hpacker]
            exact bind_eq_ok.mpr ⟨u, Codec.mapError_eq_ok.mpr hu, bind_eq_ok.mpr ⟨v, hv, rfl⟩⟩

/-- Where a codec stands for a format, its cut words are those with an overstated length. -/
theorem Stands.cut_iff {fmt : String} {c : Codec WireError Field} (h : Stands fmt c) {x : Field}
    {s : List UInt8} :
    (∃ step, c.Cut x s step) ↔ ∃ k text n, length_size fmt = some k ∧
      pack_serializable [(fmt, x)] = .ok (beOfNat k text.length ++ text) ∧ text.length < n ∧
      n < 256 ^ k ∧ s = beOfNat k n ++ text := by
  obtain ⟨packer, d, hpacker, hd, rfl⟩ := h
  simp only [pack_serializable_singleton hpacker]
  constructor
  · rintro ⟨step, hcut⟩
    obtain ⟨k, text, n, hk, hw, hlt, hn, hs, -⟩ := hd.cut.mp hcut
    exact ⟨k, text, n, hk, hw, hlt, hn, hs⟩
  · rintro ⟨k, text, n, hk, hw, hlt, hn, hs⟩
    exact ⟨k + n, hd.cut.mpr ⟨k, text, n, hk, hw, hlt, hn, hs, rfl⟩⟩

theorem cutOff_iff {fmt : String} {format_list : List String} {c : Codec WireError Field}
    {cs : List (Codec WireError Field)} {values : List Field} {data : List UInt8}
    (hfirst : Stands fmt c) (h : List.Forall₂ Stands format_list cs) :
    (∃ k, (Codec.chain .PackError c cs).Cut values data k) ↔
      CutOff (fmt :: format_list) values data := by
  have hall : List.Forall₂ Stands (fmt :: format_list) (c :: cs) := .cons hfirst h
  simp only [Codec.chain_cut_iff]
  constructor
  · rintro ⟨-, cs', d, ys, y, u, v, step, hcs, rfl, hwrites, hcut, rfl, -⟩
    rw [hcs] at hall
    obtain ⟨fmts, fmt', hformats, hfmts, hd⟩ := forall₂_concat hall
    obtain ⟨k, text, n, hk, hlast, hlt, hn, rfl⟩ := hd.cut_iff.mp ⟨step, hcut⟩
    have hlen : fmts.length = ys.length := hfmts.length_eq.trans hwrites.length_eq
    exact ⟨fmts, fmt', ys, y, u, k, text, n, hformats, rfl, hlen,
      (pack_serializable_eq_ok hfmts hlen).mpr hwrites, hk, hlast, hlt, hn, rfl⟩
  · rintro ⟨fmts, fmt', ys, y, u, k, text, n, hformats, rfl, hlen, hpack, hk, hlast, hlt, hn, rfl⟩
    rw [hformats] at hall
    obtain ⟨cs', d, hcs, hfmts, hd⟩ := forall₂_concat hall.flip
    obtain ⟨step, hcut⟩ := (Stands.cut_iff hd).mpr ⟨k, text, n, hk, hlast, hlt, hn, rfl⟩
    exact ⟨_, cs', d, ys, y, u, _, step, hcs, rfl,
      (pack_serializable_eq_ok hfmts.flip hlen).mp hpack, hcut, rfl, rfl⟩

section

variable {format_list : List String} (hne : format_list ≠ [])
  (hregistered : ∀ fmt ∈ format_list, (packers fmt).isSome) {data : List UInt8} {offset : ℕ}
  {values : List Field}

include hne hregistered

/-- What was packed is found at its offset, whatever stands behind it. -/
theorem unpack_serializable_of_pack {w rest : List UInt8} (hlen : format_list.length = values.length)
    (hpack : pack_serializable (format_list.zip values) = .ok w)
    (hdata : data.drop offset = w ++ rest) :
    unpack_serializable data format_list offset = .ok (values, offset + w.length) := by
  obtain ⟨fmt, fmts, rfl⟩ := List.exists_cons_of_ne_nil hne
  obtain ⟨codecs, hall⟩ := exists_stands hregistered
  obtain ⟨c, cs, hfirst, hrest, rfl⟩ := List.forall₂_cons_left_iff.mp hall
  have hwrite : (Codec.chain .PackError c cs).write values = .ok w :=
    Codec.chain_write_iff.mpr ((pack_serializable_eq_ok hall hlen).mp hpack)
  rw [unpack_serializable_eq hfirst hrest, hdata, Codec.read_append hwrite]
  rfl

/-- What was found was packed, or the buffer ends within it. -/
theorem unpack_serializable_cases {next : ℕ}
    (h : unpack_serializable data format_list offset = .ok (values, next)) :
    format_list.length = values.length ∧
      ((∃ w rest, data.drop offset = w ++ rest ∧
          pack_serializable (format_list.zip values) = .ok w ∧ next = offset + w.length) ∨
        CutOff format_list values (data.drop offset)) := by
  obtain ⟨fmt, fmts, rfl⟩ := List.exists_cons_of_ne_nil hne
  obtain ⟨codecs, hall⟩ := exists_stands hregistered
  obtain ⟨c, cs, hfirst, hrest, rfl⟩ := List.forall₂_cons_left_iff.mp hall
  rw [unpack_serializable_eq hfirst hrest] at h
  cases hread : (Codec.chain .PackError c cs).read (data.drop offset) with
  | error e =>
      rw [hread] at h
      cases h
  | ok r =>
      rw [hread] at h
      obtain ⟨rfl, rfl⟩ := Prod.mk.inj (Except.ok.inj h)
      rcases (Codec.chain .PackError c cs).read_iff.mp hread with ⟨w, rest, hdata, hw, hk⟩ | hcut
      · have hwrites := Codec.chain_write_iff.mp hw
        have hlen := hall.length_eq.trans hwrites.length_eq
        exact ⟨hlen, .inl ⟨w, rest, hdata, (pack_serializable_eq_ok hall hlen).mpr hwrites, by rw [hk]⟩⟩
      · have hcutOff := (cutOff_iff hfirst hrest).mp ⟨_, hcut⟩
        exact ⟨hcutOff.length_eq, .inr hcutOff⟩

/-- There is nothing to be found behind the end. -/
theorem unpack_serializable_behind (h : data.drop offset = []) :
    ∃ e, unpack_serializable data format_list offset = .error e := by
  obtain ⟨fmt, fmts, rfl⟩ := List.exists_cons_of_ne_nil hne
  obtain ⟨codecs, hall⟩ := exists_stands hregistered
  obtain ⟨c, cs, hfirst, hrest, rfl⟩ := List.forall₂_cons_left_iff.mp hall
  obtain ⟨e, he⟩ := (Codec.chain WireError.PackError c cs).read_nil
  exact ⟨e, by rw [unpack_serializable_eq hfirst hrest, h, he]; rfl⟩

theorem drop_ne_nil_of_unpack {unpacked : List (List Field)}
    (h : unpack_serializable_list [format_list] data offset = .ok unpacked) : data.drop offset ≠ [] := by
  intro hnil
  obtain ⟨e, he⟩ := unpack_serializable_behind hne hregistered hnil
  rw [unpack_serializable_list, unpack_each, he] at h
  cases h

/-- **What a payload class accepts.** A buffer that is to be consumed from an offset on is unpacked
as a list of values exactly when the values are packed as what stands there, or when it ends within
the last byte string or text, whose length is overstated. -/
theorem unpack_serializable_list_iff :
    unpack_serializable_list [format_list] data offset = .ok [values] ↔
      format_list.length = values.length ∧
        (pack_serializable (format_list.zip values) = .ok (data.drop offset) ∨
          CutOff format_list values (data.drop offset)) := by
  obtain ⟨fmt, fmts, rfl⟩ := List.exists_cons_of_ne_nil hne
  obtain ⟨codecs, hall⟩ := exists_stands hregistered
  obtain ⟨c, cs, hfirst, hrest, rfl⟩ := List.forall₂_cons_left_iff.mp hall
  have hread : unpack_serializable_list [fmt :: fmts] data offset = .ok [values] ↔
      ∃ k, (Codec.chain .PackError c cs).read (data.drop offset) = .ok (values, k) ∧
        (data.drop offset).drop k = [] := by
    rw [unpack_serializable_list, unpack_each, unpack_serializable_eq hfirst hrest]
    cases (Codec.chain .PackError c cs).read (data.drop offset) with
    | error e =>
        constructor
        · intro h
          cases h
        · rintro ⟨k, h, -⟩
          cases h
    | ok r =>
        obtain ⟨xs, k⟩ := r
        simp only [Except.map, ok_bind, unpack_each, pure, Except.pure, List.drop_drop]
        split_ifs with hrest
        · constructor
          · intro h
            cases h
          · rintro ⟨k', h, hnil⟩
            rw [(Prod.mk.inj (Except.ok.inj h)).2] at hrest
            exact absurd hnil hrest
        · constructor
          · intro h
            rw [List.singleton_inj.mp (Except.ok.inj h)]
            exact ⟨k, rfl, not_not.mp hrest⟩
          · rintro ⟨k', h, -⟩
            rw [(Prod.mk.inj (Except.ok.inj h)).1]
  rw [hread, Codec.reads_all_iff, cutOff_iff hfirst hrest]
  constructor
  · rintro (hwrite | hcut)
    · have hwrites := Codec.chain_write_iff.mp hwrite
      have hlen := hall.length_eq.trans hwrites.length_eq
      exact ⟨hlen, .inl ((pack_serializable_eq_ok hall hlen).mpr hwrites)⟩
    · exact ⟨hcut.length_eq, .inr hcut⟩
  · rintro ⟨hlen, hpack | hcut⟩
    · exact .inl (Codec.chain_write_iff.mpr ((pack_serializable_eq_ok hall hlen).mp hpack))
    · exact .inr hcut

end

end Serializer

end Superorganism.Ipv8

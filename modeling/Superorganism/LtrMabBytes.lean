/-
What a gossip signature binds.

Every field of `_gossip_canonical_bytes` is of a fixed width or stands behind its length, so the
fields can be read off again one after the other, and two payloads with the same canonical bytes
have the same fields. A signature that is good for one text only is then good for the fields of
one payload only.

The floats are taken as the patterns of 64 bits that `struct.pack` writes.
-/
import Mathlib.Data.Int.ModEq
import Superorganism.Codes
import Superorganism.LtrMab

set_option autoImplicit false

open Superorganism.Bytes Superorganism.Py Superorganism.Codes

namespace Superorganism.LtrMab

/-- With `struct.pack(">d", x)` for the float that has these bits. -/
def Crypto.onPatterns (crypto : Crypto (BitVec 64)) : Crypto (BitVec 64) :=
  { crypto with pack_double := fun x => beOfNat 8 x.toNat }

/-- A signature of a key is good for one text. -/
def Crypto.SignsOneText {F : Type} (crypto : Crypto F) : Prop :=
  ∀ key signature text text', crypto.verify key signature text = some true →
    crypto.verify key signature text' = some true → text = text'

/-- The payloads that can be packed. -/
structure Packable {F : Type} (payload : GossipMessage F) : Prop where
  sender_id : Signed 8 payload.sender_id
  sender_key : (utf8 payload.sender_key).length < 256 ^ 4
  arm_name : (utf8 payload.arm_name).length < 256 ^ 4
  pulls : Signed 8 payload.pulls
  lamport : Signed 8 payload.lamport
  info_hash : payload.info_hash.length < 256 ^ 4
  metadata_json : (utf8 payload.metadata_json).length < 256 ^ 4
  model_type : (utf8 payload.model_type).length < 256 ^ 4
  host : (utf8 payload.host).length < 256 ^ 4
  port : Signed 4 payload.port

/-- The thirteen fields under the signature. -/
def GossipMessage.unsigned {F : Type} (payload : GossipMessage F) : GossipMessage F :=
  { payload with public_key := [], signature := [] }

/-! ## The fields -/

/-- Two's complement tells the numbers of its range apart. -/
theorem twos_complement_inj {k : ℕ} {m n : ℤ} (hm : Signed k m) (hn : Signed k n)
    (h : twos_complement k m = twos_complement k n) : m = n := by
  obtain ⟨hmlow, hmhigh⟩ := hm
  obtain ⟨hnlow, hnhigh⟩ := hn
  have hcast : (256 : ℤ) ^ k = ((256 ^ k : ℕ) : ℤ) := by push_cast; rfl
  have hpos : (0 : ℤ) < 256 ^ k := by positivity
  have hnonneg (x : ℤ) : 0 ≤ x % 256 ^ k := Int.emod_nonneg x hpos.ne'
  have hlt (x : ℤ) : (x % 256 ^ k).toNat < 256 ^ k := by
    have hx := Int.emod_lt_of_pos x hpos
    have hx0 := hnonneg x
    omega
  have hmod : m ≡ n [ZMOD 256 ^ k] := by
    have htoNat := beOfNat_inj (hlt m) (hlt n) h
    have hm0 := hnonneg m
    have hn0 := hnonneg n
    rw [Int.ModEq]
    omega
  -- both numbers lie in one range of `256 ^ k` numbers
  have habs : |n - m| < 256 ^ k := by
    rw [abs_lt]
    omega
  have hzero := Int.eq_zero_of_abs_lt_dvd hmod.dvd habs
  omega

theorem selfDelimiting_twos_complement (k : ℕ) :
    SelfDelimiting (Signed k) (twos_complement k) :=
  selfDelimiting_of_width (fun _ _ => beOfNat_length k _) fun _ _ hm hn h =>
    twos_complement_inj hm hn h

theorem selfDelimiting_pack_double (crypto : Crypto (BitVec 64)) :
    SelfDelimiting (fun _ => True) crypto.onPatterns.pack_double := by
  have hpatterns := (selfDelimiting_beOfNat 8).comap (f := fun x : BitVec 64 => x.toNat)
    fun _ _ h => BitVec.toNat_inj.mp h
  exact hpatterns.mono fun x _ => x.isLt

/-- What `_pack_bytes` gives, if it does not raise. -/
def prefixed (b : List UInt8) : List UInt8 := beOfNat 4 b.length ++ b

theorem selfDelimiting_prefixed_bytes :
    SelfDelimiting (fun b : List UInt8 => b.length < 256 ^ 4) prefixed :=
  selfDelimiting_prefixed (selfDelimiting_beOfNat 4)

theorem selfDelimiting_prefixed_str :
    SelfDelimiting (fun s : String => (utf8 s).length < 256 ^ 4) fun s => prefixed (utf8 s) :=
  selfDelimiting_prefixed_bytes.comap utf8_injective

/-! ## The payload -/

/-- The fields of a payload, one after the other. -/
def packed {F : Type} (crypto : Crypto F) (payload : GossipMessage F) : List UInt8 :=
  _GOSSIP_DOMAIN ++ twos_complement 8 payload.sender_id ++ prefixed (utf8 payload.sender_key) ++
    prefixed (utf8 payload.arm_name) ++ twos_complement 8 payload.pulls ++
    crypto.pack_double payload.total_reward ++ crypto.pack_double payload.alpha ++
    crypto.pack_double payload.beta ++ twos_complement 8 payload.lamport ++
    prefixed payload.info_hash ++ prefixed (utf8 payload.metadata_json) ++
    prefixed (utf8 payload.model_type) ++ prefixed (utf8 payload.host) ++
    twos_complement 4 payload.port

theorem pack_int_eq_some {k : ℕ} {n : ℤ} {bytes : List UInt8} :
    pack_int k n = some bytes ↔ Signed k n ∧ twos_complement k n = bytes := by
  rw [pack_int, Option.ite_none_right_eq_some, Option.some_inj]

theorem pack_bytes_eq_some {b bytes : List UInt8} :
    _pack_bytes b = some bytes ↔ b.length < 256 ^ 4 ∧ prefixed b = bytes := by
  rw [_pack_bytes, Option.ite_none_right_eq_some, Option.some_inj, prefixed]

/-- **A payload has canonical bytes if and only if each field can be packed.** -/
theorem canonical_bytes_eq_some {F : Type} {crypto : Crypto F} {payload : GossipMessage F}
    {bytes : List UInt8} : _gossip_canonical_bytes crypto payload = some bytes ↔
      Packable payload ∧ packed crypto payload = bytes := by
  unfold _gossip_canonical_bytes _pack_str
  simp only [Option.bind_eq_bind, Option.pure_def, Option.bind_eq_some_iff, pack_int_eq_some,
    pack_bytes_eq_some, Option.some_inj]
  constructor
  · rintro ⟨_, ⟨hid, rfl⟩, _, ⟨hkey, rfl⟩, _, ⟨harm, rfl⟩, _, ⟨hpulls, rfl⟩, _, ⟨hlamport, rfl⟩,
      _, ⟨hhash, rfl⟩, _, ⟨hmetadata, rfl⟩, _, ⟨htype, rfl⟩, _, ⟨hhost, rfl⟩, _, ⟨hport, rfl⟩, rfl⟩
    exact ⟨⟨hid, hkey, harm, hpulls, hlamport, hhash, hmetadata, htype, hhost, hport⟩, rfl⟩
  · rintro ⟨⟨hid, hkey, harm, hpulls, hlamport, hhash, hmetadata, htype, hhost, hport⟩, rfl⟩
    exact ⟨_, ⟨hid, rfl⟩, _, ⟨hkey, rfl⟩, _, ⟨harm, rfl⟩, _, ⟨hpulls, rfl⟩, _, ⟨hlamport, rfl⟩,
      _, ⟨hhash, rfl⟩, _, ⟨hmetadata, rfl⟩, _, ⟨htype, rfl⟩, _, ⟨hhost, rfl⟩, _, ⟨hport, rfl⟩, rfl⟩

variable {crypto : Crypto (BitVec 64)} {a b : GossipMessage (BitVec 64)}

/-- **The fields can be read off again**, one after the other from the front. -/
theorem unsigned_eq_of_packed (ha : Packable a) (hb : Packable b)
    (h : packed crypto.onPatterns a = packed crypto.onPatterns b) : a.unsigned = b.unsigned := by
  have hint8 := selfDelimiting_twos_complement 8
  have hint4 := selfDelimiting_twos_complement 4
  have hstr := selfDelimiting_prefixed_str
  have hdouble := selfDelimiting_pack_double crypto
  unfold packed at h
  simp only [List.append_assoc] at h
  have h := List.append_cancel_left h
  obtain ⟨hsender_id, h⟩ := hint8.split ha.sender_id hb.sender_id h
  obtain ⟨hsender_key, h⟩ := hstr.split ha.sender_key hb.sender_key h
  obtain ⟨harm_name, h⟩ := hstr.split ha.arm_name hb.arm_name h
  obtain ⟨hpulls, h⟩ := hint8.split ha.pulls hb.pulls h
  obtain ⟨htotal_reward, h⟩ := hdouble.split trivial trivial h
  obtain ⟨halpha, h⟩ := hdouble.split trivial trivial h
  obtain ⟨hbeta, h⟩ := hdouble.split trivial trivial h
  obtain ⟨hlamport, h⟩ := hint8.split ha.lamport hb.lamport h
  obtain ⟨hinfo_hash, h⟩ := selfDelimiting_prefixed_bytes.split ha.info_hash hb.info_hash h
  obtain ⟨hmetadata_json, h⟩ := hstr.split ha.metadata_json hb.metadata_json h
  obtain ⟨hmodel_type, h⟩ := hstr.split ha.model_type hb.model_type h
  obtain ⟨hhost, h⟩ := hstr.split ha.host hb.host h
  have hport := hint4.eq ha.port hb.port h
  simp only [GossipMessage.unsigned, hsender_id, hsender_key, harm_name, hpulls, htotal_reward,
    halpha, hbeta, hlamport, hinfo_hash, hmetadata_json, hmodel_type, hhost, hport]

/-- Where the bytes are the same, so are the fields under the signature. -/
theorem unsigned_eq_of_canonical_bytes {bytes : List UInt8}
    (ha : _gossip_canonical_bytes crypto.onPatterns a = some bytes)
    (hb : _gossip_canonical_bytes crypto.onPatterns b = some bytes) : a.unsigned = b.unsigned := by
  obtain ⟨hpa, ha⟩ := canonical_bytes_eq_some.mp ha
  obtain ⟨hpb, hb⟩ := canonical_bytes_eq_some.mp hb
  exact unsigned_eq_of_packed hpa hpb (ha.trans hb.symm)

/-- **What a signature binds.** A payload has canonical bytes if and only if its fields can be
packed; two payloads with the same canonical bytes agree in all fields under the signature; and
where a signature is good for one text only, two payloads that pass with the same key and the same
signature agree in them as well. -/
theorem signature_binds_fields (crypto : Crypto (BitVec 64)) (a b : GossipMessage (BitVec 64)) :
    ((_gossip_canonical_bytes crypto.onPatterns a).isSome ↔ Packable a) ∧
    (Packable a → _gossip_canonical_bytes crypto.onPatterns a =
      _gossip_canonical_bytes crypto.onPatterns b → a.unsigned = b.unsigned) ∧
    (crypto.SignsOneText → a.public_key = b.public_key → a.signature = b.signature →
      _verify_gossip_signature crypto.onPatterns a = some true →
      _verify_gossip_signature crypto.onPatterns b = some true → a.unsigned = b.unsigned) := by
  refine ⟨?_, fun hpacks h => ?_, fun hone hkey hsignature hva hvb => ?_⟩
  · rw [Option.isSome_iff_exists]
    exact ⟨fun ⟨_, h⟩ => (canonical_bytes_eq_some.mp h).1,
      fun h => ⟨_, canonical_bytes_eq_some.mpr ⟨h, rfl⟩⟩⟩
  · have ha : _gossip_canonical_bytes crypto.onPatterns a = some (packed crypto.onPatterns a) :=
      canonical_bytes_eq_some.mpr ⟨hpacks, rfl⟩
    exact unsigned_eq_of_canonical_bytes ha (h.symm.trans ha)
  · obtain ⟨-, -, key, canonical, hkeya, ha, hverifya⟩ := (verified_iff _).mp hva
    obtain ⟨-, -, key', canonical', hkeyb, hb, hverifyb⟩ := (verified_iff _).mp hvb
    rw [hkey] at hkeya
    obtain rfl := Option.some.inj (hkeya.symm.trans hkeyb)
    rw [hsignature] at hverifya
    obtain rfl := hone _ _ _ _ hverifya hverifyb
    exact unsigned_eq_of_canonical_bytes ha hb

/-! ## A changed count -/

/-- A signature is the verification key with the text. -/
def patternCrypto : Crypto (BitVec 64) where
  sha1 := demoSha1
  EcPublicKey := Empty
  key_from_pem _ := none
  libnacl_takes := demoCrypto.libnacl_takes
  verify := demoCrypto.verify
  sign := demoCrypto.sign
  pack_double _ := []

theorem patternCrypto_signsOneText : patternCrypto.SignsOneText := by
  intro key signature text text' h h'
  cases key with
  | LibNaCLPK vk =>
      have hone : signature = vk ++ text := of_decide_eq_true (Option.some.inj h)
      have htwo : signature = vk ++ text' := of_decide_eq_true (Option.some.inj h')
      exact List.append_cancel_left (hone.symm.trans htwo)
  | M2CryptoPK ec => exact nomatch ec

/-- What the owner of the key `demoKey 1 []` says of an arm. -/
def patternGossip (pulls : ℤ) (signature : List UInt8) : GossipMessage (BitVec 64) where
  sender_id := 2
  sender_key := "41c79bc88bdd5bf0499f6515fc673aa67458a580"
  arm_name := "lightgbm"
  pulls := pulls
  total_reward := 0
  alpha := 1
  beta := 1
  lamport := 1
  info_hash := []
  metadata_json := ""
  model_type := ""
  host := ""
  port := 0
  public_key := demoKey 1 []
  signature := signature

/-- The signature of the message with one pull. -/
def patternSignature : List UInt8 :=
  patternCrypto.sign (demoKey 1 [])
    ((_gossip_canonical_bytes patternCrypto.onPatterns (patternGossip 1 [])).getD [])

/-- Another number of pulls is another text, and the signature of the one message, which passes,
does not pass with the other. -/
theorem pulls_are_signed :
    Packable (patternGossip 1 patternSignature) ∧
      _gossip_canonical_bytes patternCrypto.onPatterns (patternGossip 1 patternSignature) ≠
        _gossip_canonical_bytes patternCrypto.onPatterns (patternGossip 2 patternSignature) ∧
      _verify_gossip_signature patternCrypto.onPatterns (patternGossip 1 patternSignature) =
        some true ∧
      _verify_gossip_signature patternCrypto.onPatterns (patternGossip 2 patternSignature) ≠
        some true := by
  obtain ⟨hpacks, hbytes, hsigned⟩ := signature_binds_fields patternCrypto
    (patternGossip 1 patternSignature) (patternGossip 2 patternSignature)
  have hpackable : Packable (patternGossip 1 patternSignature) := hpacks.mp (by decide +kernel)
  have hpulls : (patternGossip 1 patternSignature).unsigned ≠
      (patternGossip 2 patternSignature).unsigned := by
    intro h
    exact absurd (congrArg GossipMessage.pulls h) (by decide)
  have hpasses : _verify_gossip_signature patternCrypto.onPatterns
      (patternGossip 1 patternSignature) = some true := by decide +kernel
  exact ⟨hpackable, fun h => hpulls (hbytes hpackable h), hpasses,
    fun h => hpulls (hsigned patternCrypto_signsOneText rfl rfl hpasses h)⟩

end Superorganism.LtrMab

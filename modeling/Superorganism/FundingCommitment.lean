/-
What a campaign's commitment commits to.

The hashed bytes are those of `commitment_payload`. Every field of the campaign in them is of a
fixed width or stands behind its length, so with the network id known the fields can be read
off again (`payload_binds`). The network id itself has neither a fixed width nor a length in
front of it. A byte string can be read with a shorter or a longer network id, and what moves
over the border becomes part of the campaign's fields; `shift` is such a string for every
distance that the lengths of the hash and the address can make up for.
-/
import Mathlib.Tactic.Zify
import Superorganism.Codes
import Superorganism.Funding

set_option autoImplicit false

open Superorganism.Bytes Superorganism.Py Superorganism.Codes

namespace Superorganism.Funding

/-! ## The hashed bytes -/

/-- The bytes that `compute_campaign_commitment_hex` hashes. -/
def FundingCampaign.commitment_payload (network_id : List UInt8) (campaign : FundingCampaign) :
    Except PyError (List UInt8) :=
  if network_id = [] then throw (.ValueError "network_id must be non-empty bytes.")
  else if !campaign.is_active then
    throw (.ValueError "Cannot compute campaign commitment for an inactive campaign.")
  else
    match fromhex campaign.solution_hash with
    | none => throw (.ValueError "non-hexadecimal number found in fromhex() arg")
    | some solution_hash_bytes =>
      match campaign.developer_payout_address, campaign.deadline_height with
      | some payout_address, some deadline_height => do
        let solution_hash_field ← length_prefix solution_hash_bytes
        let payout_address_field ← length_prefix (payout_address.toList.flatMap String.utf8EncodeChar)
        let asking_price_field ← uint_be 8 campaign.asking_price_sats
        let deadline_field ← uint_be 8 deadline_height
        pure (FUNDING_PROTOCOL_LABEL ++ network_id ++ campaign.id.bytes ++
          campaign.solution_id.bytes ++ solution_hash_field ++ payout_address_field ++
          asking_price_field ++ deadline_field)
      | _, _ => throw (.ValueError "Active campaigns must define payout address and deadline.")

theorem compute_campaign_commitment_hex_eq (sha256 : List UInt8 → List UInt8)
    (network_id : List UInt8) (campaign : FundingCampaign) :
    campaign.compute_campaign_commitment_hex sha256 network_id =
      (campaign.commitment_payload network_id).map fun payload => hex (sha256 payload) := by
  rw [FundingCampaign.compute_campaign_commitment_hex, FundingCampaign.commitment_payload]
  split_ifs
  · rfl
  · rfl
  · cases fromhex campaign.solution_hash with
    | none => rfl
    | some solution_hash =>
        cases campaign.developer_payout_address with
        | none => rfl
        | some payout_address =>
            cases campaign.deadline_height with
            | none => rfl
            | some deadline_height =>
                -- the digest is taken behind the last of the four fields
                change _ = (fun payload => hex (sha256 payload)) <$> (_ : Except PyError _)
                simp only [map_bind, map_pure]

theorem uint_be_eq_ok {size : ℕ} {value : ℤ} {bytes : List UInt8} :
    uint_be size value = .ok bytes ↔
      0 ≤ value ∧ value.toNat < 256 ^ size ∧ bytes = beOfNat size value.toNat := by
  rw [uint_be]
  split_ifs with h1 h2
  · exact iff_of_false (fun h => nomatch h) fun h => absurd h.1 (not_le.mpr h1)
  · have hlt : value.toNat < 256 ^ size := by
      zify
      rwa [Int.toNat_of_nonneg (not_lt.mp h1)]
    constructor
    · intro h
      exact ⟨not_lt.mp h1, hlt, (Except.ok.inj h).symm⟩
    · rintro ⟨-, -, rfl⟩
      rfl
  -- the source lets the overflow of `to_bytes` through
  · refine iff_of_false (fun h => nomatch h) fun h => h2 ?_
    have hlt := h.2.1
    zify at hlt
    rwa [Int.toNat_of_nonneg h.1] at hlt

theorem length_prefix_eq_ok {value bytes : List UInt8} :
    length_prefix value = .ok bytes ↔
      value.length < 256 ^ 4 ∧ bytes = beOfNat 4 value.length ++ value := by
  unfold length_prefix
  rw [bind_eq_ok]
  constructor
  · rintro ⟨len, hlen, h⟩
    obtain ⟨-, hlt, rfl⟩ := uint_be_eq_ok.mp hlen
    rw [Int.toNat_natCast] at hlt h
    exact ⟨hlt, (Except.ok.inj h).symm⟩
  · rintro ⟨hlt, rfl⟩
    exact ⟨_, uint_be_eq_ok.mpr ⟨Int.natCast_nonneg _, by rwa [Int.toNat_natCast], rfl⟩, rfl⟩

/-- The fields of an active campaign as the payload has them. -/
structure Fields where
  id : UUID
  solution_id : UUID
  solution_hash : List UInt8
  payout_address : String
  asking_price_sats : ℕ
  deadline_height : ℕ
deriving DecidableEq

/-- The fields fit in what they are written in. -/
structure Fields.InRange (fields : Fields) : Prop where
  solution_hash : fields.solution_hash.length < 256 ^ 4
  payout_address : (utf8 fields.payout_address).length < 256 ^ 4
  asking_price_sats : fields.asking_price_sats < 256 ^ 8
  deadline_height : fields.deadline_height < 256 ^ 8

/-- What the payload has after the network id. -/
def Fields.bytes (fields : Fields) : List UInt8 :=
  fields.id.bytes ++ (fields.solution_id.bytes ++
    ((beOfNat 4 fields.solution_hash.length ++ fields.solution_hash) ++
      ((beOfNat 4 (utf8 fields.payout_address).length ++ utf8 fields.payout_address) ++
        (beOfNat 8 fields.asking_price_sats ++ beOfNat 8 fields.deadline_height))))

/-- The campaign has these fields, its solution hash decoded. -/
structure FundingCampaign.HasFields (campaign : FundingCampaign) (fields : Fields) : Prop where
  id : campaign.id = fields.id
  solution_id : campaign.solution_id = fields.solution_id
  solution_hash : fromhex campaign.solution_hash = some fields.solution_hash
  payout_address : campaign.developer_payout_address = some fields.payout_address
  asking_price_sats : campaign.asking_price_sats = fields.asking_price_sats
  deadline_height : campaign.deadline_height = some (fields.deadline_height : ℤ)

/-- A payload is the label, the network id and the bytes of the fields. The fields are in range,
since each of the four encodings has returned. -/
theorem hasFields_of_payload {network_id payload : List UInt8} {campaign : FundingCampaign}
    (h : campaign.commitment_payload network_id = .ok payload) :
    network_id ≠ [] ∧ campaign.is_active = true ∧ ∃ fields, campaign.HasFields fields ∧
      fields.InRange ∧ payload = FUNDING_PROTOCOL_LABEL ++ (network_id ++ fields.bytes) := by
  rw [FundingCampaign.commitment_payload] at h
  split_ifs at h with hempty hinactive
  refine ⟨hempty, by simpa using hinactive, ?_⟩
  cases hhash : fromhex campaign.solution_hash with
  | none =>
      rw [hhash] at h
      exact nomatch h
  | some solution_hash =>
  cases haddress : campaign.developer_payout_address with
  | none =>
      rw [hhash, haddress] at h
      exact nomatch h
  | some payout_address =>
  cases hdeadline : campaign.deadline_height with
  | none =>
      rw [hhash, haddress, hdeadline] at h
      exact nomatch h
  | some deadline_height =>
  rw [hhash, haddress, hdeadline] at h
  -- the four encodings that can raise, in the order of the source
  obtain ⟨_, hhashField, h⟩ := bind_eq_ok.mp h
  obtain ⟨_, haddressField, h⟩ := bind_eq_ok.mp h
  obtain ⟨_, hpriceField, h⟩ := bind_eq_ok.mp h
  obtain ⟨_, hdeadlineField, h⟩ := bind_eq_ok.mp h
  obtain ⟨hhashRange, rfl⟩ := length_prefix_eq_ok.mp hhashField
  obtain ⟨haddressRange, rfl⟩ := length_prefix_eq_ok.mp haddressField
  obtain ⟨hprice, hpriceRange, rfl⟩ := uint_be_eq_ok.mp hpriceField
  obtain ⟨hheight, hheightRange, rfl⟩ := uint_be_eq_ok.mp hdeadlineField
  refine ⟨⟨campaign.id, campaign.solution_id, solution_hash, payout_address,
    campaign.asking_price_sats.toNat, deadline_height.toNat⟩, ?_,
    ⟨hhashRange, haddressRange, hpriceRange, hheightRange⟩, ?_⟩
  · exact ⟨rfl, rfl, hhash, haddress, (Int.toNat_of_nonneg hprice).symm,
      by rw [hdeadline, Int.toNat_of_nonneg hheight]⟩
  · rw [← Except.ok.inj h]
    simp only [Fields.bytes, utf8, List.append_assoc]

theorem FundingCampaign.HasFields.payload {network_id : List UInt8} {campaign : FundingCampaign}
    {fields : Fields} (hnetwork : network_id ≠ []) (hactive : campaign.is_active = true)
    (hfields : campaign.HasFields fields) (hrange : fields.InRange) :
    campaign.commitment_payload network_id =
      .ok (FUNDING_PROTOCOL_LABEL ++ (network_id ++ fields.bytes)) := by
  rw [FundingCampaign.commitment_payload, if_neg hnetwork, if_neg (by simpa using hactive),
    hfields.solution_hash, hfields.payout_address, hfields.deadline_height]
  have hhash := length_prefix_eq_ok.mpr ⟨hrange.solution_hash, rfl⟩
  have haddress := length_prefix_eq_ok.mpr ⟨hrange.payout_address, rfl⟩
  rw [utf8] at haddress
  have hprice : uint_be 8 campaign.asking_price_sats =
      .ok (beOfNat 8 fields.asking_price_sats) := by
    rw [hfields.asking_price_sats]
    exact uint_be_eq_ok.mpr ⟨Int.natCast_nonneg _, hrange.asking_price_sats, rfl⟩
  have hdeadline : uint_be 8 (fields.deadline_height : ℤ) =
      .ok (beOfNat 8 fields.deadline_height) :=
    uint_be_eq_ok.mpr ⟨Int.natCast_nonneg _, hrange.deadline_height, rfl⟩
  simp only [hhash, haddress, hprice, hdeadline, ok_bind, pure, Except.pure]
  simp only [Fields.bytes, utf8, hfields.id, hfields.solution_id, List.append_assoc]

/-! ## Under one network id -/

/-- The bytes of the fields determine them. -/
theorem Fields.bytes_inj {a b : Fields} (ha : a.InRange) (hb : b.InRange)
    (h : a.bytes = b.bytes) : a = b := by
  rw [Fields.bytes, Fields.bytes] at h
  obtain ⟨hid, h⟩ := selfDelimiting_uuid.split trivial trivial h
  obtain ⟨hsolution, h⟩ := selfDelimiting_uuid.split trivial trivial h
  obtain ⟨hhash, h⟩ := (selfDelimiting_bytes 4).split ha.solution_hash hb.solution_hash h
  obtain ⟨haddress, h⟩ := ((selfDelimiting_bytes 4).comap utf8_injective).split ha.payout_address
    hb.payout_address h
  obtain ⟨hprice, h⟩ := (selfDelimiting_beOfNat 8).split ha.asking_price_sats
    hb.asking_price_sats h
  have hdeadline := (selfDelimiting_beOfNat 8).eq ha.deadline_height hb.deadline_height h
  cases a
  cases b
  simp only [Fields.mk.injEq]
  exact ⟨hid, hsolution, hhash, haddress, hprice, hdeadline⟩

/-- What the hashed bytes are meant to bind: the network id and the fields of the campaign,
for network ids of these lengths. -/
def Binds (m n : ℕ) : Prop :=
  ∀ network_id network_id' : List UInt8, network_id.length = m → network_id'.length = n →
    ∀ (campaign campaign' : FundingCampaign) (payload : List UInt8),
      campaign.commitment_payload network_id = .ok payload →
      campaign'.commitment_payload network_id' = .ok payload →
      network_id = network_id' ∧ campaign.id = campaign'.id ∧
        campaign.solution_id = campaign'.solution_id ∧
        fromhex campaign.solution_hash = fromhex campaign'.solution_hash ∧
        campaign.developer_payout_address = campaign'.developer_payout_address ∧
        campaign.asking_price_sats = campaign'.asking_price_sats ∧
        campaign.deadline_height = campaign'.deadline_height

/-- With network ids of one length nothing can move over the border. -/
theorem binds_same (m : ℕ) : Binds m m := by
  intro network_id network_id' hm hm' campaign campaign' payload h h'
  obtain ⟨-, -, fields, hfields, hrange, rfl⟩ := hasFields_of_payload h
  obtain ⟨-, -, fields', hfields', hrange', hpayload⟩ := hasFields_of_payload h'
  obtain ⟨hid, hbytes⟩ := List.append_inj (List.append_cancel_left hpayload) (hm.trans hm'.symm)
  obtain rfl := Fields.bytes_inj hrange hrange' hbytes
  exact ⟨hid, hfields.id.trans hfields'.id.symm, hfields.solution_id.trans hfields'.solution_id.symm,
    hfields.solution_hash.trans hfields'.solution_hash.symm,
    hfields.payout_address.trans hfields'.payout_address.symm,
    hfields.asking_price_sats.trans hfields'.asking_price_sats.symm,
    hfields.deadline_height.trans hfields'.deadline_height.symm⟩

theorem Binds.symm {m n : ℕ} (h : Binds m n) : Binds n m := by
  intro network_id network_id' hm hn campaign campaign' payload hp hp'
  obtain ⟨h1, h2, h3, h4, h5, h6, h7⟩ :=
    h network_id' network_id hn hm campaign' campaign payload hp' hp
  exact ⟨h1.symm, h2.symm, h3.symm, h4.symm, h5.symm, h6.symm, h7.symm⟩

/-! ## Across the border -/

/-- A text of the characters NUL, SOH and `a`. -/
def plainText (bytes : List UInt8) : String := String.ofList (bytes.map fun b => Char.ofNat b.toNat)

theorem utf8_plainText {bytes : List UInt8} (h : ∀ b ∈ bytes, b ∈ [0, 1, 97]) :
    utf8 (plainText bytes) = bytes := by
  have hchar : ∀ b ∈ ([0, 1, 97] : List UInt8), String.utf8EncodeChar (Char.ofNat b.toNat) = [b] := by
    rw [List.forall_mem_cons, List.forall_mem_cons, List.forall_mem_singleton]
    decide
  rw [utf8, plainText, String.toList_ofList]
  induction bytes with
  | nil => rfl
  | cons b bytes ih =>
      rw [List.map_cons, List.flatMap_cons, hchar b (h b List.mem_cons_self),
        ih fun c hc => h c (List.mem_cons_of_mem b hc)]
      rfl

theorem strip_plainText {bytes : List UInt8} (h : ∀ b ∈ bytes, b ∈ [0, 1, 97]) :
    strip (plainText bytes) = plainText bytes := by
  have hchar : ∀ b ∈ ([0, 1, 97] : List UInt8), isspace (Char.ofNat b.toNat) = false := by
    rw [List.forall_mem_cons, List.forall_mem_cons, List.forall_mem_singleton]
    decide
  apply strip_eq_self
  rw [plainText, String.toList_ofList]
  intro c hc
  obtain ⟨b, hb, rfl⟩ := List.mem_map.mp hc
  exact hchar b (h b hb)

/-- A campaign for one satoshi until the first block, with these fields. -/
def plainCampaign (id solution_id : UUID) (solution_hash address : List UInt8)
    (hne : address ≠ []) (hplain : ∀ b ∈ address, b ∈ [0, 1, 97]) : FundingCampaign where
  solution_id := solution_id
  solution_hash := hex solution_hash
  developer_payout_address := some (plainText address)
  asking_price_sats := 1
  deadline_height := some 1
  id := id
  created_at := .aware 0 "1970-01-01T00:00:00+00:00"
  asking_price_nonneg := by decide
  deadline_pos := by decide
  terms := by simp
  address_normalized := by
    intro text htext
    obtain rfl := Option.some.inj htext
    refine ⟨strip_plainText hplain, fun hempty => hne ?_⟩
    have hbytes := utf8_plainText hplain
    rw [hempty] at hbytes
    exact hbytes.symm

def plainFields (id solution_id : UUID) (solution_hash address : List UInt8) : Fields :=
  ⟨id, solution_id, solution_hash, plainText address, 1, 1⟩

theorem plainCampaign_payload {network_id : List UInt8} (hnetwork : network_id ≠ [])
    (id solution_id : UUID) {solution_hash address : List UInt8} (hne : address ≠ [])
    (hplain : ∀ b ∈ address, b ∈ [0, 1, 97]) (hhash : solution_hash.length < 256 ^ 4)
    (haddress : address.length < 256 ^ 4) :
    (plainCampaign id solution_id solution_hash address hne hplain).commitment_payload network_id =
      .ok (FUNDING_PROTOCOL_LABEL ++ (network_id ++
        (plainFields id solution_id solution_hash address).bytes)) := by
  have hfields : (plainCampaign id solution_id solution_hash address hne hplain).HasFields
      (plainFields id solution_id solution_hash address) :=
    ⟨rfl, rfl, fromhex_hex solution_hash, rfl, rfl, rfl⟩
  have hrange : (plainFields id solution_id solution_hash address).InRange := by
    refine ⟨hhash, ?_, by norm_num [plainFields], by norm_num [plainFields]⟩
    rw [plainFields, utf8_plainText hplain]
    exact haddress
  exact hfields.payload hnetwork rfl hrange

/-- The bytes of a text behind its length. -/
def prefixed (text : List UInt8) : List UInt8 := beOfNat 4 text.length ++ text

theorem plainFields_bytes {id solution_id : UUID} {solution_hash address : List UInt8}
    (hplain : ∀ b ∈ address, b ∈ [0, 1, 97]) :
    (plainFields id solution_id solution_hash address).bytes =
      id.bytes ++ (solution_id.bytes ++ (prefixed solution_hash ++ prefixed address ++
        (beOfNat 8 1 ++ beOfNat 8 1))) := by
  simp only [Fields.bytes, plainFields, utf8_plainText hplain, prefixed, List.append_assoc]

/-- A hash and an address behind their lengths can also be read `d` bytes further on. -/
def Shift (d : ℕ) : Prop :=
  ∃ lead hash hash' address address' : List UInt8, lead.length = d ∧
    prefixed hash ++ prefixed address = lead ++ (prefixed hash' ++ prefixed address') ∧
    hash.length < 256 ^ 4 ∧ hash'.length < 256 ^ 4 ∧
    (address ≠ [] ∧ address.length < 256 ^ 4 ∧ ∀ b ∈ address, b ∈ [0, 1, 97]) ∧
    (address' ≠ [] ∧ address'.length < 256 ^ 4 ∧ ∀ b ∈ address', b ∈ [0, 1, 97])

/-- Bytes that are read as a network id of `k` bytes and two ids of 16 bytes. -/
theorem exists_header {front : List UInt8} {k : ℕ} (h : front.length = k + 32) :
    ∃ (network_id : List UInt8) (id solution_id : UUID), network_id.length = k ∧
      front = network_id ++ (id.bytes ++ solution_id.bytes) := by
  obtain ⟨id, hid⟩ : ∃ id : UUID, id.bytes = (front.drop k).take 16 :=
    exists_uuid (by rw [List.length_take, List.length_drop]; omega)
  obtain ⟨solution_id, hsolution⟩ : ∃ id : UUID, id.bytes = (front.drop k).drop 16 :=
    exists_uuid (by rw [List.length_drop, List.length_drop]; omega)
  refine ⟨front.take k, id, solution_id, ?_, ?_⟩
  · rw [List.length_take]
    omega
  · rw [hid, hsolution, List.take_append_drop, List.take_append_drop]

/-- A shift makes a payload with two network ids. What stands between the shorter one and the
shifted fields is cut into the end of the longer one and two ids of 16 bytes. -/
theorem Shift.not_binds {d m : ℕ} (h : Shift d) (hd : 0 < d) (hm : 0 < m) : ¬ Binds m (m + d) := by
  obtain ⟨lead, hash, hash', address, address', hlead, hshift, hhash, hhash', ⟨hne, hlen, hplain⟩,
    ⟨hne', hlen', hplain'⟩⟩ := h
  intro hbinds
  obtain ⟨network_id, hnetwork⟩ : ∃ network_id : List UInt8, network_id.length = m :=
    ⟨List.replicate m 0, List.length_replicate⟩
  -- the bytes before the shifted fields
  let front : List UInt8 := network_id ++ (UUID.bytes 0 ++ (UUID.bytes 0 ++ lead))
  have hfront : front.length = m + d + 32 := by
    simp only [front, List.length_append, hnetwork, hlead, UUID.bytes, beOfNat_length]
    omega
  obtain ⟨network_id', id, solution_id, hnetwork', hsplit⟩ := exists_header hfront
  have hpayload : network_id ++ (plainFields 0 0 hash address).bytes =
      network_id' ++ (plainFields id solution_id hash' address').bytes := by
    rw [plainFields_bytes hplain, plainFields_bytes hplain', hshift]
    let back := prefixed hash' ++ prefixed address' ++ (beOfNat 8 1 ++ beOfNat 8 1)
    calc network_id ++ (UUID.bytes 0 ++ (UUID.bytes 0 ++ (lead ++ (prefixed hash' ++
            prefixed address') ++ (beOfNat 8 1 ++ beOfNat 8 1))))
        = front ++ back := by simp only [front, back, List.append_assoc]
      _ = network_id' ++ (id.bytes ++ solution_id.bytes) ++ back := congrArg (· ++ back) hsplit
      _ = network_id' ++ (id.bytes ++ (solution_id.bytes ++ back)) := by
          simp only [List.append_assoc]
  have hne1 : network_id ≠ [] := List.ne_nil_of_length_pos (by omega)
  have hne2 : network_id' ≠ [] := List.ne_nil_of_length_pos (by omega)
  have hone := plainCampaign_payload hne1 0 0 hne hplain hhash hlen
  have htwo := plainCampaign_payload hne2 id solution_id hne' hplain' hhash' hlen'
  rw [← hpayload] at htwo
  -- one payload, and network ids of two lengths
  obtain ⟨hsame, -⟩ := hbinds _ _ hnetwork hnetwork' _ _ _ hone htwo
  rw [← hsame] at hnetwork'
  omega

/-- A hash that begins with an address's length and goes on in the address, as far as leaves
room for an address of one character. -/
theorem prefixed_address {k : ℕ} (hk : 4 ≤ k) :
    prefixed (List.replicate (k - 4) 97 ++ prefixed [97]) =
      (beOfNat 4 (k + 1) ++ List.replicate (k - 4) 97) ++ prefixed [97] := by
  have hlen : (List.replicate (k - 4) (97 : UInt8) ++ prefixed [97]).length = k + 1 := by
    simp only [prefixed, List.length_append, List.length_replicate, beOfNat_length,
      List.length_singleton]
    omega
  rw [prefixed, hlen, List.append_assoc]

/-- The shortest address, behind its length. -/
theorem prefixed_one : prefixed [97] = [0, 0, 0, 1, 97] := rfl

theorem plain_replicate_prefixed {k : ℕ} {b : UInt8} (hb : b ∈ [0, 1, 97]) :
    ∀ c ∈ List.replicate k b ++ prefixed [97], c ∈ [0, 1, 97] := by
  intro c hc
  rcases List.mem_append.mp hc with hc | hc
  · rwa [List.eq_of_mem_replicate hc]
  · rw [prefixed_one] at hc
    simp only [List.mem_cons, List.not_mem_nil, or_false] at hc ⊢
    tauto

/-- One, two or three bytes: the length of the hash is read in part as the end of the network
id, and what follows as the rest of another length. -/
theorem shift_of_lt_four {d : ℕ} (hd : 0 < d) (hlt : d < 4) : Shift d := by
  let text := beOfNat 4 d ++ List.replicate d (0 : UInt8)
  have hwidth : (text.drop d).length = 4 := by
    simp only [text, List.length_drop, List.length_append, beOfNat_length, List.length_replicate]
    omega
  have hbounds : 4 ≤ natOfBE (text.drop d) ∧ natOfBE (text.drop d) + 1 < 256 ^ 4 := by
    -- each length written out: four bytes of it are pushed on by one, two or three
    obtain rfl | rfl | rfl : d = 1 ∨ d = 2 ∨ d = 3 := by omega
    all_goals decide
  obtain ⟨hfour, hfits⟩ := hbounds
  have htext : prefixed (List.replicate d 0) = text.take d ++ text.drop d := by
    rw [List.take_append_drop, prefixed, List.length_replicate]
  let hash' :=
    beOfNat 4 (natOfBE (text.drop d) + 1) ++ List.replicate (natOfBE (text.drop d) - 4) (97 : UInt8)
  have hhash : hash'.length = natOfBE (text.drop d) := by
    rw [List.length_append, beOfNat_length, List.length_replicate]
    omega
  refine ⟨text.take d, List.replicate d 0, hash',
    List.replicate (natOfBE (text.drop d) - 4) 97 ++ prefixed [97], [97], ?_, ?_, ?_, ?_,
    ⟨by simp [prefixed], ?_, plain_replicate_prefixed (by decide)⟩, by simp, by norm_num, by simp⟩
  · rw [List.length_take, List.length_append, beOfNat_length, List.length_replicate]
    omega
  · rw [htext, prefixed_address hfour, List.append_assoc]
    congr 1
    rw [← List.append_assoc]
    congr 1
    rw [prefixed, hhash, beOfNat_natOfBE hwidth]
  · rw [List.length_replicate]
    omega
  · rw [hhash]
    omega
  · rw [List.length_append, List.length_replicate]
    have hone : (prefixed [97]).length = 5 := rfl
    omega

/-- Up to the largest hash: the length of the empty hash is the end of a longer one. -/
theorem shift_of_lt {d : ℕ} (hd : 4 ≤ d) (hlt : d < 256 ^ 4) : Shift d := by
  have hsplit : prefixed (List.replicate d (0 : UInt8)) =
      (beOfNat 4 d ++ List.replicate (d - 4) 0) ++ prefixed [] := by
    have hfour : prefixed [] = List.replicate 4 (0 : UInt8) := by decide
    rw [hfour, List.append_assoc, List.replicate_append_replicate, Nat.sub_add_cancel hd, prefixed,
      List.length_replicate]
  refine ⟨beOfNat 4 d ++ List.replicate (d - 4) 0, List.replicate d 0, [], [97], [97], ?_, ?_, ?_,
    by norm_num, ⟨by simp, by norm_num, by simp⟩, by simp, by norm_num, by simp⟩
  · rw [List.length_append, beOfNat_length, List.length_replicate]
    omega
  · rw [hsplit, List.append_assoc]
  · rwa [List.length_replicate]

/-- With a long address as well: `h` bytes of hash and an address of `k + 9` bytes. -/
theorem shift_of_address {h k d : ℕ} (hh : h < 256 ^ 4) (hk : k + 9 < 256 ^ 4)
    (hd : h + k + 8 = d) : Shift d := by
  let address := List.replicate k (0 : UInt8) ++ (prefixed [] ++ prefixed [97])
  have hlen : address.length = k + 9 := by
    have hend : (prefixed [] ++ prefixed [97]).length = 9 := rfl
    rw [List.length_append, List.length_replicate, hend]
  refine ⟨prefixed (List.replicate h 0) ++ (beOfNat 4 (k + 9) ++ List.replicate k 0),
    List.replicate h 0, [], address, [97], ?_, ?_, ?_, by norm_num, ⟨?_, ?_, ?_⟩, by simp,
    by norm_num, by simp⟩
  · simp only [prefixed, List.length_append, beOfNat_length, List.length_replicate]
    omega
  · rw [prefixed.eq_def address, hlen]
    simp only [address, List.append_assoc]
  · rwa [List.length_replicate]
  · exact List.ne_nil_of_length_pos (by omega)
  · omega
  · have hzero : prefixed [] = List.replicate 4 (0 : UInt8) := rfl
    simp only [address]
    rw [hzero, ← List.append_assoc, List.replicate_append_replicate]
    exact plain_replicate_prefixed (by decide)

/-- What two byte strings of less than `2 ^ 32` bytes can make up for, one of them not empty. -/
def MAX_SHIFT : ℕ := 2 ^ 33 - 3

theorem shift_of_le {d : ℕ} (hd : 0 < d) (hle : d ≤ MAX_SHIFT) : Shift d := by
  rw [MAX_SHIFT] at hle
  by_cases hfour : d < 4
  · exact shift_of_lt_four hd hfour
  · by_cases hhash : d < 256 ^ 4
    · exact shift_of_lt (not_lt.mp hfour) hhash
    · exact shift_of_address (h := d + 2 - 2 ^ 32) (k := 2 ^ 32 - 10) (by omega) (by omega) (by omega)

/-- The bytes of the fields are as long as hash and address make them. -/
theorem Fields.length_bytes (fields : Fields) :
    fields.bytes.length = 56 + fields.solution_hash.length + (utf8 fields.payout_address).length := by
  simp only [Fields.bytes, List.length_append, UUID.bytes, beOfNat_length]
  omega

/-- Network ids that differ by more in length have no payload in common. -/
theorem binds_of_lt {m n : ℕ} (h : m + MAX_SHIFT < n) : Binds m n := by
  intro network_id network_id' hm hn campaign campaign' payload hp hp'
  obtain ⟨-, -, fields, -, hrange, rfl⟩ := hasFields_of_payload hp
  obtain ⟨-, -, fields', hfields', -, hpayload⟩ := hasFields_of_payload hp'
  have hlen := congrArg List.length (List.append_cancel_left hpayload)
  have haddress : 0 < (utf8 fields'.payout_address).length := by
    have hne := (campaign'.address_normalized _ hfields'.payout_address).2
    refine List.length_pos_iff.mpr fun hnil => hne ?_
    have hempty : utf8 "" = [] := by simp [utf8]
    exact utf8_injective (hnil.trans hempty.symm)
  have hhash := hrange.solution_hash
  have hutf8 := hrange.payout_address
  rw [List.length_append, List.length_append, fields.length_bytes, fields'.length_bytes] at hlen
  rw [MAX_SHIFT] at h
  omega

/-- **What the commitment binds.** Equal hashed bytes have equal network ids and equal fields,
whatever the campaigns, exactly when the network ids have one length, or differ in length by
more than a hash and an address can make up for. -/
theorem binds_iff {m n : ℕ} (hm : 0 < m) (hn : 0 < n) :
    Binds m n ↔ m = n ∨ m + MAX_SHIFT < n ∨ n + MAX_SHIFT < m := by
  constructor
  · intro h
    by_contra hclose
    push Not at hclose
    obtain ⟨hne, hmn, hnm⟩ := hclose
    rcases Nat.lt_or_gt_of_ne hne with hlt | hlt
    · refine (shift_of_le (d := n - m) (by omega) (by omega)).not_binds (by omega) hm ?_
      rwa [Nat.add_sub_of_le hlt.le]
    · refine (shift_of_le (d := m - n) (by omega) (by omega)).not_binds (by omega) hn ?_
      rw [Nat.add_sub_of_le hlt.le]
      exact h.symm
  · rintro (rfl | h | h)
    · exact binds_same m
    · exact binds_of_lt h
    · exact (binds_of_lt h).symm

theorem binds_seven_bytes : Binds 7 7 := (binds_iff (by decide) (by decide)).mpr (.inl rfl)

/-- A campaign with a solution hash of four zero bytes on the network `b"a"`, and one with an
empty solution hash on the network `b"a"` with four zero bytes behind it, are hashed as the same
bytes. -/
theorem network_ids_collide :
    ∃ campaign campaign' : FundingCampaign, ∃ payload,
      campaign.commitment_payload [97] = .ok payload ∧
      campaign'.commitment_payload [97, 0, 0, 0, 0] = .ok payload ∧
      campaign.solution_id ≠ campaign'.solution_id ∧
      fromhex campaign.solution_hash = some [0, 0, 0, 0] ∧
      fromhex campaign'.solution_hash = some [] := by
  have hnetwork : ([97] : List UInt8) ≠ [] := List.cons_ne_nil _ _
  have hnetwork' : ([97, 0, 0, 0, 0] : List UInt8) ≠ [] := List.cons_ne_nil _ _
  have hplain : ∀ b ∈ ([97] : List UInt8), b ∈ [0, 1, 97] := by simp
  have hhash : ([0, 0, 0, 0] : List UInt8).length < 256 ^ 4 := by decide
  have hhash' : ([] : List UInt8).length < 256 ^ 4 := by decide
  have hlong := plainCampaign_payload hnetwork 0 0 hnetwork hplain hhash (by decide)
  have hshort := plainCampaign_payload hnetwork' 0 4 hnetwork hplain hhash' (by decide)
  -- the four bytes at the end of the network id are read as the first ones of the id
  have hbytes : ([97] : List UInt8) ++ (plainFields 0 0 [0, 0, 0, 0] [97]).bytes =
      [97, 0, 0, 0, 0] ++ (plainFields 0 4 [] [97]).bytes := by
    rw [plainFields_bytes hplain, plainFields_bytes hplain]
    decide
  rw [← hbytes] at hshort
  have hids : (0 : UUID) ≠ 4 := by decide
  exact ⟨_, _, _, hlong, hshort, hids, fromhex_hex _, fromhex_hex _⟩

end Superorganism.Funding

/-
What the models share of the Python runtime: exceptions as values, and the size
of a sequence object.

An exception is a value of `PyError`, one constructor for each class the
modelled code raises or lets through, carrying the arguments the source gives
it; fallible code returns `Except PyError`. A handler that catches a class also
catches its subclasses, so the class test is a function: `except ValueError`
catches a `TxFormatError`.

CPython counts the elements of a sequence object in a `Py_ssize_t`. No `list`
and no `bytes` object is longer than `sys.maxsize`, and a request for more (for
instance `BytesIO.read(n)` with a larger `n`) is refused with `OverflowError`
before anything is read. `PySeq` carries that bound with the value.
-/
import Mathlib.Data.List.Forall2
import Mathlib.Data.List.Nodup
import Mathlib.Data.List.DropRight
import Mathlib.Data.List.Infix
import Mathlib.Tactic.NormNum
import Superorganism.Bytes

set_option autoImplicit false

open Superorganism.Bytes

namespace Superorganism.Py

/-- The exceptions of the modelled code. -/
inductive PyError where
  | ValueError (message : String)
  /-- `democracy.funding.bitcoin_tx.TxFormatError`, a subclass of `ValueError`. -/
  | TxFormatError (message : String)
  | OverflowError (message : String)
  | TypeError (message : String)
  | KeyError (key : String)
  /-- `decimal.InvalidOperation`, an `ArithmeticError`. -/
  | InvalidOperation
  /-- `decimal.Overflow`, an `ArithmeticError`. -/
  | Overflow
  /-- `decimal.DivisionByZero`, an `ArithmeticError`. -/
  | DivisionByZero
  /-- `democracy.funding.service.CampaignNotFoundError`, a `LookupError`. -/
  | CampaignNotFoundError (message : String)
  /-- `bitcoin.rpc_errors.BitcoinRpcError`, a `RuntimeError`. -/
  | BitcoinRpcError (method : String) (code : Option ℤ) (rpc_message : String)
  /-- `sqlite3.IntegrityError` with the message SQLite gives. -/
  | IntegrityError (message : String)
  /-- `sqlite3.OperationalError`. -/
  | OperationalError (message : String)
  | AttributeError (message : String)
  /-- `authentication.storage.in_memory_challenge_store.ChallengeStoreFullError`, a
  `RuntimeError`. -/
  | ChallengeStoreFullError (message : String)
deriving DecidableEq, Repr

/-- The class `except BitcoinRpcError` catches. -/
def PyError.isBitcoinRpcError : PyError → Bool
  | .BitcoinRpcError _ _ _ => true
  | _ => false

/-- The classes an `except ValueError` clause catches. -/
def PyError.isValueError : PyError → Bool
  | .ValueError _ => true
  | .TxFormatError _ => true
  | _ => false

/-- `str(exc)`. -/
def PyError.str : PyError → String
  | .ValueError message => message
  | .TxFormatError message => message
  | .OverflowError message => message
  | .TypeError message => message
  | .KeyError key => key
  | .InvalidOperation => "[<class 'decimal.InvalidOperation'>]"
  | .Overflow => "[<class 'decimal.Overflow'>]"
  | .DivisionByZero => "[<class 'decimal.DivisionByZero'>]"
  | .CampaignNotFoundError message => message
  | .BitcoinRpcError _ (some code) rpc_message => s!"RPC error {code}: {rpc_message}"
  | .BitcoinRpcError _ none rpc_message => rpc_message
  | .IntegrityError message => message
  | .OperationalError message => message
  | .AttributeError message => message
  | .ChallengeStoreFullError message => message

/-- The class `except sqlite3.IntegrityError` catches. -/
def PyError.isIntegrityError : PyError → Bool
  | .IntegrityError _ => true
  | _ => false

/-! ## Fallible code -/

section

variable {ε α β : Type}

theorem ok_bind (a : α) (f : α → Except ε β) : ((.ok a : Except ε α) >>= f) = f a := rfl

theorem error_bind (e : ε) (f : α → Except ε β) : ((.error e : Except ε α) >>= f) = .error e := rfl

/-- A sequence of two fallible steps succeeds exactly when both do. -/
theorem bind_eq_ok {x : Except ε α} {f : α → Except ε β} {b : β} :
    (x >>= f) = .ok b ↔ ∃ a, x = .ok a ∧ f a = .ok b := by
  cases x with
  | error e => simp [bind, Except.bind]
  | ok a => simp [bind, Except.bind]

/-- A list comprehension of a fallible function succeeds exactly when every call does. -/
theorem mapM_eq_ok {f : α → Except ε β} {xs : List α} {ys : List β} :
    xs.mapM f = .ok ys ↔ List.Forall₂ (fun x y => f x = .ok y) xs ys := by
  induction xs generalizing ys with
  | nil =>
      rw [List.mapM_nil, List.forall₂_nil_left_iff]
      exact ⟨fun h => (Except.ok.inj h).symm, fun h => by rw [h]; rfl⟩
  | cons x xs ih =>
      rw [List.mapM_cons, bind_eq_ok, List.forall₂_cons_left_iff]
      constructor
      · rintro ⟨y, hy, h⟩
        obtain ⟨zs, hzs, h⟩ := bind_eq_ok.mp h
        exact ⟨y, zs, hy, ih.mp hzs, (Except.ok.inj h).symm⟩
      · rintro ⟨y, zs, hy, hzs, rfl⟩
        exact ⟨y, hy, bind_eq_ok.mpr ⟨zs, ih.mpr hzs, rfl⟩⟩

theorem mem_of_mapM_eq_ok {f : α → Except ε β} {xs : List α} {ys : List β}
    (h : xs.mapM f = .ok ys) :
    (∀ x ∈ xs, ∃ y ∈ ys, f x = .ok y) ∧ ∀ y ∈ ys, ∃ x ∈ xs, f x = .ok y := by
  have hall := mapM_eq_ok.mp h
  clear h
  induction hall with
  | nil => exact ⟨fun x hx => absurd hx List.not_mem_nil, fun y hy => absurd hy List.not_mem_nil⟩
  | @cons x y xs ys hxy _ ih =>
      constructor
      · intro x' hx'
        rcases List.mem_cons.mp hx' with rfl | hx'
        · exact ⟨y, List.mem_cons_self .., hxy⟩
        · obtain ⟨y', hy', hf⟩ := ih.1 x' hx'
          exact ⟨y', List.mem_cons_of_mem _ hy', hf⟩
      · intro y' hy'
        rcases List.mem_cons.mp hy' with rfl | hy'
        · exact ⟨x, List.mem_cons_self .., hxy⟩
        · obtain ⟨x', hx', hf⟩ := ih.2 y' hy'
          exact ⟨x', List.mem_cons_of_mem _ hx', hf⟩

/-- Where no call fails the values are those of the elements. -/
theorem mapM_of_ok {f : α → Except ε β} {xs : List α} (h : ∀ x ∈ xs, ∃ y, f x = .ok y) :
    ∃ ys, xs.mapM f = .ok ys ∧ ∀ y, y ∈ ys ↔ ∃ x ∈ xs, f x = .ok y := by
  have hall : ∃ ys, List.Forall₂ (fun x y => f x = .ok y) xs ys := by
    induction xs with
    | nil => exact ⟨[], .nil⟩
    | cons x xs ih =>
        obtain ⟨y, hy⟩ := h x (List.mem_cons_self ..)
        obtain ⟨ys, hys⟩ := ih fun x' hx' => h x' (List.mem_cons_of_mem _ hx')
        exact ⟨y :: ys, .cons hy hys⟩
  obtain ⟨ys, hall⟩ := hall
  have hys := mapM_eq_ok.mpr hall
  refine ⟨ys, hys, fun y => ⟨fun hy => (mem_of_mapM_eq_ok hys).2 y hy, ?_⟩⟩
  rintro ⟨x, hx, hxy⟩
  obtain ⟨y', hy', hxy'⟩ := (mem_of_mapM_eq_ok hys).1 x hx
  rw [hxy] at hxy'
  exact Except.ok.inj hxy' ▸ hy'

end

/-! ## Sequence objects -/

/-- `sys.maxsize` of a 64-bit CPython. -/
def sys_maxsize : ℕ := 2 ^ 63 - 1

theorem sys_maxsize_lt : sys_maxsize < 2 ^ 64 := by
  norm_num [sys_maxsize]

/-- A CPython sequence object: at most `sys.maxsize` elements. -/
structure PySeq (α : Type) where
  toList : List α
  length_le : toList.length ≤ sys_maxsize
deriving DecidableEq

/-- A `bytes` object. -/
abbrev PyBytes := PySeq UInt8

@[ext] theorem PySeq.ext {α : Type} {a b : PySeq α} (h : a.toList = b.toList) : a = b := by
  cases a
  cases b
  cases h
  rfl

/-- `len(x)`. -/
def PySeq.length {α : Type} (a : PySeq α) : ℕ := a.toList.length

theorem PySeq.length_lt {α : Type} (a : PySeq α) : a.length < 2 ^ 64 :=
  lt_of_le_of_lt a.length_le sys_maxsize_lt

/-! ## UUIDs -/

/-- A `uuid.UUID`, by its 128-bit integer. -/
abbrev UUID := BitVec 128

/-- Under a name of its own, for the tests of whether an id is in a list. -/
instance : LawfulBEq UUID := inferInstance

/-- `u.bytes`. -/
def UUID.bytes (u : UUID) : List UInt8 := beOfNat 16 u.toNat

/-- `str(u)`: groups of 8, 4, 4, 4 and 12 digits. -/
@[irreducible] def UUID.str (u : UUID) : String :=
  let digits := (hex u.bytes).toList
  String.ofList (digits.take 8 ++ '-' :: (digits.drop 8).take 4 ++ '-' :: (digits.drop 12).take 4 ++
    '-' :: (digits.drop 16).take 4 ++ '-' :: digits.drop 20)

/-- The UUID of a text of hexadecimal digits, hyphens left out: what `UUID(text)` makes of a
text that `str` has written. -/
def UUID.ofStr (text : String) : Option UUID :=
  match fromhex (String.ofList (text.toList.filter (· ≠ '-'))) with
  | some bytes => if bytes.length = 16 then some (BitVec.ofNat 128 (natOfBE bytes)) else none
  | none => none

theorem hexChars_ne_hyphen (bs : List UInt8) : ∀ c ∈ hexChars bs, c ≠ '-' := by
  have hdigit : ∀ v < 16, hexDigit v ≠ '-' := by decide
  intro c hc
  obtain ⟨v, hv, rfl⟩ := exists_hexDigit c hc
  exact hdigit v hv

theorem UUID.ofStr_str (u : UUID) : UUID.ofStr u.str = some u := by
  have hu : u.toNat < 256 ^ 16 := by
    have h := u.isLt
    norm_num at h ⊢
    exact h
  -- without its hyphens the text is that of the bytes
  have hfilter : u.str.toList.filter (· ≠ '-') = (hex u.bytes).toList := by
    have hdigits : ∀ l : List Char, l ⊆ (hex u.bytes).toList → l.filter (· ≠ '-') = l := by
      intro l hl
      rw [List.filter_eq_self]
      intro c hc
      have hmem := hl hc
      rw [hex, String.toList_ofList] at hmem
      simpa using hexChars_ne_hyphen u.bytes c hmem
    have hdrop : ∀ n m, (((hex u.bytes).toList.drop n).take m).filter (· ≠ '-') =
        ((hex u.bytes).toList.drop n).take m := fun n m =>
      hdigits _ fun c hc => List.mem_of_mem_drop (List.mem_of_mem_take hc)
    have htake : ((hex u.bytes).toList.take 8).filter (· ≠ '-') = (hex u.bytes).toList.take 8 :=
      hdigits _ fun c hc => List.mem_of_mem_take hc
    have hlast : ((hex u.bytes).toList.drop 20).filter (· ≠ '-') = (hex u.bytes).toList.drop 20 :=
      hdigits _ fun c hc => List.mem_of_mem_drop hc
    have hhyphen : ∀ l : List Char, ('-' :: l).filter (· ≠ '-') = l.filter (· ≠ '-') := fun l => by
      rw [List.filter_cons, if_neg (by decide)]
    unfold UUID.str
    rw [String.toList_ofList]
    simp only [List.filter_append, List.cons_append, List.append_assoc, hhyphen, htake, hdrop, hlast]
    rw [show (hex u.bytes).toList.drop 12 = ((hex u.bytes).toList.drop 8).drop 4 by
        rw [List.drop_drop], show (hex u.bytes).toList.drop 16 =
        (((hex u.bytes).toList.drop 8).drop 4).drop 4 by rw [List.drop_drop, List.drop_drop],
      show (hex u.bytes).toList.drop 20 =
        ((((hex u.bytes).toList.drop 8).drop 4).drop 4).drop 4 by
          rw [List.drop_drop, List.drop_drop, List.drop_drop],
      List.take_append_drop, List.take_append_drop, List.take_append_drop, List.take_append_drop]
  rw [UUID.ofStr, hfilter, String.ofList_toList, fromhex_hex]
  dsimp only
  rw [if_pos (by rw [UUID.bytes, beOfNat_length]), UUID.bytes, natOfBE_beOfNat 16 _ hu,
    BitVec.ofNat_toNat, BitVec.setWidth_eq]

/-- Different UUIDs have different texts. -/
theorem UUID.str_injective : Function.Injective UUID.str := by
  intro a b h
  have h2 : UUID.ofStr a.str = UUID.ofStr b.str := by rw [h]
  rw [UUID.ofStr_str, UUID.ofStr_str] at h2
  exact Option.some.inj h2

/-! ## Dictionaries -/

section

variable {κ ν : Type} [DecidableEq κ]

/-- The entries after `d[k] = v`: an old key keeps its place, a new one goes last. -/
def setEntry (k : κ) (v : ν) : List (κ × ν) → List (κ × ν)
  | [] => [(k, v)]
  | e :: es => if e.1 = k then (k, v) :: es else e :: setEntry k v es

theorem map_fst_setEntry (k : κ) (v : ν) (es : List (κ × ν)) :
    (setEntry k v es).map Prod.fst =
      if k ∈ es.map Prod.fst then es.map Prod.fst else es.map Prod.fst ++ [k] := by
  induction es with
  | nil => rfl
  | cons e es ih =>
      rw [setEntry]
      by_cases he : e.1 = k
      · simp [he]
      · rw [if_neg he, List.map_cons, ih]
        by_cases hk : k ∈ es.map Prod.fst
        · simp [hk]
        · simp [hk, Ne.symm he]

theorem nodup_setEntry {k : κ} {v : ν} {es : List (κ × ν)} (h : (es.map Prod.fst).Nodup) :
    ((setEntry k v es).map Prod.fst).Nodup := by
  rw [map_fst_setEntry]
  split_ifs with hk
  · exact h
  · exact List.nodup_append.mpr ⟨h, List.nodup_singleton k, fun a ha b hb hab =>
      hk (List.mem_singleton.mp hb ▸ hab ▸ ha)⟩

theorem mem_setEntry {k : κ} {v : ν} {es : List (κ × ν)} (h : (es.map Prod.fst).Nodup)
    {e : κ × ν} : e ∈ setEntry k v es ↔ e = (k, v) ∨ (e ∈ es ∧ e.1 ≠ k) := by
  induction es with
  | nil => simp [setEntry]
  | cons x es ih =>
      rw [List.map_cons, List.nodup_cons] at h
      rw [setEntry]
      by_cases hx : x.1 = k
      · -- no later entry has the key
        have hlater : e ∈ es → e.1 ≠ k := fun he hek =>
          h.1 (hx ▸ hek ▸ List.mem_map_of_mem he)
        rw [if_pos hx, List.mem_cons, List.mem_cons]
        constructor
        · rintro (he | he)
          · exact .inl he
          · exact .inr ⟨.inr he, hlater he⟩
        · rintro (he | ⟨rfl | he, hne⟩)
          · exact .inl he
          · exact absurd hx hne
          · exact .inr he
      · rw [if_neg hx, List.mem_cons, List.mem_cons, ih h.2]
        constructor
        · rintro (rfl | he | ⟨he, hne⟩)
          · exact .inr ⟨.inl rfl, hx⟩
          · exact .inl he
          · exact .inr ⟨.inr he, hne⟩
        · rintro (he | ⟨rfl | he, hne⟩)
          · exact .inr (.inl he)
          · exact .inl rfl
          · exact .inr (.inr ⟨he, hne⟩)

/-- A `dict`: its entries in insertion order, no key twice. -/
structure PyDict (κ ν : Type) where
  entries : List (κ × ν)
  nodup : (entries.map Prod.fst).Nodup

def PyDict.empty : PyDict κ ν := ⟨[], List.nodup_nil⟩

/-- `d[k] = v`. -/
def PyDict.set (d : PyDict κ ν) (k : κ) (v : ν) : PyDict κ ν :=
  ⟨setEntry k v d.entries, nodup_setEntry d.nodup⟩

/-- `{k: v for k in ks}`. -/
def PyDict.fromkeys (ks : List κ) (v : ν) : PyDict κ ν := ks.foldl (fun d k => d.set k v) .empty

/-- `list(d.values())`. -/
def PyDict.values (d : PyDict κ ν) : List ν := d.entries.map Prod.snd

/-- `d.get(k)`. -/
def PyDict.get? (d : PyDict κ ν) (k : κ) : Option ν :=
  (d.entries.find? fun e => e.1 = k).map Prod.snd

/-- `d.pop(k, None)`, and `del d[k]` of a key that is there. -/
def PyDict.erase (d : PyDict κ ν) (k : κ) : PyDict κ ν where
  entries := d.entries.filter fun e => e.1 ≠ k
  nodup := d.nodup.sublist (List.Sublist.map _ (List.filter_sublist ..))

/-- `len(d)`. -/
def PyDict.length (d : PyDict κ ν) : ℕ := d.entries.length

/-- `list(d)`. -/
def PyDict.keys (d : PyDict κ ν) : List κ := d.entries.map Prod.fst

/-- Every value replaced, in place. -/
def PyDict.mapValues {μ : Type} (f : ν → μ) (d : PyDict κ ν) : PyDict κ μ where
  entries := d.entries.map fun e => (e.1, f e.2)
  nodup := by
    rw [List.map_map]
    exact d.nodup

/-- The entries whose value passes the test. -/
def PyDict.filterValues (p : ν → Bool) (d : PyDict κ ν) : PyDict κ ν where
  entries := d.entries.filter fun e => p e.2
  nodup := d.nodup.sublist (List.Sublist.map _ List.filter_sublist)

theorem PyDict.get?_eq_some {d : PyDict κ ν} {k : κ} {v : ν} :
    d.get? k = some v ↔ (k, v) ∈ d.entries := by
  rw [PyDict.get?, Option.map_eq_some_iff]
  constructor
  · rintro ⟨e, he, rfl⟩
    have hk : e.1 = k := by simpa using List.find?_some he
    rw [← hk]
    exact List.mem_of_find?_eq_some he
  · intro h
    cases hf : d.entries.find? (fun e => e.1 = k) with
    | none => simpa using List.find?_eq_none.mp hf _ h
    | some e =>
        have hk : e.1 = k := by simpa using List.find?_some hf
        have he := List.inj_on_of_nodup_map d.nodup (List.mem_of_find?_eq_some hf) h hk
        exact ⟨e, rfl, by rw [he]⟩

theorem PyDict.get?_isSome {d : PyDict κ ν} {k : κ} :
    (d.get? k).isSome ↔ k ∈ d.entries.map Prod.fst := by
  rw [Option.isSome_iff_exists, List.mem_map]
  constructor
  · rintro ⟨v, hv⟩
    exact ⟨(k, v), PyDict.get?_eq_some.mp hv, rfl⟩
  · rintro ⟨e, he, rfl⟩
    exact ⟨e.2, PyDict.get?_eq_some.mpr he⟩

@[simp] theorem PyDict.get?_empty (k : κ) : (PyDict.empty : PyDict κ ν).get? k = none := rfl

theorem PyDict.get?_set (d : PyDict κ ν) (k k' : κ) (v : ν) :
    (d.set k v).get? k' = if k' = k then some v else d.get? k' := by
  ext w
  rw [PyDict.get?_eq_some, PyDict.set, mem_setEntry d.nodup]
  by_cases hk : k' = k
  · simp [hk, eq_comm]
  · simp [hk, PyDict.get?_eq_some]

theorem PyDict.mem_values {d : PyDict κ ν} {v : ν} : v ∈ d.values ↔ ∃ k, d.get? k = some v := by
  rw [PyDict.values, List.mem_map]
  constructor
  · rintro ⟨e, he, rfl⟩
    exact ⟨e.1, PyDict.get?_eq_some.mpr he⟩
  · rintro ⟨k, hk⟩
    exact ⟨(k, v), PyDict.get?_eq_some.mp hk, rfl⟩

theorem PyDict.get?_erase (d : PyDict κ ν) (k k' : κ) :
    (d.erase k).get? k' = if k' = k then none else d.get? k' := by
  ext w
  rw [PyDict.get?_eq_some, PyDict.erase, List.mem_filter]
  by_cases hk : k' = k
  · simp [hk]
  · simp [hk, PyDict.get?_eq_some]

omit [DecidableEq κ] in
@[simp] theorem PyDict.keys_mapValues {μ : Type} (f : ν → μ) (d : PyDict κ ν) :
    (d.mapValues f).keys = d.keys := by
  rw [PyDict.keys, PyDict.mapValues, List.map_map]
  rfl

theorem PyDict.get?_mapValues {μ : Type} (f : ν → μ) (d : PyDict κ ν) (k : κ) :
    (d.mapValues f).get? k = (d.get? k).map f := by
  ext w
  rw [PyDict.get?_eq_some, PyDict.mapValues, List.mem_map, Option.map_eq_some_iff]
  constructor
  · rintro ⟨e, he, hew⟩
    cases hew
    exact ⟨e.2, PyDict.get?_eq_some.mpr he, rfl⟩
  · rintro ⟨v, hv, rfl⟩
    exact ⟨(k, v), PyDict.get?_eq_some.mp hv, rfl⟩

theorem PyDict.get?_filterValues (p : ν → Bool) (d : PyDict κ ν) (k : κ) :
    (d.filterValues p).get? k = (d.get? k).filter p := by
  ext w
  rw [PyDict.get?_eq_some, PyDict.filterValues, List.mem_filter, Option.filter_eq_some_iff,
    PyDict.get?_eq_some]

theorem PyDict.mem_keys {d : PyDict κ ν} {k : κ} : k ∈ d.keys ↔ (d.get? k).isSome :=
  PyDict.get?_isSome.symm

theorem PyDict.keys_set (d : PyDict κ ν) (k : κ) (v : ν) :
    (d.set k v).keys = if k ∈ d.keys then d.keys else d.keys ++ [k] :=
  map_fst_setEntry k v d.entries

theorem PyDict.get?_fromkeys (ks : List κ) (v : ν) (k : κ) :
    (PyDict.fromkeys ks v).get? k = if k ∈ ks then some v else none := by
  suffices h : ∀ d : PyDict κ ν, (ks.foldl (fun d k => d.set k v) d).get? k =
      if k ∈ ks then some v else d.get? k from h .empty
  induction ks with
  | nil => exact fun _ => rfl
  | cons k' ks ih =>
      intro d
      rw [List.foldl_cons, ih, PyDict.get?_set]
      by_cases hks : k ∈ ks
      · rw [if_pos hks, if_pos (List.mem_cons_of_mem k' hks)]
      · by_cases hk : k = k'
        · rw [if_neg hks, if_pos hk, if_pos (hk ▸ List.mem_cons_self)]
        · rw [if_neg hks, if_neg hk, if_neg fun h => (List.mem_cons.mp h).elim hk hks]

/-- The keys and their order do not depend on the value. -/
theorem PyDict.keys_fromkeys {μ : Type} (ks : List κ) (v : ν) (w : μ) :
    (PyDict.fromkeys ks v).keys = (PyDict.fromkeys ks w).keys := by
  suffices h : ∀ (d : PyDict κ ν) (d' : PyDict κ μ), d.keys = d'.keys →
      (ks.foldl (fun d k => d.set k v) d).keys = (ks.foldl (fun d k => d.set k w) d').keys from
    h .empty .empty rfl
  induction ks with
  | nil => exact fun _ _ h => h
  | cons k ks ih =>
      intro d d' h
      refine ih _ _ ?_
      rw [PyDict.keys_set, PyDict.keys_set, h]

theorem PyDict.length_set (d : PyDict κ ν) (k : κ) (v : ν) :
    (d.set k v).length = if (d.get? k).isSome then d.length else d.length + 1 := by
  have h := congrArg List.length (map_fst_setEntry k v d.entries)
  rw [List.length_map] at h
  rw [PyDict.length, PyDict.set, h]
  by_cases hk : k ∈ d.entries.map Prod.fst
  · rw [if_pos hk, if_pos (PyDict.get?_isSome.mpr hk), List.length_map, PyDict.length]
  · rw [if_neg hk, if_neg (mt PyDict.get?_isSome.mp hk), List.length_append, List.length_map,
      PyDict.length, List.length_singleton]

theorem PyDict.length_erase_le (d : PyDict κ ν) (k : κ) : (d.erase k).length ≤ d.length :=
  List.length_filter_le ..

end

/-! ## Texts -/

/-- `c.isspace()`. -/
def isspace (c : Char) : Bool :=
  let n := c.toNat
  (9 ≤ n && n ≤ 13) || (28 ≤ n && n ≤ 32) || n == 0x85 || n == 0xa0 || n == 0x1680 ||
    (0x2000 ≤ n && n ≤ 0x200a) || n == 0x2028 || n == 0x2029 || n == 0x202f || n == 0x205f ||
    n == 0x3000

/-- The zeros of the runs of ten decimal digits that Unicode has besides the ASCII one. -/
def DECIMAL_ZEROS : List ℕ :=
  [0x660, 0x6f0, 0x7c0, 0x966, 0x9e6, 0xa66, 0xae6, 0xb66, 0xbe6, 0xc66, 0xce6, 0xd66, 0xde6, 0xe50,
    0xed0, 0xf20, 0x1040, 0x1090, 0x17e0, 0x1810, 0x1946, 0x19d0, 0x1a80, 0x1a90, 0x1b50, 0x1bb0,
    0x1c40, 0x1c50, 0xa620, 0xa8d0, 0xa900, 0xa9d0, 0xa9f0, 0xaa50, 0xabf0, 0xff10, 0x104a0,
    0x10d30, 0x11066, 0x110f0, 0x11136, 0x111d0, 0x112f0, 0x11450, 0x114d0, 0x11650, 0x116c0,
    0x11730, 0x118e0, 0x11950, 0x11c50, 0x11d50, 0x11da0, 0x16a60, 0x16ac0, 0x16b50, 0x1d7ce,
    0x1d7d8, 0x1d7e2, 0x1d7ec, 0x1d7f6, 0x1e140, 0x1e2f0, 0x1e950, 0x1fbf0]

/-- How `int` reads a character of its argument: beyond ASCII, whitespace is a blank and a decimal
digit is the ASCII digit of its value. -/
def toAscii (c : Char) : Char :=
  if c.toNat < 127 then c
  else if isspace c then ' '
  else
    match DECIMAL_ZEROS.find? fun start => start ≤ c.toNat ∧ c.toNat < start + 10 with
    | some start => hexDigit (c.toNat - start)
    | none => '?'

/-- `s.strip()`. -/
def strip (s : String) : String := String.ofList ((s.toList.dropWhile isspace).rdropWhile isspace)

/-- What `strip` leaves has nothing left to strip. -/
theorem strip_strip (s : String) : strip (strip s) = strip s := by
  have hfront : ((s.toList.dropWhile isspace).rdropWhile isspace).dropWhile isspace =
      (s.toList.dropWhile isspace).rdropWhile isspace := by
    obtain ⟨t, ht⟩ := List.rdropWhile_prefix isspace (l := s.toList.dropWhile isspace)
    cases hl : (s.toList.dropWhile isspace).rdropWhile isspace with
    | nil => rfl
    | cons c cs =>
        -- the first character left is the first one `dropWhile` kept
        rw [hl] at ht
        have hc : isspace c = false := by
          have h := List.dropWhile_idempotent isspace s.toList
          rw [← ht, List.cons_append, List.dropWhile_cons] at h
          by_contra hc
          rw [Bool.not_eq_false] at hc
          rw [if_pos hc] at h
          have hlen := congrArg List.length h
          have hle := (List.dropWhile_suffix isspace (l := cs ++ t)).length_le
          rw [List.length_cons] at hlen
          omega
        rw [List.dropWhile_cons, if_neg (by simp [hc])]
  rw [strip, strip, String.toList_ofList, hfront, List.rdropWhile_idempotent]

/-- A text without blanks is left as it is. -/
theorem strip_eq_self {s : String} (h : ∀ c ∈ s.toList, isspace c = false) : strip s = s := by
  have hfront : s.toList.dropWhile isspace = s.toList := by
    rw [List.dropWhile_eq_self_iff]
    intro hlen
    simpa using h _ (List.getElem_mem hlen)
  have hback : s.toList.rdropWhile isspace = s.toList := by
    rw [List.rdropWhile_eq_self_iff]
    intro hne
    simpa using h _ (List.getLast_mem hne)
  rw [strip, hfront, hback, String.ofList_toList]

theorem isspace_hexDigit : ∀ v < 16, isspace (hexDigit v) = false := by
  decide

/-- No digit is a blank. -/
theorem isspace_hexChars {bs : List UInt8} : ∀ c ∈ hexChars bs, isspace c = false := by
  intro c hc
  obtain ⟨v, hv, rfl⟩ := exists_hexDigit c hc
  exact isspace_hexDigit v hv

@[simp] theorem strip_hex (bs : List UInt8) : strip (hex bs) = hex bs := by
  apply strip_eq_self
  rw [hex, String.toList_ofList]
  exact isspace_hexChars

/-- `part in message`. -/
def contains (message part : String) : Bool := decide (part.toList <:+: message.toList)

/-- `s.encode("utf-8")`. -/
def utf8 (s : String) : List UInt8 := s.toList.flatMap String.utf8EncodeChar

theorem utf8_append (a b : String) : utf8 (a ++ b) = utf8 a ++ utf8 b := by
  rw [utf8, String.toList_append, List.flatMap_append, utf8, utf8]

end Superorganism.Py

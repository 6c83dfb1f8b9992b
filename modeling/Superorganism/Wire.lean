/-
Codecs that do not look where the data ends.

A codec writes a value as a word, and reads one from the front of a stream; it answers with
the value and the number of bytes to go on behind. A reader that takes slices of a buffer does
not fail where the buffer ends within a value: it takes what is there, and goes on behind the
end. So a stream is read as a value in two ways. It starts with the word that is written of the
value, or the buffer is cut off within it, and then `Cut` says how. `read_iff` says that these are all.

A cut leaves nothing behind it, and no codec reads from an empty stream: in a sequence of values
only the last can be cut (`seq`, `chain`). What reads a buffer to its end accepts the words it
writes and the cut ones, and nothing else (`reads_all_iff`).

Over arbitrary values and errors.
-/
import Superorganism.Codes

set_option autoImplicit false

open Superorganism.Bytes Superorganism.Py Superorganism.Codes

namespace Superorganism.Wire

/-- A codec, with what it accepts. -/
structure Codec (ε α : Type) where
  write : α → Except ε (List UInt8)
  read : List UInt8 → Except ε (α × ℕ)
  Cut : α → List UInt8 → ℕ → Prop
  read_iff : ∀ {s x k}, read s = .ok (x, k) ↔
    (∃ w rest, s = w ++ rest ∧ write x = .ok w ∧ k = w.length) ∨ Cut x s k
  lt_of_cut : ∀ {x s k}, Cut x s k → s.length < k
  read_nil : ∃ e, read [] = .error e

namespace Codec

variable {ε ε' α β : Type} {c : Codec ε α}

/-! ## What every codec does -/

/-- What is written is read back, whatever stands behind it. -/
theorem read_append {x : α} {w : List UInt8} (h : c.write x = .ok w) (rest : List UInt8) :
    c.read (w ++ rest) = .ok (x, w.length) :=
  c.read_iff.mpr (.inl ⟨w, rest, rfl, h, rfl⟩)

/-- A buffer that is read to its end is a word, or it is cut. -/
theorem reads_all_iff {s : List UInt8} {x : α} :
    (∃ k, c.read s = .ok (x, k) ∧ s.drop k = []) ↔ c.write x = .ok s ∨ ∃ k, c.Cut x s k := by
  constructor
  · rintro ⟨k, hread, hrest⟩
    rcases c.read_iff.mp hread with ⟨w, rest, rfl, hw, rfl⟩ | hcut
    · rw [List.drop_left] at hrest
      rw [hrest, List.append_nil]
      exact .inl hw
    · exact .inr ⟨k, hcut⟩
  · rintro (hw | ⟨k, hcut⟩)
    · refine ⟨s.length, ?_, List.drop_length⟩
      have hread := read_append hw []
      rwa [List.append_nil] at hread
    · exact ⟨k, c.read_iff.mpr (.inr hcut), List.drop_eq_nil_of_le (c.lt_of_cut hcut).le⟩

/-! ## Words of one length -/

/-- A word of `k` bytes, whose meaning is given; `short` is raised where the stream has fewer. -/
def fixed (k : ℕ) (hk : 0 < k) (short : ε) (meaning : List UInt8 → α)
    (write : α → Except ε (List UInt8))
    (hwrite : ∀ {x w}, write x = .ok w ↔ w.length = k ∧ meaning w = x) : Codec ε α where
  write := write
  read s := if k ≤ s.length then .ok (meaning (s.take k), k) else .error short
  Cut _ _ _ := False
  read_iff := by
    intro s x k'
    rw [or_false]
    constructor
    · intro h
      split_ifs at h with hlen
      obtain ⟨rfl, rfl⟩ := Prod.mk.inj (Except.ok.inj h)
      have htake : (s.take k).length = k := List.length_take_of_le hlen
      exact ⟨s.take k, s.drop k, (List.take_append_drop k s).symm, hwrite.mpr ⟨htake, rfl⟩, htake.symm⟩
    · rintro ⟨w, rest, rfl, hw, rfl⟩
      obtain ⟨rfl, rfl⟩ := hwrite.mp hw
      rw [if_pos (by rw [List.length_append]; omega), List.take_left]
  lt_of_cut := fun h => h.elim
  read_nil := ⟨short, if_neg (by rw [List.length_nil]; omega)⟩

/-! ## A text behind its length -/

section

variable (k : ℕ) (hk : 0 < k) (short long : ε)

/-- The length stands in `k` bytes in front of the text. Where the stream is shorter than the
length says, the text is what is there. -/
def block : Codec ε (List UInt8) where
  write text := if text.length < 256 ^ k then .ok (beOfNat k text.length ++ text) else .error long
  read s :=
    if k ≤ s.length then
      .ok ((s.drop k).take (natOfBE (s.take k)), k + natOfBE (s.take k))
    else .error short
  Cut text s step := ∃ n, n < 256 ^ k ∧ text.length < n ∧ s = beOfNat k n ++ text ∧ step = k + n
  read_iff := by
    intro s text step
    constructor
    · intro h
      split_ifs at h with hlen
      obtain ⟨htext, rfl⟩ := Prod.mk.inj (Except.ok.inj h)
      have hhead : (s.take k).length = k := List.length_take_of_le hlen
      have hbound : natOfBE (s.take k) < 256 ^ k := by
        have := natOfBE_lt (s.take k)
        rwa [hhead] at this
      have hs : s = beOfNat k (natOfBE (s.take k)) ++ s.drop k := by
        rw [beOfNat_natOfBE hhead, List.take_append_drop]
      generalize natOfBE (s.take k) = n at *
      -- the text is all there, or the stream ends within it
      rcases le_or_gt n (s.drop k).length with hall | hcut
      · have hlength : text.length = n := by rw [← htext, List.length_take_of_le hall]
        refine .inl ⟨beOfNat k n ++ text, (s.drop k).drop n, ?_, ?_, ?_⟩
        · rw [List.append_assoc, ← htext, List.take_append_drop]
          exact hs
        · rw [hlength, if_pos hbound]
        · rw [List.length_append, beOfNat_length, hlength]
      · rw [List.take_of_length_le hcut.le] at htext
        rw [htext] at hs hcut
        exact .inr ⟨n, hbound, hcut, hs, rfl⟩
    · have hread (n : ℕ) (hn : n < 256 ^ k) (rest : List UInt8) :
          (beOfNat k n ++ rest).take k = beOfNat k n ∧ (beOfNat k n ++ rest).drop k = rest ∧
            natOfBE (beOfNat k n) = n ∧ k ≤ (beOfNat k n ++ rest).length := by
        refine ⟨List.take_left' (beOfNat_length k n), List.drop_left' (beOfNat_length k n),
          natOfBE_beOfNat k n hn, ?_⟩
        rw [List.length_append, beOfNat_length]
        omega
      rintro (⟨w, rest, rfl, hw, rfl⟩ | ⟨n, hn, hcut, rfl, rfl⟩)
      · split_ifs at hw with hn
        obtain rfl := Except.ok.inj hw
        rw [List.append_assoc]
        obtain ⟨htake, hdrop, hnat, hle⟩ := hread text.length hn (text ++ rest)
        rw [if_pos hle, htake, hdrop, hnat, List.take_left, List.length_append, beOfNat_length]
      · obtain ⟨htake, hdrop, hnat, hle⟩ := hread n hn text
        rw [if_pos hle, htake, hdrop, hnat, List.take_of_length_le hcut.le]
  lt_of_cut := by
    rintro text s step ⟨n, -, hcut, rfl, rfl⟩
    rw [List.length_append, beOfNat_length]
    omega
  read_nil := ⟨short, if_neg (by rw [List.length_nil]; omega)⟩

end

/-! ## Other values, other errors -/

/-- The values of `c` under another name: `dec` finds what `enc` makes, and fails elsewhere. -/
def via (c : Codec ε α) (enc : β → Except ε α) (dec : α → Except ε β)
    (h : ∀ {a b}, dec a = .ok b ↔ enc b = .ok a) : Codec ε β where
  write b := enc b >>= c.write
  read s := do
    let (a, k) ← c.read s
    let b ← dec a
    pure (b, k)
  Cut b s k := ∃ a, enc b = .ok a ∧ c.Cut a s k
  read_iff := by
    intro s b k
    constructor
    · intro h'
      obtain ⟨⟨a, k'⟩, hread, h'⟩ := bind_eq_ok.mp h'
      obtain ⟨b', hdec, h'⟩ := bind_eq_ok.mp h'
      obtain ⟨rfl, rfl⟩ := Prod.mk.inj (Except.ok.inj h')
      rcases c.read_iff.mp hread with ⟨w, rest, hs, hw, hk⟩ | hcut
      · exact .inl ⟨w, rest, hs, bind_eq_ok.mpr ⟨a, h.mp hdec, hw⟩, hk⟩
      · exact .inr ⟨a, h.mp hdec, hcut⟩
    · rintro (⟨w, rest, hs, hw, hk⟩ | ⟨a, henc, hcut⟩)
      · obtain ⟨a, henc, hw⟩ := bind_eq_ok.mp hw
        exact bind_eq_ok.mpr ⟨(a, k), c.read_iff.mpr (.inl ⟨w, rest, hs, hw, hk⟩),
          bind_eq_ok.mpr ⟨b, h.mpr henc, rfl⟩⟩
      · exact bind_eq_ok.mpr ⟨(a, k), c.read_iff.mpr (.inr hcut), bind_eq_ok.mpr ⟨b, h.mpr henc, rfl⟩⟩
  lt_of_cut := fun ⟨_, _, hcut⟩ => c.lt_of_cut hcut
  read_nil := by
    obtain ⟨e, he⟩ := c.read_nil
    exact ⟨e, by rw [he, error_bind]⟩

theorem mapError_eq_ok {x : Except ε α} {f : ε → ε'} {a : α} : x.mapError f = .ok a ↔ x = .ok a := by
  cases x with
  | error e =>
      constructor
      · intro h
        cases h
      · intro h
        cases h
  | ok b =>
      constructor
      · intro h
        rw [Except.ok.inj h]
      · intro h
        rw [Except.ok.inj h]
        rfl

/-- The codec with other errors. -/
def catching (c : Codec ε α) (f : ε → ε') : Codec ε' α where
  write x := (c.write x).mapError f
  read s := (c.read s).mapError f
  Cut := c.Cut
  read_iff := by
    intro s x k
    simp only [mapError_eq_ok]
    exact c.read_iff
  lt_of_cut := c.lt_of_cut
  read_nil := by
    obtain ⟨e, he⟩ := c.read_nil
    exact ⟨f e, by rw [he]; rfl⟩

/-! ## One after the other -/

/-- Two values. Only the second can be cut: nothing is read behind the end. -/
def seq (c : Codec ε α) (d : Codec ε β) : Codec ε (α × β) where
  write x := do
    let u ← c.write x.1
    let v ← d.write x.2
    pure (u ++ v)
  read s := do
    let (a, j) ← c.read s
    let (b, k) ← d.read (s.drop j)
    pure ((a, b), j + k)
  Cut x s step := ∃ u v k, c.write x.1 = .ok u ∧ d.Cut x.2 v k ∧ s = u ++ v ∧ step = u.length + k
  read_iff := by
    rintro s ⟨a, b⟩ step
    constructor
    · intro h
      obtain ⟨⟨a', j⟩, hfirst, h⟩ := bind_eq_ok.mp h
      obtain ⟨⟨b', k⟩, hsecond, h⟩ := bind_eq_ok.mp h
      obtain ⟨hpair, rfl⟩ := Prod.mk.inj (Except.ok.inj h)
      obtain ⟨rfl, rfl⟩ := Prod.mk.inj hpair
      rcases c.read_iff.mp hfirst with ⟨u, rest, rfl, hu, rfl⟩ | hcut
      · rw [List.drop_left] at hsecond
        rcases d.read_iff.mp hsecond with ⟨v, rest, rfl, hv, rfl⟩ | hcut
        · refine .inl ⟨u ++ v, rest, (List.append_assoc u v rest).symm, ?_, ?_⟩
          · rw [hu, ok_bind, hv]
            rfl
          · rw [List.length_append]
        · exact .inr ⟨u, rest, k, hu, hcut, rfl, rfl⟩
      · -- behind a cut there is nothing to read
        obtain ⟨e, he⟩ := d.read_nil
        rw [List.drop_eq_nil_of_le (c.lt_of_cut hcut).le, he] at hsecond
        cases hsecond
    · rintro (⟨w, rest, rfl, hw, rfl⟩ | ⟨u, v, k, hu, hcut, rfl, rfl⟩)
      · obtain ⟨u, hu, hw⟩ := bind_eq_ok.mp hw
        obtain ⟨v, hv, hw⟩ := bind_eq_ok.mp hw
        obtain rfl := Except.ok.inj hw
        rw [List.append_assoc, read_append hu, ok_bind]
        simp only [List.drop_left]
        rw [read_append hv, ok_bind, List.length_append]
        rfl
      · rw [read_append hu, ok_bind]
        simp only [List.drop_left]
        rw [d.read_iff.mpr (.inr hcut)]
        rfl
  lt_of_cut := by
    rintro x s step ⟨u, v, k, -, hcut, rfl, rfl⟩
    have := d.lt_of_cut hcut
    rw [List.length_append]
    omega
  read_nil := by
    obtain ⟨e, he⟩ := c.read_nil
    exact ⟨e, by rw [he, error_bind]⟩

/-! ## A list of values -/

section

variable (arity : ε)

def only : List α → Except ε α
  | [x] => .ok x
  | _ => .error arity

def uncons : List α → Except ε (α × List α)
  | x :: xs => .ok (x, xs)
  | [] => .error arity

variable {arity}

theorem only_eq_ok {xs : List α} {x : α} : only arity xs = .ok x ↔ xs = [x] := by
  constructor
  · intro h
    cases xs with
    | nil => cases h
    | cons y ys =>
        cases ys with
        | nil => rw [Except.ok.inj h]
        | cons z zs => cases h
  · rintro rfl
    rfl

theorem uncons_eq_ok {xs : List α} {x : α × List α} : uncons arity xs = .ok x ↔ xs = x.1 :: x.2 := by
  constructor
  · intro h
    cases xs with
    | nil => cases h
    | cons y ys => rw [← Except.ok.inj h]
  · rintro rfl
    rfl

variable (arity)

/-- A value for each codec; `arity` is raised for a list of another length. -/
def chain (c : Codec ε α) : List (Codec ε α) → Codec ε (List α)
  | [] => c.via (only arity) (fun x => .ok [x])
      ⟨fun h => only_eq_ok.mpr (Except.ok.inj h).symm, fun h => by rw [only_eq_ok.mp h]⟩
  | d :: ds => (c.seq (chain d ds)).via (uncons arity) (fun x => .ok (x.1 :: x.2))
      ⟨fun h => uncons_eq_ok.mpr (Except.ok.inj h).symm, fun h => by rw [uncons_eq_ok.mp h]⟩

variable {arity} {cs ds : List (Codec ε α)} {xs : List α} {w : List UInt8}

/-- The words of a list of values, one behind the other. -/
inductive Writes : List (Codec ε α) → List α → List UInt8 → Prop
  | nil : Writes [] [] []
  | cons {c : Codec ε α} {x : α} {u v : List UInt8} {cs : List (Codec ε α)} {xs : List α}
      (first : c.write x = .ok u) (rest : Writes cs xs v) : Writes (c :: cs) (x :: xs) (u ++ v)

theorem Writes.length_eq (h : Writes cs xs w) : cs.length = xs.length := by
  induction h with
  | nil => rfl
  | cons first rest ih => rw [List.length_cons, List.length_cons, ih]

theorem chain_write_iff : (chain arity c ds).write xs = .ok w ↔ Writes (c :: ds) xs w := by
  induction ds generalizing c xs w with
  | nil =>
      refine bind_eq_ok.trans ⟨?_, ?_⟩
      · rintro ⟨x, hx, h⟩
        rw [only_eq_ok.mp hx, ← List.append_nil w]
        exact .cons h .nil
      · rintro (_ | ⟨h, hrest⟩)
        cases hrest
        rw [List.append_nil]
        exact ⟨_, rfl, h⟩
  | cons d ds ih =>
      refine bind_eq_ok.trans ⟨?_, ?_⟩
      · rintro ⟨⟨x, ys⟩, hx, h⟩
        obtain ⟨u, hu, h⟩ := bind_eq_ok.mp h
        obtain ⟨v, hv, h⟩ := bind_eq_ok.mp h
        rw [uncons_eq_ok.mp hx, ← Except.ok.inj h]
        exact .cons hu (ih.mp hv)
      · rintro (_ | ⟨hu, hrest⟩)
        exact ⟨(_, _), rfl, bind_eq_ok.mpr ⟨_, hu, bind_eq_ok.mpr ⟨_, ih.mpr hrest, rfl⟩⟩⟩

/-- Only the last of the values is cut. -/
theorem chain_cut_iff {k : ℕ} : (chain arity c ds).Cut xs w k ↔
    ∃ cs d ys y u v step, c :: ds = cs ++ [d] ∧ xs = ys ++ [y] ∧ Writes cs ys u ∧ d.Cut y v step ∧
      w = u ++ v ∧ k = u.length + step := by
  induction ds generalizing c xs w k with
  | nil =>
      constructor
      · rintro ⟨x, hx, hcut⟩
        refine ⟨[], c, [], x, [], w, k, rfl, only_eq_ok.mp hx, .nil, hcut, rfl, ?_⟩
        rw [List.length_nil, Nat.zero_add]
      · rintro ⟨cs, d, ys, y, u, v, step, hcs, rfl, hwrites, hcut, rfl, rfl⟩
        cases cs with
        | nil =>
            cases hwrites
            obtain rfl := List.singleton_inj.mp hcs
            exact ⟨y, rfl, by rwa [List.length_nil, Nat.zero_add]⟩
        | cons c' cs =>
            have := congrArg List.length hcs
            simp at this
  | cons d ds ih =>
      constructor
      · rintro ⟨⟨x, xs'⟩, hx, u, v, step, hu, hcut, rfl, rfl⟩
        obtain ⟨cs, d', ys, y, u', v', step', hcs, hxs, hwrites, hlast, rfl, rfl⟩ := ih.mp hcut
        refine ⟨c :: cs, d', x :: ys, y, u ++ u', v', step', ?_, ?_, .cons hu hwrites, hlast, ?_, ?_⟩
        · rw [hcs, List.cons_append]
        · rw [uncons_eq_ok.mp hx, hxs, List.cons_append]
        · rw [List.append_assoc]
        · rw [List.length_append, Nat.add_assoc]
      · rintro ⟨cs, d', ys, y, u, v, step, hcs, rfl, hwrites, hcut, rfl, rfl⟩
        cases hwrites with
        | nil =>
            have := congrArg List.length hcs
            simp at this
        | @cons c' x u₁ u₂ cs ys hu hrest =>
            obtain ⟨rfl, htail⟩ := List.cons.inj hcs
            refine ⟨(x, ys ++ [y]), rfl, u₁, u₂ ++ v, u₂.length + step, hu, ?_, ?_, ?_⟩
            · exact ih.mpr ⟨cs, d', ys, y, u₂, v, step, htail, rfl, hrest, hcut, rfl, rfl⟩
            · rw [List.append_assoc]
            · rw [List.length_append, Nat.add_assoc]

end

end Codec

end Superorganism.Wire

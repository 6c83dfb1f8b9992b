/-
What a reader does on the streams it does not accept, and how long it takes.

A reader *breaks* with an exception of a kind on a set of words: it raises such an
exception exactly on the streams that start with one of them. The rules follow the way
readers are put together, as those of `Format` do. A step breaks in its first part, or
after a word of it in its second; a loop breaks in one of its turns, after the words of
the turns before.

A `Counted` reader counts the turns of its loops, also when it raises; leaving the count
out gives the reader (`Counted.reader`). It `Pays a b` if every turn is paid for by a
symbol of the stream: when it succeeds it has consumed `a` symbols more than it has taken
turns, and when it raises it has taken at most `b` turns more than there were symbols. A
turn costs one, so a loop whose body pays for one more symbol pays for itself.

Over arbitrary symbols, values and errors.
-/
import Superorganism.Format

set_option autoImplicit false

namespace Superorganism.Format

variable {τ ε α β γ : Type}

/-! ## Where a reader breaks -/

/-- The reader raises an exception of the kind `P` exactly on the streams that start with
a word of `B`. -/
def Breaks (p : Reader τ ε α) (P : ε → Prop) (B : List τ → Prop) : Prop :=
  ∀ s, (∃ e, p.run s = .error e ∧ P e) ↔ ∃ w s', B w ∧ s = w ++ s'

/-- No exception of this kind comes out of the reader. -/
abbrev Spares (p : Reader τ ε α) (P : ε → Prop) : Prop := Breaks p P fun _ => False

theorem Breaks.congr {p : Reader τ ε α} {P : ε → Prop} {B B' : List τ → Prop} (h : Breaks p P B)
    (hB : ∀ w, B w ↔ B' w) : Breaks p P B' := by
  intro s
  simp only [h s, hB]

theorem spares_iff {p : Reader τ ε α} {P : ε → Prop} :
    Spares p P ↔ ∀ s e, p.run s = .error e → ¬ P e := by
  constructor
  · intro h s e he hP
    obtain ⟨w, s', hw, -⟩ := (h s).mp ⟨e, he, hP⟩
    exact hw
  · intro h s
    constructor
    · rintro ⟨e, he, hP⟩
      exact absurd hP (h s e he)
    · rintro ⟨w, s', hw, -⟩
      exact hw.elim

theorem spares_pure (a : α) (P : ε → Prop) : Spares (pure a : Reader τ ε α) P :=
  spares_iff.mpr fun s e h => nomatch (show (.ok (a, s) : Except ε (α × List τ)) = .error e from h)

theorem spares_throw {e : ε} {P : ε → Prop} (he : ¬ P e) : Spares (throw e : Reader τ ε α) P := by
  refine spares_iff.mpr fun s e' h => ?_
  have hrun : (throw e : Reader τ ε α).run s = .error e := rfl
  rw [hrun] at h
  cases h
  exact he

/-- A sequence of two steps raises what its first step raises, or its second. -/
theorem run_bind_eq_error (p : Reader τ ε α) (f : α → Reader τ ε β) (s : List τ) (e : ε) :
    (p >>= f).run s = .error e ↔
      p.run s = .error e ∨ ∃ a s₁, p.run s = .ok (a, s₁) ∧ (f a).run s₁ = .error e := by
  rw [StateT.run_bind]
  cases h : p.run s with
  | error e' => simp [bind, Except.bind]
  | ok r =>
      obtain ⟨a, s₁⟩ := r
      simp [bind, Except.bind]

theorem breaks_bind {p : Reader τ ε α} {f : α → Reader τ ε β} {P : ε → Prop} {F : Lang τ α}
    {B : List τ → Prop} {B' : α → List τ → Prop} (hp : Recognizes p F) (hb : Breaks p P B)
    (hf : ∀ u a, F u a → Breaks (f a) P (B' a)) :
    Breaks (p >>= f) P fun w => B w ∨ ∃ u v a, F u a ∧ B' a v ∧ w = u ++ v := by
  intro s
  constructor
  -- the exception comes from the first step, or from the second behind a word of the first
  · rintro ⟨e, he, hP⟩
    rcases (run_bind_eq_error p f s e).mp he with he₁ | ⟨a, s₁, ha, he₂⟩
    · obtain ⟨w, s', hw, rfl⟩ := (hb s).mp ⟨e, he₁, hP⟩
      exact ⟨w, s', .inl hw, rfl⟩
    · obtain ⟨u, hu, rfl⟩ := (hp s a s₁).mp ha
      obtain ⟨v, s', hv, rfl⟩ := (hf u a hu s₁).mp ⟨e, he₂, hP⟩
      exact ⟨u ++ v, s', .inr ⟨u, v, a, hu, hv, rfl⟩, (List.append_assoc u v s').symm⟩
  · rintro ⟨w, s', hw | ⟨u, v, a, hu, hv, rfl⟩, rfl⟩
    · obtain ⟨e, he, hP⟩ := (hb _).mpr ⟨w, s', hw, rfl⟩
      exact ⟨e, (run_bind_eq_error p f _ e).mpr (.inl he), hP⟩
    · obtain ⟨e, he, hP⟩ := (hf u a hu (v ++ s')).mpr ⟨v, s', hv, rfl⟩
      have ha : p.run (u ++ (v ++ s')) = .ok (a, v ++ s') := (hp _ _ _).mpr ⟨u, hu, rfl⟩
      refine ⟨e, (run_bind_eq_error p f _ e).mpr (.inr ⟨a, v ++ s', ?_, he⟩), hP⟩
      rw [List.append_assoc]
      exact ha

/-- Where the second step spares the exceptions, the first one decides. -/
theorem breaks_bind_spares {p : Reader τ ε α} {f : α → Reader τ ε β} {P : ε → Prop}
    {F : Lang τ α} {B : List τ → Prop} (hp : Recognizes p F) (hb : Breaks p P B)
    (hf : ∀ a, Spares (f a) P) : Breaks (p >>= f) P B := by
  refine (breaks_bind hp hb fun _ a _ => hf a).congr fun w => ?_
  simp only [false_and, and_false, exists_false, or_false]

/-- Where the first step spares the exceptions, they come from the second one. -/
theorem breaks_spares_bind {p : Reader τ ε α} {f : α → Reader τ ε β} {P : ε → Prop}
    {F : Lang τ α} {B : α → List τ → Prop} (hp : Recognizes p F) (hs : Spares p P)
    (hf : ∀ u a, F u a → Breaks (f a) P (B a)) :
    Breaks (p >>= f) P fun w => ∃ u v a, F u a ∧ B a v ∧ w = u ++ v :=
  (breaks_bind hp hs hf).congr fun w => by rw [false_or]

theorem spares_bind {p : Reader τ ε α} {f : α → Reader τ ε β} {P : ε → Prop} (hp : Spares p P)
    (hf : ∀ a, Spares (f a) P) : Spares (p >>= f) P := by
  rw [spares_iff] at hp ⊢
  intro s e he
  rcases (run_bind_eq_error p f s e).mp he with he | ⟨a, s₁, -, he⟩
  · exact hp s e he
  · exact spares_iff.mp (hf a) s₁ e he

/-- The counted loop breaks in one of its turns. The induction is on the count: a turn that
breaks is the first one, or one of the rest after a word of the first. -/
theorem breaks_readMany {p : Reader τ ε α} {P : ε → Prop} {F : Lang τ α} {B : List τ → Prop}
    (hp : Recognizes p F) (hb : Breaks p P B) (n : ℕ) :
    Breaks (readMany p n) P fun w =>
      ∃ u v xs, Items F u xs ∧ xs.length < n ∧ B v ∧ w = u ++ v := by
  induction n with
  | zero => exact (spares_pure [] P).congr fun w => by simp
  | succ n ih =>
      refine (breaks_bind hp hb fun _ x _ => breaks_bind_spares (recognizes_readMany hp n) ih
        fun xs => spares_pure (x :: xs) P).congr fun w => ?_
      constructor
      -- the first turn breaks, or a later one does
      · rintro (hw | ⟨u, _, x, hu, ⟨v, w, xs, hxs, hlen, hw, rfl⟩, rfl⟩)
        · exact ⟨[], w, [], Items.nil, by simp, hw, rfl⟩
        · refine ⟨u ++ v, w, x :: xs, Items.cons hu hxs, by simpa using hlen, hw, ?_⟩
          rw [List.append_assoc]
      · rintro ⟨u, v, xs, hxs, hlen, hv, rfl⟩
        cases hxs with
        | nil => exact .inl hv
        | @cons u₁ u₂ x xs hu hxs =>
            refine .inr ⟨u₁, u₂ ++ v, x, hu, ⟨u₂, v, xs, hxs, by simpa using hlen, hv, rfl⟩, ?_⟩
            rw [List.append_assoc]

/-- The loop over a list breaks at one of its elements. -/
theorem breaks_readEach {p : γ → Reader τ ε α} {P : ε → Prop} {F : γ → Lang τ α}
    {B : γ → List τ → Prop} (hp : ∀ k, Recognizes (p k) (F k)) (hb : ∀ k, Breaks (p k) P (B k))
    (ks : List γ) :
    Breaks (readEach p ks) P fun w => ∃ ks₁ k ks₂ u v xs,
      ks = ks₁ ++ k :: ks₂ ∧ Each F ks₁ u xs ∧ B k v ∧ w = u ++ v := by
  induction ks with
  | nil => exact (spares_pure [] P).congr fun w => by simp
  | cons k ks ih =>
      refine (breaks_bind (hp k) (hb k) fun _ x _ => breaks_bind_spares (recognizes_readEach hp ks)
        ih fun xs => spares_pure (x :: xs) P).congr fun w => ?_
      constructor
      · rintro (hw | ⟨u, _, x, hu, ⟨ks₁, k', ks₂, v, w, xs, rfl, hxs, hw, rfl⟩, rfl⟩)
        · exact ⟨[], k, ks, [], w, [], rfl, Each.nil, hw, rfl⟩
        · refine ⟨k :: ks₁, k', ks₂, u ++ v, w, x :: xs, rfl, Each.cons hu hxs, hw, ?_⟩
          rw [List.append_assoc]
      · rintro ⟨ks₁, k', ks₂, u, v, xs, hks, hxs, hv, rfl⟩
        cases hxs with
        | nil =>
            obtain ⟨rfl, rfl⟩ := List.cons.inj hks
            exact .inl hv
        | @cons _ _ u₁ u₂ x xs hu hxs =>
            obtain ⟨rfl, rfl⟩ := List.cons.inj hks
            refine .inr ⟨u₁, u₂ ++ v, x, hu, ⟨_, k', ks₂, u₂, v, xs, rfl, hxs, hv, rfl⟩, ?_⟩
            rw [List.append_assoc]

/-! ## Counting turns -/

/-- A reader with the number of turns its loops have taken. -/
def Counted (τ ε α : Type) := List τ → Except ε (α × List τ) × ℕ

namespace Counted

def bind (p : Counted τ ε α) (f : α → Counted τ ε β) : Counted τ ε β := fun s =>
  match p s with
  | (.error e, n) => (.error e, n)
  | (.ok (a, s₁), n) => ((f a s₁).1, n + (f a s₁).2)

instance : Monad (Counted τ ε) where
  pure a := fun s => (.ok (a, s), 0)
  bind := bind

/-- A reader without loops. -/
def of (p : Reader τ ε α) : Counted τ ε α := fun s => (p.run s, 0)

/-- One turn. -/
def tick : Counted τ ε Unit := fun s => (.ok ((), s), 1)

/-- `for _ in range(n): result.append(p)`. -/
def many (p : Counted τ ε α) : ℕ → Counted τ ε (List α)
  | 0 => pure []
  | n + 1 => do
    tick
    let x ← p
    let xs ← many p n
    pure (x :: xs)

/-- `for k in ks: result.append(p k)`. -/
def each (p : γ → Counted τ ε α) : List γ → Counted τ ε (List α)
  | [] => pure []
  | k :: ks => do
    tick
    let x ← p k
    let xs ← each p ks
    pure (x :: xs)

/-- The reader without its count. -/
def reader (p : Counted τ ε α) : Reader τ ε α := fun s => (p s).1

theorem reader_bind (p : Counted τ ε α) (f : α → Counted τ ε β) :
    (p >>= f).reader = p.reader >>= fun a => (f a).reader := by
  funext s
  show (bind p f s).1 = _
  rw [bind]
  cases h : p s with
  | mk r n =>
      have hr : p.reader s = r := by rw [reader, h]
      cases r with
      | error e =>
          show _ = (p.reader s >>= _)
          rw [hr]
          rfl
      | ok r =>
          show _ = (p.reader s >>= _)
          rw [hr]
          rfl

@[simp] theorem reader_pure (a : α) : (pure a : Counted τ ε α).reader = pure a := rfl

@[simp] theorem reader_of (p : Reader τ ε α) : (of p).reader = p := rfl

theorem reader_tick_bind (f : Unit → Counted τ ε β) : (tick >>= f).reader = (f ()).reader := rfl

@[simp] theorem reader_many (p : Counted τ ε α) (n : ℕ) : (many p n).reader = readMany p.reader n := by
  induction n with
  | zero => rfl
  | succ n ih =>
      rw [many, readMany, reader_tick_bind, reader_bind]
      congr 1
      funext x
      rw [reader_bind, ih]
      rfl

@[simp] theorem reader_each (p : γ → Counted τ ε α) (ks : List γ) :
    (each p ks).reader = readEach (fun k => (p k).reader) ks := by
  induction ks with
  | nil => rfl
  | cons k ks ih =>
      rw [each, readEach, reader_tick_bind, reader_bind]
      congr 1
      funext x
      rw [reader_bind, ih]
      rfl

/-! ## Turns paid for by symbols -/

/-- A success has consumed a symbol for every turn and `a` more; a failure has taken at most
`b` turns more than there were symbols. -/
structure Pays (p : Counted τ ε α) (a b : ℕ) : Prop where
  ok : ∀ s x s', (p s).1 = .ok (x, s') → (p s).2 + a + s'.length ≤ s.length
  error : ∀ s e, (p s).1 = .error e → (p s).2 ≤ s.length + b

/-- A reader of words of at least `a` symbols. -/
theorem pays_of {p : Reader τ ε α} {F : Lang τ α} {a : ℕ} (hp : Recognizes p F)
    (hF : ∀ w x, F w x → a ≤ w.length) : (of p).Pays a 0 := by
  refine ⟨fun s x s' h => ?_, fun s e h => Nat.zero_le _⟩
  obtain ⟨w, hw, rfl⟩ := (hp s x s').mp h
  have := hF w x hw
  have hcount : (of p (w ++ s')).2 = 0 := rfl
  rw [hcount, List.length_append]
  omega

theorem pays_pure (x : α) : (pure x : Counted τ ε α).Pays 0 0 := by
  refine ⟨fun s x' s' h => ?_, fun s e h => nomatch h⟩
  cases h
  exact (Nat.zero_add _).le

/-- The second step may overspend what the first one has left over. -/
theorem Pays.bind {p : Counted τ ε α} {f : α → Counted τ ε β} {a a' b b' : ℕ} (hp : p.Pays a b)
    (hf : ∀ x, (f x).Pays a' b') (hb : b' ≤ a + b) : (p >>= f).Pays (a + a') b := by
  have hrun (s : List τ) : (p >>= f) s = Counted.bind p f s := rfl
  refine ⟨fun s y s' h => ?_, fun s e h => ?_⟩
  · rw [hrun, Counted.bind] at h ⊢
    cases hs : p s with
    | mk r n =>
        rw [hs] at h
        cases r with
        | error e => exact nomatch h
        | ok r =>
            -- what the first step has left over is what the second one starts with
            have h1 := hp.ok s r.1 r.2 (by rw [hs])
            have h2 := (hf r.1).ok r.2 y s' h
            rw [hs] at h1
            show n + (f r.1 r.2).2 + (a + a') + s'.length ≤ s.length
            dsimp only at h1
            omega
  · rw [hrun, Counted.bind] at h ⊢
    cases hs : p s with
    | mk r n =>
        rw [hs] at h
        cases r with
        | error e' =>
            have h1 := hp.error s e' (by rw [hs])
            rw [hs] at h1
            exact h1
        | ok r =>
            have h1 := hp.ok s r.1 r.2 (by rw [hs])
            have h2 := (hf r.1).error r.2 e h
            rw [hs] at h1
            show n + (f r.1 r.2).2 ≤ s.length + b
            dsimp only at h1
            omega

/-- Two steps that overspend by the same amount at most. -/
theorem Pays.seq {p : Counted τ ε α} {f : α → Counted τ ε β} {b : ℕ} (hp : p.Pays 0 b)
    (hf : ∀ x, (f x).Pays 0 b) : (p >>= f).Pays 0 b :=
  hp.bind hf (Nat.le_add_left b 0)

/-- One turn of a body that pays for it. -/
theorem Pays.turn {p : Counted τ ε α} {f : α → Counted τ ε β} {b b' : ℕ} (hp : p.Pays 1 b)
    (hf : ∀ x, (f x).Pays 0 b') (hb : b' ≤ b + 1) : (tick >>= fun _ => p >>= f).Pays 0 (b + 1) := by
  -- the symbol the body leaves over pays for the turn
  have hbody : (p >>= f).Pays (1 + 0) b := hp.bind hf (by omega)
  have hrun (s : List τ) : (tick >>= fun _ => p >>= f) s =
      (((p >>= f) s).1, 1 + ((p >>= f) s).2) := rfl
  refine ⟨fun s y s' h => ?_, fun s e h => ?_⟩
  · rw [hrun] at h ⊢
    have := hbody.ok s y s' h
    dsimp only
    omega
  · rw [hrun] at h ⊢
    have := hbody.error s e h
    dsimp only
    omega

theorem Pays.mono {p : Counted τ ε α} {a a' b b' : ℕ} (hp : p.Pays a b) (ha : a' ≤ a)
    (hb : b ≤ b') : p.Pays a' b' := by
  refine ⟨fun s x s' h => ?_, fun s e h => ?_⟩
  · have := hp.ok s x s' h
    omega
  · have := hp.error s e h
    omega

/-- A loop pays for itself, but for the turn it fails in. -/
theorem Pays.many {p : Counted τ ε α} {b : ℕ} (hp : p.Pays 1 b) (n : ℕ) :
    (many p n).Pays 0 (b + 1) := by
  induction n with
  | zero => exact (pays_pure []).mono le_rfl (Nat.zero_le _)
  | succ n ih =>
      refine hp.turn (fun x => ?_) le_rfl
      exact ih.bind (fun xs => pays_pure (x :: xs)) (Nat.zero_le _)

theorem Pays.each {p : γ → Counted τ ε α} {b : ℕ} (hp : ∀ k, (p k).Pays 1 b) (ks : List γ) :
    (each p ks).Pays 0 (b + 1) := by
  induction ks with
  | nil => exact (pays_pure []).mono le_rfl (Nat.zero_le _)
  | cons k ks ih =>
      refine (hp k).turn (fun x => ?_) le_rfl
      exact ih.bind (fun xs => pays_pure (x :: xs)) (Nat.zero_le _)

end Counted

end Superorganism.Format

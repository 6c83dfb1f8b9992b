/-
Readers and the formats they recognise.

A *format* relates a finite word to the value the word denotes; a *reader* is a
fallible function that takes a value off the front of a stream. A reader
recognises a format when it succeeds exactly on the streams that start with a
word of the format, returns the value that word denotes, and leaves the rest.
One equivalence carries soundness (what is accepted is a word) and completeness
(every word is accepted, whatever follows it), and because a reader is a
function no stream starts with words for two values.

The rules below follow the way readers are put together: `pure`, `throw`, one
step after another, a counted repetition, and a step for every element of a
list. A format for a whole reader is read off its text by these rules, and
`Recognizes.congr` replaces it by the form one wants to state.

Over arbitrary symbols, values and errors.
-/
import Mathlib.Data.List.Basic
import Mathlib.Tactic.ApplyFun

set_option autoImplicit false

namespace Superorganism.Format

variable {τ ε α β γ : Type}

/-- A reader of `α` from a stream of symbols `τ`. -/
abbrev Reader (τ ε α : Type) := StateT (List τ) (Except ε) α

/-- A format: which words denote which values. -/
abbrev Lang (τ α : Type) := List τ → α → Prop

/-- The reader accepts exactly the words of the format, as the values they
denote, and leaves what follows the word. -/
def Recognizes (p : Reader τ ε α) (F : Lang τ α) : Prop :=
  ∀ s a s', p.run s = .ok (a, s') ↔ ∃ w, F w a ∧ s = w ++ s'

/-! ## Formats -/

/-- One format after another, the second chosen by the first one's value. -/
def Then (F : Lang τ α) (G : α → Lang τ β) : Lang τ β :=
  fun w b => ∃ u v a, F u a ∧ G a v b ∧ w = u ++ v

/-- Any number of words, one for each value of the list. -/
inductive Items (F : Lang τ α) : Lang τ (List α)
  | nil : Items F [] []
  | cons {u v : List τ} {x : α} {xs : List α} :
      F u x → Items F v xs → Items F (u ++ v) (x :: xs)

/-- One word for each element of `ks`, its format chosen by that element. -/
inductive Each (F : γ → Lang τ α) : List γ → Lang τ (List α)
  | nil : Each F [] [] []
  | cons {k : γ} {ks : List γ} {u v : List τ} {x : α} {xs : List α} :
      F k u x → Each F ks v xs → Each F (k :: ks) (u ++ v) (x :: xs)

/-! ## Readers -/

/-- The loop `for _ in range(n): result.append(p)`. -/
def readMany (p : Reader τ ε α) : ℕ → Reader τ ε (List α)
  | 0 => pure []
  | n + 1 => do
    let x ← p
    let xs ← readMany p n
    pure (x :: xs)

/-- The loop `for k in ks: result.append(p k)`. -/
def readEach (p : γ → Reader τ ε α) : List γ → Reader τ ε (List α)
  | [] => pure []
  | k :: ks => do
    let x ← p k
    let xs ← readEach p ks
    pure (x :: xs)

/-! ## The rules -/

/-- A sequence of two steps succeeds exactly when both do. -/
theorem run_bind_eq_ok (p : Reader τ ε α) (f : α → Reader τ ε β) (s s₂ : List τ) (b : β) :
    (p >>= f).run s = .ok (b, s₂) ↔
      ∃ a s₁, p.run s = .ok (a, s₁) ∧ (f a).run s₁ = .ok (b, s₂) := by
  rw [StateT.run_bind]
  cases h : p.run s with
  | error e => simp [bind, Except.bind]
  | ok r =>
      obtain ⟨a, s₁⟩ := r
      simp [bind, Except.bind]

theorem recognizes_pure (a : α) :
    Recognizes (pure a : Reader τ ε α) (fun w b => w = [] ∧ b = a) := by
  intro s b s'
  have hrun : (pure a : Reader τ ε α).run s = .ok (a, s) := rfl
  rw [hrun, Except.ok.injEq, Prod.mk.injEq]
  constructor
  · rintro ⟨rfl, rfl⟩
    exact ⟨[], ⟨rfl, rfl⟩, rfl⟩
  · rintro ⟨w, ⟨rfl, rfl⟩, rfl⟩
    exact ⟨rfl, rfl⟩

theorem recognizes_throw (e : ε) :
    Recognizes (throw e : Reader τ ε α) (fun _ _ => False) := by
  intro s a s'
  have hrun : (throw e : Reader τ ε α).run s = .error e := rfl
  simp [hrun]

/-- The second step need only be right at the values the first one can return. -/
theorem recognizes_bind {p : Reader τ ε α} {f : α → Reader τ ε β} {F : Lang τ α}
    {G : α → Lang τ β} (hp : Recognizes p F)
    (hf : ∀ u a, F u a → Recognizes (f a) (G a)) :
    Recognizes (p >>= f) (Then F G) := by
  intro s b s₂
  rw [run_bind_eq_ok]
  constructor
  · rintro ⟨a, s₁, h1, h2⟩
    obtain ⟨u, hu, rfl⟩ := (hp _ _ _).mp h1
    obtain ⟨v, hv, rfl⟩ := (hf u a hu _ _ _).mp h2
    exact ⟨u ++ v, ⟨u, v, a, hu, hv, rfl⟩, (List.append_assoc u v s₂).symm⟩
  · rintro ⟨w, ⟨u, v, a, hu, hv, rfl⟩, rfl⟩
    rw [List.append_assoc]
    exact ⟨a, v ++ s₂, (hp _ _ _).mpr ⟨u, hu, rfl⟩, (hf u a hu _ _ _).mpr ⟨v, hv, rfl⟩⟩

/-- Of two equal streams that start with words the values and the rests are equal. -/
theorem Recognizes.split {p : Reader τ ε α} {F : Lang τ α} (hp : Recognizes p F) {w w' : List τ}
    {a a' : α} (h : F w a) (h' : F w' a') {s s' : List τ} (heq : w ++ s = w' ++ s') :
    a = a' ∧ s = s' := by
  have hrun := (hp (w ++ s) a s).mpr ⟨w, h, rfl⟩
  have hrun' := (hp (w ++ s) a' s').mpr ⟨w', h', heq⟩
  exact Prod.mk.inj (Except.ok.inj (hrun.symm.trans hrun'))

/-- A word denotes one value. -/
theorem Recognizes.eq {p : Reader τ ε α} {F : Lang τ α} (hp : Recognizes p F) {w w' : List τ}
    {a a' : α} (h : F w a) (h' : F w' a') (heq : w = w') : a = a' := by
  have happ : w ++ [] = w' ++ [] := by rw [heq]
  exact (hp.split h h' happ).1

theorem Recognizes.congr {p : Reader τ ε α} {F G : Lang τ α} (hp : Recognizes p F)
    (h : ∀ w a, F w a ↔ G w a) : Recognizes p G := by
  intro s a s'
  simp only [hp s a s', h]

/-- The counted loop reads that many words. The induction is on the count, so
each step is one unfolding of `readMany` and one constructor of `Items`. -/
theorem recognizes_readMany {p : Reader τ ε α} {F : Lang τ α} (hp : Recognizes p F) (n : ℕ) :
    Recognizes (readMany p n) (fun w xs => Items F w xs ∧ xs.length = n) := by
  induction n with
  | zero =>
      refine (recognizes_pure []).congr fun w xs => ?_
      constructor
      · rintro ⟨rfl, rfl⟩
        exact ⟨Items.nil, rfl⟩
      · rintro ⟨hi, hlen⟩
        cases hi with
        | nil => exact ⟨rfl, rfl⟩
        | cons _ _ => simp at hlen
  | succ n ih =>
      refine (recognizes_bind hp fun _ x _ => recognizes_bind ih fun _ xs _ =>
        recognizes_pure (x :: xs)).congr fun w ys => ?_
      constructor
      · rintro ⟨u, _, x, hu, ⟨v, _, xs, ⟨hv, hlen⟩, ⟨rfl, rfl⟩, rfl⟩, rfl⟩
        rw [List.append_nil]
        exact ⟨Items.cons hu hv, by rw [List.length_cons, hlen]⟩
      · rintro ⟨hi, hlen⟩
        cases hi with
        | nil => simp at hlen
        | @cons u v x xs hu hv =>
            have hl : xs.length = n := by simpa using hlen
            exact ⟨u, v, x, hu, ⟨v, [], xs, ⟨hv, hl⟩, ⟨rfl, rfl⟩, by rw [List.append_nil]⟩, rfl⟩

/-- The loop over a list reads one word for each of its elements. -/
theorem recognizes_readEach {p : γ → Reader τ ε α} {F : γ → Lang τ α}
    (hp : ∀ k, Recognizes (p k) (F k)) (ks : List γ) :
    Recognizes (readEach p ks) (Each F ks) := by
  induction ks with
  | nil =>
      refine (recognizes_pure []).congr fun w xs => ?_
      constructor
      · rintro ⟨rfl, rfl⟩
        exact Each.nil
      · intro h
        cases h
        exact ⟨rfl, rfl⟩
  | cons k ks ih =>
      refine (recognizes_bind (hp k) fun _ x _ => recognizes_bind ih fun _ xs _ =>
        recognizes_pure (x :: xs)).congr fun w ys => ?_
      constructor
      · rintro ⟨u, _, x, hu, ⟨v, _, xs, hv, ⟨rfl, rfl⟩, rfl⟩, rfl⟩
        rw [List.append_nil]
        exact Each.cons hu hv
      · intro h
        cases h with
        | @cons _ _ u v x xs hu hv =>
            exact ⟨u, v, x, hu, ⟨v, [], xs, hv, ⟨rfl, rfl⟩, by rw [List.append_nil]⟩, rfl⟩

/-! ## Writers -/

/-- The loop `for x in xs: result.extend(f(x))` of a writer that may fail. -/
def writeEach (f : α → Except ε (List τ)) : List α → Except ε (List τ)
  | [] => pure []
  | x :: xs => do
    let u ← f x
    let v ← writeEach f xs
    pure (u ++ v)

/-- The writer succeeds on `x` with a word for `b`, and no word for `b` is shorter. -/
def WritesShortest (f : α → Except ε (List τ)) (F : Lang τ β) (x : α) (b : β) : Prop :=
  ∃ w, f x = .ok w ∧ F w b ∧ ∀ w', F w' b → w.length ≤ w'.length

/-- A shortest writer, run over a list, is a shortest writer of the repeated format;
`g` is what the format sees of an element. -/
theorem writesShortest_writeEach {f : α → Except ε (List τ)} {F : Lang τ β} {g : α → β}
    {xs : List α} (h : ∀ x ∈ xs, WritesShortest f F x (g x)) :
    WritesShortest (writeEach f) (Items F) xs (xs.map g) := by
  induction xs with
  | nil => exact ⟨[], rfl, Items.nil, fun _ _ => Nat.zero_le _⟩
  | cons x xs ih =>
      obtain ⟨u, hfu, hu, humin⟩ := h x List.mem_cons_self
      obtain ⟨v, hfv, hv, hvmin⟩ := ih fun y hy => h y (List.mem_cons_of_mem x hy)
      refine ⟨u ++ v, ?_, Items.cons hu hv, fun w' hw' => ?_⟩
      · rw [writeEach, hfu, hfv]
        rfl
      · rw [List.map_cons] at hw'
        cases hw' with
        | cons hu' hv' =>
            have h1 := humin _ hu'
            have h2 := hvmin _ hv'
            rw [List.length_append, List.length_append]
            omega

end Superorganism.Format

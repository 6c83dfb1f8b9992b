/-
The bandit of `ltr-benchmarking/mab.py`: its own evidence for each arm, the table of what
other peers last said about it, and what is computed from the two.

Counts and Lamport stamps are Python's integers, the wall clock is a rational number, and a
`float` is a value of any type with the operations the code does on floats (`PyFloat`), of
which nothing is assumed. The clock is an argument of every function that reads it. Where a
function reads it more than once the argument gives each reading, so that time may pass in
between.

What an expression divides by and what it takes the logarithm of are noted beside its value
(`Calc`).
-/
import Mathlib.Algebra.BigOperators.Group.List.Basic
import Mathlib.Algebra.Order.Field.Rat
import Superorganism.Py

set_option autoImplicit false

open Superorganism.Py

namespace Superorganism.Mab

/-! ## Floats, and what is computed with them -/

class PyFloat (F : Type) extends Zero F, One F, Add F, Sub F, Mul F, Div F, IntCast F where
  sqrt : F → F
  log : F → F
  lt : F → F → Bool
  beq : F → F → Bool
  neg_inf : F

/-- Rational numbers for floats, for concrete runs. Their roots and logarithms are stand-ins:
what is looked at in these runs does not depend on them. -/
instance exactFloat : PyFloat ℚ where
  sqrt x := x
  log x := x
  lt a b := decide (a < b)
  beq a b := decide (a = b)
  neg_inf := -1

/-- The exceptions of the bandit and of the community. -/
inductive MabError where
  | ZeroDivisionError
  | ValueError (message : String)
  | IndexError
  | KeyError (key : String)
deriving DecidableEq, Repr

/-- An integer that an expression divides by or takes the logarithm of. -/
inductive Operand where
  | divisor (n : ℤ)
  | logarithm (n : ℤ)
deriving DecidableEq, Repr

/-- A result, and the operands come across on the way to it. -/
structure Calc (α : Type) where
  operands : List Operand
  result : Except MabError α

namespace Calc

variable {α β : Type}

def ret (a : α) : Calc α := ⟨[], .ok a⟩

def bind (x : Calc α) (f : α → Calc β) : Calc β :=
  match x.result with
  | .error e => ⟨x.operands, .error e⟩
  | .ok a => ⟨x.operands ++ (f a).operands, (f a).result⟩

instance : Monad Calc where
  pure := ret
  bind := bind

def throw (e : MabError) : Calc α := ⟨[], .error e⟩

def note (o : Operand) : Calc Unit := ⟨[o], .ok ()⟩

/-- The exception that was raised, if any. -/
def raised (x : Calc α) : Option MabError :=
  match x.result with
  | .error e => some e
  | .ok _ => none

/-- Every operand passes, and so does the result if there is one. -/
def Along (P : Operand → Prop) (φ : α → Prop) (x : Calc α) : Prop :=
  (∀ o ∈ x.operands, P o) ∧ ∀ a, x.result = .ok a → φ a

variable {P : Operand → Prop} {φ : α → Prop} {ψ : β → Prop}

theorem along_pure {a : α} (h : φ a) : Along P φ (pure a : Calc α) := by
  refine ⟨fun _ ho => absurd ho List.not_mem_nil, ?_⟩
  intro b hb
  cases hb
  exact h

theorem along_throw (e : MabError) : Along P φ (throw e : Calc α) :=
  ⟨fun _ ho => absurd ho List.not_mem_nil, fun _ h => nomatch h⟩

theorem along_note {o : Operand} (h : P o) : Along P (fun _ => True) (note o) := by
  refine ⟨fun o' ho' => ?_, fun _ _ => trivial⟩
  rw [List.mem_singleton.mp ho']
  exact h

theorem Along.bind {x : Calc α} {f : α → Calc β} (hx : Along P φ x)
    (hf : ∀ a, φ a → Along P ψ (f a)) : Along P ψ (x >>= f) := by
  obtain ⟨operands, result⟩ := x
  cases result with
  | error e => exact ⟨hx.1, fun _ h => nomatch h⟩
  | ok a =>
      have ha := hf a (hx.2 a rfl)
      refine ⟨fun o ho => ?_, ha.2⟩
      rcases List.mem_append.mp ho with h | h
      · exact hx.1 o h
      · exact ha.1 o h

theorem Along.mono {φ' : α → Prop} {x : Calc α} (hx : Along P φ x) (h : ∀ a, φ a → φ' a) :
    Along P φ' x :=
  ⟨hx.1, fun a ha => h a (hx.2 a ha)⟩

end Calc

section

variable {F : Type} [PyFloat F]

/-- A float divided by an integer. -/
def truediv (x : F) (n : ℤ) : Calc F := do
  Calc.note (.divisor n)
  if n = 0 then Calc.throw .ZeroDivisionError else pure (x / (n : F))

/-- The quotient of a NumPy scalar, which is a float for every divisor. -/
def np_truediv (x : F) (n : ℤ) : Calc F := do
  Calc.note (.divisor n)
  pure (x / (n : F))

def np_log (k : ℤ) : Calc F := do
  Calc.note (.logarithm k)
  pure (PyFloat.log (k : F))

/-- `max(a, b)` of two floats. -/
def pyMax (a b : F) : F := if PyFloat.lt a b then b else a

/-- `min(a, b)` of two floats. -/
def pyMin (a b : F) : F := if PyFloat.lt b a then b else a

end

/-! ## The state of a bandit -/

structure PeerObservation (F : Type) where
  pulls : ℤ
  total_reward : F
  alpha : F
  beta : F
  lamport : ℤ
  last_received : ℚ
deriving DecidableEq

/-- `PEER_OBSERVATION_TTL_S` -/
def PEER_OBSERVATION_TTL_S : ℚ := 300

/-- The observation has not expired. -/
def PeerObservation.fresh {F : Type} (now : ℚ) (obs : PeerObservation F) : Bool :=
  decide (now - PEER_OBSERVATION_TTL_S ≤ obs.last_received)

/-- The two subclasses, with the factor of `UCB1`. -/
inductive Algorithm (F : Type) where
  | ucb1 (c : F)
  | thompson

structure Bandit (F : Type) where
  algorithm : Algorithm F
  peer_id : String
  own : PyDict String (PeerObservation F)
  peer_observations : PyDict String (PyDict String (PeerObservation F))
  _lamport_seen : PyDict (String × String) ℤ
  _lamport_self : ℤ

namespace Bandit

variable {F : Type} [PyFloat F]

/-- `PeerObservation(alpha=1.0, beta=1.0)` -/
def flat_prior : PeerObservation F :=
  { pulls := 0, total_reward := 0, alpha := 1, beta := 1, lamport := 0, last_received := 0 }

/-- `__init__` -/
def new (algorithm : Algorithm F) (arm_names : List String) (peer_id : String) : Bandit F where
  algorithm
  peer_id
  own := .fromkeys arm_names flat_prior
  peer_observations := .fromkeys arm_names .empty
  _lamport_seen := .empty
  _lamport_self := 0

/-- The table of an arm, empty for an unknown one. -/
def table (b : Bandit F) (arm : String) : PyDict String (PeerObservation F) :=
  (b.peer_observations.get? arm).getD .empty

def add_arm (b : Bandit F) (name : String) : Bandit F :=
  if (b.own.get? name).isSome then b
  else { b with
    own := b.own.set name flat_prior
    peer_observations := b.peer_observations.set name (b.table name) }

/-- `_lamport_seen.get(key, 0)` -/
def lamport_seen (b : Bandit F) (sender arm : String) : ℤ :=
  (b._lamport_seen.get? (sender, arm)).getD 0

def apply_gossip (b : Bandit F) (now : ℚ) (arm sender : String) (pulls : ℤ)
    (total_reward alpha beta : F) (lamport : ℤ) : Bandit F × Bool :=
  if sender = b.peer_id then (b, false)
  else if lamport ≤ b.lamport_seen sender arm then (b, false)
  else
    ({ b with
      _lamport_seen := b._lamport_seen.set (sender, arm) lamport
      peer_observations := b.peer_observations.set arm ((b.table arm).set sender
        { pulls, total_reward, alpha, beta, lamport, last_received := now }) }, true)

def next_lamport (b : Bandit F) : Bandit F × ℤ :=
  ({ b with _lamport_self := b._lamport_self + 1 }, b._lamport_self + 1)

def own_observation (b : Bandit F) (arm : String) : Option (PeerObservation F) := b.own.get? arm

/-- The bandit without the expired observations, and how many there were. -/
def evict_all_stale (b : Bandit F) (now : ℚ) : Bandit F × ℕ :=
  ({ b with
      peer_observations := b.peer_observations.mapValues (PyDict.filterValues (·.fresh now)) },
    (b.peer_observations.values.map fun table => (table.values.filter (! ·.fresh now)).length).sum)

/-! ## Aggregates -/

def total_pulls (b : Bandit F) (now : ℚ) : ℤ :=
  (b.own.values.map PeerObservation.pulls).sum +
    (b.peer_observations.values.map fun table =>
      ((table.values.filter (·.fresh now)).map PeerObservation.pulls).sum).sum

/-- What the observations about an arm that have not expired add up to, from a start. -/
def foldFresh {α : Type} (b : Bandit F) (now : ℚ) (arm : String)
    (add : α → PeerObservation F → α) (start : α) : α :=
  ((b.table arm).values.filter (·.fresh now)).foldl add start

def _aggregate_pulls (b : Bandit F) (now : ℚ) (arm : String) : ℤ :=
  match b.own.get? arm with
  | none => 0
  | some own => b.foldFresh now arm (fun n obs => n + obs.pulls) own.pulls

end Bandit

/-! ## The first loop of `select_arm` -/

/-- The first arm nobody has pulled, by the counts at the time each is looked at. The reading
`i` of the clock is for the first of the names. -/
def unpulled (count : ℚ → String → ℤ) (clock : ℕ → ℚ) : ℕ → List String → Option String
  | _, [] => none
  | i, name :: names =>
    if count (clock i) name = 0 then some name else unpulled count clock (i + 1) names

theorem unpulled_mem {count : ℚ → String → ℤ} {clock : ℕ → ℚ} {i : ℕ} {names : List String}
    {name : String} (h : unpulled count clock i names = some name) : name ∈ names := by
  induction names generalizing i with
  | nil => exact absurd h (Option.some_ne_none name).symm
  | cons x names ih =>
      rw [unpulled] at h
      by_cases hn : count (clock i) x = 0
      · rw [if_pos hn] at h
        cases h
        exact List.mem_cons_self
      · rw [if_neg hn] at h
        exact List.mem_cons_of_mem x (ih h)

/-- The arm at place `k` has been pulled when it is looked at. -/
theorem ne_zero_of_unpulled_eq_none {count : ℚ → String → ℤ} {clock : ℕ → ℚ} {i : ℕ}
    {names : List String} (h : unpulled count clock i names = none) (k : ℕ) {name : String}
    (hk : names[k]? = some name) : count (clock (i + k)) name ≠ 0 := by
  induction names generalizing i k with
  | nil => exact absurd hk (Option.some_ne_none name).symm
  | cons x names ih =>
      rw [unpulled] at h
      by_cases hn : count (clock i) x = 0
      · rw [if_pos hn] at h
        exact absurd h (Option.some_ne_none x)
      · rw [if_neg hn] at h
        cases k with
        | zero =>
            cases hk
            exact hn
        | succ k =>
            rw [← Nat.succ_add_eq_add_succ]
            exact ih h k hk

/-! ## `UCB1` -/

namespace UCB1

variable {F : Type} [PyFloat F]

/-- `_aggregate` -/
def aggregate (b : Bandit F) (now : ℚ) (arm : String) : F × ℤ :=
  match b.own.get? arm with
  | none => (0, 0)
  | some own => b.foldFresh now arm
      (fun (R, n) obs => (R + obs.total_reward, n + obs.pulls)) (own.total_reward, own.pulls)

/-- The second loop of `select_arm`: the arms of the greatest bound. -/
def best_arms_loop (b : Bandit F) (c : F) (N : ℤ) (clock : ℕ → ℚ) :
    ℕ → List String → F → List String → Calc (List String)
  | _, [], _, best_arms => pure best_arms
  | i, name :: names, best_ucb, best_arms => do
    let (R, n) := aggregate b (clock i) name
    let ratio ← np_truediv (← np_log (N + 1)) (n + 1)
    let mean ← truediv R n
    let ucb := mean + c * PyFloat.sqrt ratio
    if PyFloat.lt best_ucb ucb then best_arms_loop b c N clock (i + 1) names ucb [name]
    else if PyFloat.beq ucb best_ucb then
      best_arms_loop b c N clock (i + 1) names best_ucb (best_arms ++ [name])
    else best_arms_loop b c N clock (i + 1) names best_ucb best_arms

/-- One of the arms, by the draw of the generator. -/
def break_tie (integers : (n : ℕ) → Fin (n + 1)) : List String → Calc String
  | [] => Calc.throw (.ValueError "high <= 0")
  | [arm] => pure arm
  | arm :: arms => pure ((arm :: arms).get (integers arms.length))

/-- `select_arm` of sorted candidates. The clock is read for each of them, then for the
total, then for each of them again. -/
def select_arm (b : Bandit F) (c : F) (integers : (n : ℕ) → Fin (n + 1)) (clock : ℕ → ℚ)
    (candidates : List String) : Calc String :=
  match unpulled (fun now name => (aggregate b now name).2) clock 0 candidates with
  | some name => pure name
  | none => do
    let N := b.total_pulls (clock candidates.length)
    let best_arms ←
      best_arms_loop b c N clock (candidates.length + 1) candidates PyFloat.neg_inf []
    break_tie integers best_arms

theorem best_arms_loop_mem (b : Bandit F) (c : F) (N : ℤ) (clock : ℕ → ℚ) (i : ℕ)
    (names : List String) (best_ucb : F) (best_arms : List String) :
    (best_arms_loop b c N clock i names best_ucb best_arms).Along (fun _ => True)
      fun arms => ∀ a ∈ arms, a ∈ best_arms ∨ a ∈ names := by
  induction names generalizing i best_ucb best_arms with
  | nil => exact Calc.along_pure fun a ha => .inl ha
  | cons name names ih =>
      have htrue {α : Type} (x : Calc α) : x.Along (fun _ => True) fun _ => True :=
        ⟨fun _ _ => trivial, fun _ _ => trivial⟩
      refine (htrue _).bind fun l _ => (htrue _).bind fun ratio _ => (htrue _).bind fun mean _ => ?_
      dsimp only
      split
      · refine (ih _ _ [name]).mono fun arms h a ha => ?_
        rcases h a ha with hin | hin
        · exact .inr (List.mem_singleton.mp hin ▸ List.mem_cons_self)
        · exact .inr (List.mem_cons_of_mem name hin)
      · split
        · refine (ih _ _ (best_arms ++ [name])).mono fun arms h a ha => ?_
          rcases h a ha with hin | hin
          · rcases List.mem_append.mp hin with hold | hlast
            · exact .inl hold
            · exact .inr (List.mem_singleton.mp hlast ▸ List.mem_cons_self)
          · exact .inr (List.mem_cons_of_mem name hin)
        · exact (ih _ _ best_arms).mono fun arms h a ha =>
            (h a ha).imp_right (List.mem_cons_of_mem name)

theorem break_tie_mem {integers : (n : ℕ) → Fin (n + 1)} {arms : List String} {a : String}
    (h : (break_tie integers arms).result = .ok a) : a ∈ arms := by
  cases arms with
  | nil => exact nomatch h
  | cons arm arms =>
      cases arms with
      | nil =>
          cases h
          exact List.mem_cons_self
      | cons arm' arms =>
          cases h
          exact List.get_mem ..

/-- The arm selected is a candidate. -/
theorem select_arm_mem {b : Bandit F} {c : F} {integers : (n : ℕ) → Fin (n + 1)} {clock : ℕ → ℚ}
    {candidates : List String} {a : String}
    (h : (select_arm b c integers clock candidates).result = .ok a) : a ∈ candidates := by
  unfold select_arm at h
  split at h
  · rename_i name hname
    cases h
    exact unpulled_mem hname
  · have hloop := best_arms_loop_mem b c (b.total_pulls (clock candidates.length)) clock
      (candidates.length + 1) candidates PyFloat.neg_inf []
    have hall := hloop.bind (f := break_tie integers) (ψ := fun a => a ∈ candidates) fun arms harms =>
      ⟨fun _ _ => trivial, fun a ha => (harms a (break_tie_mem ha)).resolve_left List.not_mem_nil⟩
    exact hall.2 a h

/-- `update` -/
def update (b : Bandit F) (now : ℚ) (arm_name : String) (reward : F) :
    Except MabError (Bandit F) :=
  match b.own.get? arm_name with
  | none => .error (.KeyError arm_name)
  | some own =>
    let (b, lamport) := b.next_lamport
    let own :=
      { own with
        pulls := own.pulls + 1
        total_reward := own.total_reward + reward
        lamport
        last_received := now }
    .ok { b with own := b.own.set arm_name own }

/-- `confidence_bounds`, with the clock read once for the arm and once for the total. -/
def confidence_bounds (b : Bandit F) (now now' : ℚ) (arm : String) : Calc (F × F) := do
  let (R, n) := aggregate b now arm
  if n = 0 then pure (0, 1)
  else do
    let N := b.total_pulls now'
    let mean ← truediv R n
    let ratio ← np_truediv (← np_log (N + 1)) (2 * n)
    let half_width := PyFloat.sqrt ratio
    pure (pyMax 0 (mean - half_width), pyMin 1 (mean + half_width))

end UCB1

/-! ## `ThompsonSampling` -/

namespace ThompsonSampling

variable {F : Type} [PyFloat F]

/-- `_aggregate` -/
def aggregate (b : Bandit F) (now : ℚ) (arm : String) : F × F × ℤ :=
  match b.own.get? arm with
  | none => (1, 1, 0)
  | some own => b.foldFresh now arm
      (fun (alpha, beta, n) obs => (alpha + (obs.alpha - 1), beta + (obs.beta - 1), n + obs.pulls))
      (1 + (own.alpha - 1), 1 + (own.beta - 1), own.pulls)

/-- The second loop of `select_arm`, with the samples the generator gives or refuses to. -/
def best_name_loop (b : Bandit F) (draw : ℕ → F → F → Except MabError F) (clock : ℕ → ℚ) :
    ℕ → List String → F → String → Calc String
  | _, [], _, best_name => pure best_name
  | i, name :: names, best_sample, best_name =>
    let (alpha, beta, _) := aggregate b (clock i) name
    match draw i alpha beta with
    | .error e => Calc.throw e
    | .ok sample =>
      if PyFloat.lt best_sample sample then best_name_loop b draw clock (i + 1) names sample name
      else best_name_loop b draw clock (i + 1) names best_sample best_name

/-- `select_arm` of sorted candidates. -/
def select_arm (b : Bandit F) (draw : ℕ → F → F → Except MabError F) (clock : ℕ → ℚ)
    (candidates : List String) : Calc String :=
  match unpulled (fun now name => (aggregate b now name).2.2) clock 0 candidates with
  | some name => pure name
  | none =>
    match candidates with
    | [] => Calc.throw .IndexError
    | name :: names =>
      best_name_loop b draw clock (names.length + 1) (name :: names) ((-1 : ℤ) : F) name

theorem best_name_loop_mem {b : Bandit F} {draw : ℕ → F → F → Except MabError F} {clock : ℕ → ℚ}
    {i : ℕ} {names : List String} {best_sample : F} {best_name a : String}
    (h : (best_name_loop b draw clock i names best_sample best_name).result = .ok a) :
    a = best_name ∨ a ∈ names := by
  induction names generalizing i best_sample best_name with
  | nil =>
      cases h
      exact .inl rfl
  | cons name names ih =>
      rw [best_name_loop] at h
      dsimp only at h
      split at h
      · exact nomatch h
      · split at h
        · rcases ih h with rfl | hin
          · exact .inr List.mem_cons_self
          · exact .inr (List.mem_cons_of_mem name hin)
        · exact (ih h).imp_right (List.mem_cons_of_mem name)

/-- The arm selected is a candidate. -/
theorem select_arm_mem {b : Bandit F} {draw : ℕ → F → F → Except MabError F} {clock : ℕ → ℚ}
    {candidates : List String} {a : String}
    (h : (select_arm b draw clock candidates).result = .ok a) : a ∈ candidates := by
  unfold select_arm at h
  split at h
  · rename_i name hname
    cases h
    exact unpulled_mem hname
  · cases candidates with
    | nil => exact nomatch h
    | cons name names =>
        rcases best_name_loop_mem h with rfl | hin
        · exact List.mem_cons_self
        · exact hin

/-- `update` -/
def update (b : Bandit F) (now : ℚ) (arm_name : String) (reward : F) :
    Except MabError (Bandit F) :=
  match b.own.get? arm_name with
  | none => .error (.KeyError arm_name)
  | some own =>
    let (b, lamport) := b.next_lamport
    let own :=
      { own with
        alpha := own.alpha + reward
        beta := own.beta + (1 - reward)
        pulls := own.pulls + 1
        lamport
        last_received := now }
    .ok { b with own := b.own.set arm_name own }

end ThompsonSampling

end Superorganism.Mab

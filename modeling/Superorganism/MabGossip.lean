/-
What gossip leaves in a bandit.

The stamps and the tables of a bandit are a bank of registers, one for each sender and arm
(`Bandit.bank`): `apply_gossip` delivers a message to its register, unless the sender is the
peer itself, and an eviction drops the observations that have expired. So the observations
that any deliveries leave are those of highest stamp, and an evicted one comes back under no
message that has been seen (`observations_of_any_order`).
-/
import Superorganism.Mab
import Superorganism.Registers

set_option autoImplicit false

open Superorganism.Py Superorganism.Registers

namespace Superorganism.Mab

variable {F : Type}

/-! ## Deliveries -/

/-- What a gossip message says about one arm. -/
structure Observation (F : Type) where
  arm : String
  sender : String
  pulls : ℤ
  total_reward : F
  alpha : F
  beta : F
  lamport : ℤ
deriving DecidableEq

/-- A message, and when it came. -/
structure Delivery (F : Type) where
  observation : Observation F
  now : ℚ
deriving DecidableEq

/-- The entry `apply_gossip` makes of it. -/
def Delivery.entry (d : Delivery F) : PeerObservation F :=
  { pulls := d.observation.pulls
    total_reward := d.observation.total_reward
    alpha := d.observation.alpha
    beta := d.observation.beta
    lamport := d.observation.lamport
    last_received := d.now }

/-- The delivery an entry is from. -/
def PeerObservation.delivery (arm sender : String) (obs : PeerObservation F) : Delivery F where
  observation :=
    { arm, sender, pulls := obs.pulls, total_reward := obs.total_reward, alpha := obs.alpha,
      beta := obs.beta, lamport := obs.lamport }
  now := obs.last_received

/-- A register for each sender and arm, with Lamport stamps. -/
def addressing : Addressing (Delivery F) (String × String) ℤ where
  key d := (d.observation.sender, d.observation.arm)
  stamp d := d.observation.lamport

namespace Bandit

variable (b : Bandit F)

/-- `apply_gossip` with the fields of a message. -/
def receive (d : Delivery F) : Bandit F × Bool :=
  b.apply_gossip d.now d.observation.arm d.observation.sender d.observation.pulls
    d.observation.total_reward d.observation.alpha d.observation.beta d.observation.lamport

def receiveAll (ds : List (Delivery F)) : Bandit F := ds.foldl (fun b d => (b.receive d).1) b

/-- What the table says of a sender and an arm, without the time. -/
def observation (arm sender : String) : Option (Observation F) :=
  ((b.table arm).get? sender).map fun obs => (obs.delivery arm sender).observation

/-! ## The registers of a bandit -/

def bank : Bank (Delivery F) (String × String) ℤ where
  seen k := b.lamport_seen k.1 k.2
  held k := ((b.table k.2).get? k.1).map (PeerObservation.delivery k.2 k.1)

variable {b}

theorem receive_own {d : Delivery F} (h : d.observation.sender = b.peer_id) :
    b.receive d = (b, false) := if_pos h

theorem receive_old {d : Delivery F}
    (h : d.observation.lamport ≤ b.lamport_seen d.observation.sender d.observation.arm) :
    b.receive d = (b, false) := by
  unfold receive apply_gossip
  by_cases hown : d.observation.sender = b.peer_id
  · rw [if_pos hown]
  · rw [if_neg hown, if_pos h]

/-- The bandit with the message in its tables. -/
def accept (b : Bandit F) (d : Delivery F) : Bandit F :=
  { b with
    _lamport_seen :=
      b._lamport_seen.set (d.observation.sender, d.observation.arm) d.observation.lamport
    peer_observations := b.peer_observations.set d.observation.arm
      ((b.table d.observation.arm).set d.observation.sender d.entry) }

theorem receive_new {d : Delivery F} (hown : d.observation.sender ≠ b.peer_id)
    (h : ¬ d.observation.lamport ≤ b.lamport_seen d.observation.sender d.observation.arm) :
    b.receive d = (b.accept d, true) := by
  unfold receive apply_gossip
  rw [if_neg hown, if_neg h]
  rfl

/-- A message is refused or goes into the tables. -/
theorem receive_cases (b : Bandit F) (d : Delivery F) :
    b.receive d = (b, false) ∨ (b.receive d = (b.accept d, true) ∧
      d.observation.sender ≠ b.peer_id ∧
      b.lamport_seen d.observation.sender d.observation.arm < d.observation.lamport) := by
  by_cases hown : d.observation.sender = b.peer_id
  · exact .inl (receive_own hown)
  · by_cases h : d.observation.lamport ≤ b.lamport_seen d.observation.sender d.observation.arm
    · exact .inl (receive_old h)
    · exact .inr ⟨receive_new hown h, hown, not_le.mp h⟩

@[simp] theorem peer_id_receive (b : Bandit F) (d : Delivery F) :
    (b.receive d).1.peer_id = b.peer_id := by
  rcases receive_cases b d with h | ⟨h, -, -⟩
  · rw [h]
  · rw [h]
    rfl

theorem table_accept (b : Bandit F) (d : Delivery F) (arm : String) :
    (b.accept d).table arm =
      if arm = d.observation.arm then (b.table arm).set d.observation.sender d.entry
      else b.table arm := by
  unfold table accept
  rw [PyDict.get?_set]
  by_cases h : arm = d.observation.arm
  · rw [if_pos h, if_pos h, h]
    rfl
  · rw [if_neg h, if_neg h]

theorem lamport_seen_accept (b : Bandit F) (d : Delivery F) (sender arm : String) :
    (b.accept d).lamport_seen sender arm =
      if (sender, arm) = addressing.key d then d.observation.lamport
      else b.lamport_seen sender arm := by
  unfold lamport_seen accept
  rw [PyDict.get?_set]
  by_cases h : (sender, arm) = (d.observation.sender, d.observation.arm)
  · rw [if_pos h]
    exact (if_pos h).symm
  · rw [if_neg h]
    exact (if_neg h).symm

/-- **`apply_gossip` delivers a foreign message to its register.** -/
theorem bank_receive {d : Delivery F} (hown : d.observation.sender ≠ b.peer_id) :
    (b.receive d).1.bank = b.bank.deliver addressing d := by
  by_cases h : d.observation.lamport ≤ b.lamport_seen d.observation.sender d.observation.arm
  · rw [receive_old h]
    exact (Bank.deliver_of_le h).symm
  · have hdeliver : b.bank.deliver addressing d = ⟨Function.update b.bank.seen (addressing.key d)
        (addressing.stamp d), Function.update b.bank.held (addressing.key d) (some d)⟩ := if_neg h
    rw [receive_new hown h, hdeliver, bank]
    -- the stamps of the registers, then what they hold
    congr 1
    · funext k
      by_cases hk : k = addressing.key d
      · rw [hk, Function.update_self]
        exact (lamport_seen_accept ..).trans (if_pos rfl)
      · rw [Function.update_of_ne hk]
        exact (lamport_seen_accept ..).trans (if_neg hk)
    · funext k
      obtain ⟨sender, arm⟩ := k
      dsimp only
      rw [table_accept]
      by_cases hk : (sender, arm) = addressing.key d
      · obtain ⟨hsender, harm⟩ := Prod.mk.inj hk
        rw [if_pos harm, PyDict.get?_set, if_pos hsender, hk, Function.update_self, hsender, harm]
        rfl
      · rw [Function.update_of_ne hk]
        by_cases harm : arm = d.observation.arm
        · have hsender : sender ≠ d.observation.sender := fun hs => hk (Prod.ext hs harm)
          rw [if_pos harm, PyDict.get?_set, if_neg hsender]
          rfl
        · rw [if_neg harm]
          rfl

/-- An eviction keeps a part of each table. -/
theorem table_evict (b : Bandit F) (now : ℚ) (arm : String) :
    (b.evict_all_stale now).1.table arm = (b.table arm).filterValues (·.fresh now) := by
  unfold table evict_all_stale
  rw [PyDict.get?_mapValues]
  cases b.peer_observations.get? arm with
  | none => rfl
  | some table => rfl

/-- **An eviction drops what has expired.** -/
theorem bank_evict (b : Bandit F) (now : ℚ) :
    (b.evict_all_stale now).1.bank = b.bank.drop fun d => d.entry.fresh now := by
  rw [bank, bank, Bank.drop]
  congr 1
  funext k
  dsimp only
  rw [table_evict, PyDict.get?_filterValues]
  cases (b.table k.2).get? k.1 with
  | none => rfl
  | some obs =>
      rw [Option.filter_some, Option.map_some, Option.filter_some]
      by_cases h : obs.fresh now = true
      · rw [if_pos h]
        exact (if_pos h).symm
      · rw [if_neg h]
        exact (if_neg h).symm

/-! ## Runs -/

inductive Event (F : Type) where
  | gossip (d : Delivery F)
  | evict (now : ℚ)

def apply (b : Bandit F) : Event F → Bandit F
  | .gossip d => (b.receive d).1
  | .evict now => (b.evict_all_stale now).1

def run (b : Bandit F) (events : List (Event F)) : Bandit F := events.foldl apply b

/-- What an event does to the registers of the peer `peer_id`. -/
def Event.onBank (peer_id : String) : Event F → Option (Bank.Event (Delivery F))
  | .gossip d => if d.observation.sender = peer_id then none else some (.deliver d)
  | .evict now => some (.drop fun d => d.entry.fresh now)

theorem peer_id_apply (b : Bandit F) (e : Event F) : (b.apply e).peer_id = b.peer_id := by
  cases e with
  | gossip d => exact peer_id_receive b d
  | evict now => rfl

theorem bank_run (b : Bandit F) (events : List (Event F)) :
    (b.run events).bank = b.bank.run addressing (events.filterMap (Event.onBank b.peer_id)) := by
  induction events generalizing b with
  | nil => rfl
  | cons e events ih =>
      have hrest := ih (b.apply e)
      rw [peer_id_apply] at hrest
      refine hrest.trans ?_
      cases e with
      | gossip d =>
          by_cases hown : d.observation.sender = b.peer_id
          · have hnone : (Event.gossip d).onBank b.peer_id = none := if_pos hown
            rw [List.filterMap_cons_none hnone, apply, receive_own hown]
          · have hsome : (Event.gossip d).onBank b.peer_id = some (.deliver d) := if_neg hown
            rw [List.filterMap_cons_some hsome, apply, bank_receive hown]
            rfl
      | evict now =>
          have hsome : (Event.evict now).onBank b.peer_id =
            some (.drop fun d : Delivery F => d.entry.fresh now) := rfl
          rw [List.filterMap_cons_some hsome, apply, bank_evict]
          rfl

theorem receiveAll_eq_run (b : Bandit F) (ds : List (Delivery F)) :
    b.receiveAll ds = b.run (ds.map .gossip) := by
  induction ds generalizing b with
  | nil => rfl
  | cons d ds ih => exact ih _

/-! ## Deliveries to a new bandit -/

section

variable [PyFloat F] (algorithm : Algorithm F) (arm_names : List String) (peer_id : String)

theorem table_new (arm : String) : (new algorithm arm_names peer_id).table arm = .empty := by
  unfold table new
  rw [PyDict.get?_fromkeys]
  by_cases h : arm ∈ arm_names
  · rw [if_pos h]
    rfl
  · rw [if_neg h]
    rfl

theorem bank_new : (new algorithm arm_names peer_id).bank = Bank.fresh 0 := by
  unfold bank
  congr 1
  funext k
  rw [table_new]
  rfl

/-- The deliveries from other peers. -/
def foreign (ds : List (Delivery F)) : List (Delivery F) :=
  ds.filter fun d => d.observation.sender ≠ peer_id

omit [PyFloat F] in
theorem filterMap_gossip (ds : List (Delivery F)) :
    (ds.map Event.gossip).filterMap (Event.onBank peer_id) = (foreign peer_id ds).map .deliver := by
  induction ds with
  | nil => rfl
  | cons d ds ih =>
      by_cases h : d.observation.sender = peer_id
      · have hnone : (Event.gossip d).onBank peer_id = none := if_pos h
        have hforeign : foreign peer_id (d :: ds) = foreign peer_id ds :=
          List.filter_cons_of_neg (by simpa using h)
        rw [List.map_cons, List.filterMap_cons_none hnone, ih, hforeign]
      · have hsome : (Event.gossip d).onBank peer_id = some (.deliver d) := if_neg h
        have hforeign : foreign peer_id (d :: ds) = d :: foreign peer_id ds :=
          List.filter_cons_of_pos (by simpa using h)
        rw [List.map_cons, List.filterMap_cons_some hsome, ih, hforeign, List.map_cons]

theorem bank_receiveAll (ds : List (Delivery F)) :
    ((new algorithm arm_names peer_id).receiveAll ds).bank =
      (Bank.fresh 0).deliverAll addressing (foreign peer_id ds) := by
  have hpeer : (new algorithm arm_names peer_id).peer_id = peer_id := rfl
  rw [receiveAll_eq_run, bank_run, bank_new, hpeer, filterMap_gossip, Bank.run_deliver]

/-- Of what was said of an arm by a sender, the message of highest stamp. -/
def Highest (ds : List (Delivery F)) (arm sender : String) (o : Observation F) : Prop :=
  (∃ d ∈ ds, d.observation = o) ∧ o.arm = arm ∧ o.sender = sender ∧
    ∀ d ∈ ds, d.observation.arm = arm → d.observation.sender = sender →
      d.observation.lamport ≤ o.lamport

/-- The same sender, arm and stamp always come with the same numbers. -/
def Agreeing (ds : List (Delivery F)) : Prop :=
  ∀ d ∈ ds, ∀ d' ∈ ds, d.observation.arm = d'.observation.arm →
    d.observation.sender = d'.observation.sender →
    d.observation.lamport = d'.observation.lamport → d.observation = d'.observation

variable {algorithm arm_names peer_id} {ds ds' : List (Delivery F)}

omit [PyFloat F] in
theorem Highest.unique (hagree : Agreeing ds) {arm sender : String} {o o' : Observation F}
    (h : Highest ds arm sender o) (h' : Highest ds arm sender o') : o = o' := by
  obtain ⟨⟨d, hd, rfl⟩, harm, hsender, hmax⟩ := h
  obtain ⟨⟨d', hd', rfl⟩, harm', hsender', hmax'⟩ := h'
  refine hagree d hd d' hd' (harm.trans harm'.symm) (hsender.trans hsender'.symm) ?_
  exact le_antisymm (hmax' d hd harm hsender) (hmax d' hd' harm' hsender')

omit [PyFloat F] in
/-- What holds of everything said in `ds` holds of everything said in `ds'`, if the same is said
in both. -/
theorem forall_said (hsame : ∀ o, (∃ d ∈ ds, d.observation = o) ↔ ∃ d ∈ ds', d.observation = o)
    {φ : Observation F → Prop} (h : ∀ d ∈ ds, φ d.observation) : ∀ d ∈ ds', φ d.observation := by
  intro d' hd'
  obtain ⟨d, hd, hdo⟩ := (hsame d'.observation).mpr ⟨d', hd', rfl⟩
  rw [← hdo]
  exact h d hd

omit [PyFloat F] in
theorem Agreeing.said (hsame : ∀ o, (∃ d ∈ ds, d.observation = o) ↔ ∃ d ∈ ds', d.observation = o)
    (h : Agreeing ds) : Agreeing ds' :=
  forall_said hsame (φ := fun o => ∀ d' ∈ ds', o.arm = d'.observation.arm →
    o.sender = d'.observation.sender → o.lamport = d'.observation.lamport → o = d'.observation)
    fun d hd => forall_said hsame (φ := fun o => d.observation.arm = o.arm →
      d.observation.sender = o.sender → d.observation.lamport = o.lamport → d.observation = o)
      (h d hd)

omit [PyFloat F] in
theorem Highest.said (hsame : ∀ o, (∃ d ∈ ds, d.observation = o) ↔ ∃ d ∈ ds', d.observation = o)
    {arm sender : String} {o : Observation F} (h : Highest ds arm sender o) :
    Highest ds' arm sender o := by
  obtain ⟨hsaid, harm, hsender, hmax⟩ := h
  refine ⟨(hsame o).mp hsaid, harm, hsender, ?_⟩
  exact forall_said hsame (φ := fun o' => o'.arm = arm → o'.sender = sender →
    o'.lamport ≤ o.lamport) hmax

theorem observation_eq_some_iff (hpos : ∀ d ∈ ds, 0 < d.observation.lamport)
    (hagree : Agreeing ds) (arm sender : String) (o : Observation F) :
    ((new algorithm arm_names peer_id).receiveAll ds).observation arm sender = some o ↔
      sender ≠ peer_id ∧ Highest ds arm sender o := by
  have hobservation : ((new algorithm arm_names peer_id).receiveAll ds).observation arm sender =
      (((new algorithm arm_names peer_id).receiveAll ds).bank.held (sender, arm)).map
        Delivery.observation := (Option.map_map ..).symm
  have hmem (d : Delivery F) : d ∈ foreign peer_id ds ↔ d ∈ ds ∧ d.observation.sender ≠ peer_id := by
    rw [foreign, List.mem_filter, decide_eq_true_eq]
  rw [hobservation, bank_receiveAll]
  have hstamps : ∀ d ∈ foreign peer_id ds, 0 < addressing.stamp d :=
    fun d hd => hpos d ((hmem d).mp hd).1
  -- the bank keeps, for each key, a delivery of the highest stamp, or has heard nothing of it
  rcases Bank.held_spec hstamps (sender, arm) with ⟨d, hheld, hd, hkey, hmax⟩ | ⟨hnone, hkeys⟩
  · obtain ⟨hin, hforeign⟩ := (hmem d).mp hd
    obtain ⟨hsender, harm⟩ := Prod.mk.inj hkey
    have hhighest : Highest ds arm sender d.observation := by
      refine ⟨⟨d, hin, rfl⟩, harm, hsender, fun d' hd' harm' hsender' => ?_⟩
      refine hmax d' ((hmem d').mpr ⟨hd', ?_⟩) (Prod.ext hsender' harm')
      rw [hsender', ← hsender]
      exact hforeign
    rw [hheld, Option.map_some, Option.some_inj]
    constructor
    · rintro rfl
      exact ⟨hsender ▸ hforeign, hhighest⟩
    · rintro ⟨-, h⟩
      -- two highest observations of one key are the same, since senders agree with themselves
      exact hhighest.unique hagree h
  · rw [hnone, Option.map_none]
    constructor
    · intro h
      exact absurd h (Option.some_ne_none o).symm
    · rintro ⟨hsender, ⟨d, hd, rfl⟩, harm, hfrom, -⟩
      refine absurd (Prod.ext hfrom harm) (hkeys d ((hmem d).mpr ⟨hd, ?_⟩))
      rw [hfrom]
      exact hsender

theorem isSome_new (arm : String) :
    ((new algorithm arm_names peer_id).peer_observations.get? arm).isSome ↔ arm ∈ arm_names := by
  have hget : (new algorithm arm_names peer_id).peer_observations.get? arm =
      if arm ∈ arm_names then some .empty else none := PyDict.get?_fromkeys ..
  rw [hget]
  by_cases harm : arm ∈ arm_names
  · rw [if_pos harm]
    exact ⟨fun _ => harm, fun _ => rfl⟩
  · rw [if_neg harm]
    exact ⟨fun h => absurd h Bool.false_ne_true, fun h => absurd h harm⟩

/-- The tables are those of the first arms and of the arms something is said of. -/
theorem isSome_table_iff (ds : List (Delivery F)) (arm : String) :
    ((((new algorithm arm_names peer_id).receiveAll ds).peer_observations.get? arm).isSome) ↔
      arm ∈ arm_names ∨
        ∃ sender o, ((new algorithm arm_names peer_id).receiveAll ds).observation arm sender = some o := by
  induction ds using List.reverseRecOn with
  | nil =>
      have hnone (sender : String) :
          (new algorithm arm_names peer_id).observation arm sender = none := by
        rw [observation, table_new]
        rfl
      refine (isSome_new arm).trans ⟨.inl, fun h => h.resolve_right ?_⟩
      rintro ⟨sender, o, ho⟩
      exact absurd ((hnone sender).symm.trans ho) (Option.some_ne_none o).symm
  | append_singleton ds d ih =>
      have hstep : (new algorithm arm_names peer_id).receiveAll (ds ++ [d]) =
          (((new algorithm arm_names peer_id).receiveAll ds).receive d).1 := by
        unfold receiveAll
        rw [List.foldl_append]
        rfl
      rw [hstep]
      generalize (new algorithm arm_names peer_id).receiveAll ds = b at ih
      -- induction on the deliveries: the last one is dropped, or it is entered under its arm
      rcases receive_cases b d with h | ⟨h, -, -⟩
      · rw [h]
        exact ih
      · rw [h]
        have hget : (b.accept d).peer_observations.get? arm =
            if arm = d.observation.arm then
              some ((b.table d.observation.arm).set d.observation.sender d.entry)
            else b.peer_observations.get? arm := PyDict.get?_set ..
        rw [hget]
        by_cases harm : arm = d.observation.arm
        · rw [if_pos harm]
          refine ⟨fun _ => .inr ⟨d.observation.sender, d.observation, ?_⟩, fun _ => rfl⟩
          rw [observation, table_accept, if_pos harm, PyDict.get?_set, if_pos rfl, Option.map_some, harm]
          rfl
        · rw [if_neg harm, ih]
          have hsame (sender : String) : (b.accept d).observation arm sender =
              b.observation arm sender := by
            rw [observation, table_accept, if_neg harm, observation]
          simp only [hsame]

/-- Two bandits say the same of every arm and sender, receive times aside. -/
def SameObservations (b b' : Bandit F) : Prop :=
  (∀ arm, (b.peer_observations.get? arm).isSome = (b'.peer_observations.get? arm).isSome) ∧
    ∀ arm sender, b.observation arm sender = b'.observation arm sender

end

/-- A message of which nothing new is said brings nothing back. -/
theorem entry_of_seen {b : Bandit F} {past later : List (Event F)}
    (hseen : ∀ d, .gossip d ∈ later → ∃ d', .gossip d' ∈ past ∧ d'.observation = d.observation)
    {arm sender : String} {obs : PeerObservation F}
    (h : ((b.run (past ++ later)).table arm).get? sender = some obs) :
    ((b.run past).table arm).get? sender = some obs := by
  have hrun : b.run (past ++ later) = (b.run past).run later := List.foldl_append
  have hpeer : (b.run past).peer_id = b.peer_id := by
    clear h hrun hseen
    induction past generalizing b with
    | nil => rfl
    | cons e past ih => exact (ih (b := b.apply e)).trans (peer_id_apply b e)
  have hheld : (b.run (past ++ later)).bank.held (sender, arm) = some (obs.delivery arm sender) := by
    show (((b.run (past ++ later)).table arm).get? sender).map _ = _
    rw [h, Option.map_some]
  rw [hrun, bank_run, hpeer] at hheld
  have hold := Bank.held_of_old (fun d hd => ?_) hheld
  · obtain ⟨obs', hobs', hdelivery⟩ := Option.map_eq_some_iff.mp hold
    have hentry : obs' = obs := congrArg Delivery.entry hdelivery
    rw [← hentry]
    exact hobs'
  · -- the message has come before, so its stamp has been taken in
    obtain ⟨e, he, hon⟩ := List.mem_filterMap.mp hd
    cases e with
    | evict now => exact absurd (Option.some.inj hon) nofun
    | gossip d₀ =>
        by_cases hown : d₀.observation.sender = b.peer_id
        · rw [Event.onBank, if_pos hown] at hon
          exact absurd hon (Option.some_ne_none _).symm
        · rw [Event.onBank, if_neg hown] at hon
          cases hon
          obtain ⟨d', hd', hsame⟩ := hseen d he
          have hdeliver : .deliver d' ∈ past.filterMap (Event.onBank b.peer_id) := by
            refine List.mem_filterMap.mpr ⟨_, hd', ?_⟩
            rw [Event.onBank, hsame, if_neg hown]
          have hle := Bank.stamp_le_seen (A := addressing) (s := b.bank) hdeliver
          rw [← bank_run] at hle
          have hkey : addressing.key d' = addressing.key d := by
            show (d'.observation.sender, d'.observation.arm) = _
            rw [hsame]
            rfl
          have hstamp : addressing.stamp d' = addressing.stamp d := congrArg Observation.lamport hsame
          rw [hkey, hstamp] at hle
          exact hle

/-- **What any deliveries leave are the observations of highest stamp**, in whatever order
they come and however often, **and what has been evicted does not come back** with a message
that has been seen. -/
theorem observations_of_any_order [PyFloat F] (algorithm : Algorithm F) (arm_names : List String)
    (peer_id : String) :
    (∀ ds ds' : List (Delivery F),
      (∀ o, (∃ d ∈ ds, d.observation = o) ↔ ∃ d ∈ ds', d.observation = o) →
      (∀ d ∈ ds, 0 < d.observation.lamport) → Agreeing ds →
      SameObservations ((new algorithm arm_names peer_id).receiveAll ds)
          ((new algorithm arm_names peer_id).receiveAll ds') ∧
        ∀ arm sender o,
          ((new algorithm arm_names peer_id).receiveAll ds).observation arm sender = some o ↔
            sender ≠ peer_id ∧ Highest ds arm sender o) ∧
    ∀ (past later : List (Event F)),
      (∀ d, .gossip d ∈ later → ∃ d', .gossip d' ∈ past ∧ d'.observation = d.observation) →
      ∀ arm sender obs,
        (((new algorithm arm_names peer_id).run (past ++ later)).table arm).get? sender = some obs →
        (((new algorithm arm_names peer_id).run past).table arm).get? sender = some obs := by
  refine ⟨fun ds ds' hsame hpos hagree => ?_, fun past later hseen arm sender obs h =>
    entry_of_seen hseen h⟩
  have hpos' : ∀ d ∈ ds', 0 < d.observation.lamport :=
    forall_said hsame (φ := fun o => 0 < o.lamport) hpos
  have hhighest (arm sender : String) (o : Observation F) :
      Highest ds arm sender o ↔ Highest ds' arm sender o :=
    ⟨.said hsame, .said fun o => (hsame o).symm⟩
  have hobservation (arm sender : String) :
      ((new algorithm arm_names peer_id).receiveAll ds).observation arm sender =
        ((new algorithm arm_names peer_id).receiveAll ds').observation arm sender := by
    -- both observations are the highest of what has been said, which is the same on both sides
    refine Option.ext fun o => ?_
    rw [observation_eq_some_iff hpos hagree, observation_eq_some_iff hpos' (hagree.said hsame),
      hhighest]
  refine ⟨⟨fun arm => ?_, hobservation⟩, observation_eq_some_iff hpos hagree⟩
  rw [Bool.eq_iff_iff, isSome_table_iff, isSome_table_iff]
  simp only [hobservation]

/-- What one peer says of an arm under two stamps. -/
def demoDelivery (lamport : ℤ) (now : ℚ) : Delivery ℚ where
  observation :=
    { arm := "lightgbm", sender := "a1", pulls := lamport, total_reward := 0, alpha := 1, beta := 1,
      lamport }
  now

/-- Both messages, and an eviction when they have expired. -/
def demoEvicted : List (Event ℚ) :=
  [.gossip (demoDelivery 1 10), .gossip (demoDelivery 2 20), .evict 400]

/-- The later message first, and then both again; and both once more after they were evicted. -/
theorem observations_of_any_order_demo :
    SameObservations
      ((new (F := ℚ) .thompson ["lightgbm"] "1").receiveAll [demoDelivery 1 10, demoDelivery 2 20])
      ((new (F := ℚ) .thompson ["lightgbm"] "1").receiveAll
        [demoDelivery 2 30, demoDelivery 1 40, demoDelivery 2 50]) ∧
    (((new (F := ℚ) .thompson ["lightgbm"] "1").run (demoEvicted.take 2)).table
      "lightgbm").get? "a1" = some (demoDelivery 2 20).entry ∧
    (((new (F := ℚ) .thompson ["lightgbm"] "1").run (demoEvicted ++
      [.gossip (demoDelivery 2 410), .gossip (demoDelivery 1 420)])).table "lightgbm").get? "a1" =
        none := by
  obtain ⟨horder, hevicted⟩ := observations_of_any_order (F := ℚ) .thompson ["lightgbm"] "1"
  refine ⟨(horder [demoDelivery 1 10, demoDelivery 2 20]
    [demoDelivery 2 30, demoDelivery 1 40, demoDelivery 2 50] ?_ (by decide +kernel)
    (by unfold Agreeing; decide +kernel)).1, by decide +kernel, ?_⟩
  · intro o
    simp only [List.mem_cons, List.not_mem_nil, or_false, exists_eq_or_imp, exists_eq_left]
    constructor
    · rintro (rfl | rfl)
      · exact .inr (.inl rfl)
      · exact .inl rfl
    · rintro (rfl | rfl | rfl)
      · exact .inr rfl
      · exact .inl rfl
      · exact .inr rfl
  · have hnone : (((new (F := ℚ) .thompson ["lightgbm"] "1").run demoEvicted).table
        "lightgbm").get? "a1" = none := by decide +kernel
    refine Option.eq_none_iff_forall_not_mem.mpr fun obs hobs => ?_
    have hpast := hevicted demoEvicted [.gossip (demoDelivery 2 410), .gossip (demoDelivery 1 420)]
      (fun d hd => ?_) "lightgbm" "a1" obs hobs
    · cases hnone.symm.trans hpast
    · rcases List.mem_pair.mp hd with h | h
      · cases h
        exact ⟨demoDelivery 2 20, by simp [demoEvicted], rfl⟩
      · cases h
        exact ⟨demoDelivery 1 10, by simp [demoEvicted], rfl⟩

end Bandit

end Superorganism.Mab

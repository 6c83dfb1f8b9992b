/-
`seedbox-local-simulation/mock_sporestack.py`: the accounts of the simulated SporeStack.

The server is threaded. What one request, the invoice poller or the expiry reaper does
under `_lock` is one step, and the steps of different threads come in any order. A launch
takes two of them: it compares its cost with the balance in one, provisions a container
without the lock, and debits the cost in the other. Requests in between are `launching`.

A renewal compares and debits in one step. A launch does not, so two launches may pass on
the same balance, or a renewal may take the balance a launch has passed on
(`launched_on_one_balance`). What a token consumed stays within what was paid in as long
as every charge leaves the cost of the launches in flight covered (`Covered`,
`consumed_le_paid`). That the two sides of the ledger agree needs no such condition.
-/
import Mathlib.Data.Rat.Floor
import Mathlib.Logic.Relation
import Superorganism.Py

set_option autoImplicit false

open Superorganism.Py Relation

namespace Superorganism.SporeStack

/-! ## The state -/

structure TokenState where
  cents_paid_in : ℕ
  cents_consumed : ℕ
  server_ids : List String
  invoice_ids : List String
deriving DecidableEq, Repr

structure Invoice where
  token : String
  dollars_owed : ℕ
  sat_owed : ℤ
  paid_txid : Option String
  credited_at : Option ℚ
deriving DecidableEq, Repr

structure ServerState where
  token : String
  days : ℕ
  monthly_cost_cents : ℕ
  expiration_wall_ts : ℚ
deriving DecidableEq, Repr

/-- The dictionaries that `_lock` protects. -/
structure Mock where
  _tokens : PyDict String TokenState
  _invoices : PyDict String Invoice
  _servers : PyDict String ServerState

/-- The configuration that the sections read. -/
structure Config where
  MONTHLY_COST_CENTS : ℕ
  TIME_SCALE : ℚ
  BTC_USD : ℚ

/-! ## The sections -/

namespace Mock

variable (cfg : Config)

/-- What a token can still spend. -/
def available (tok : TokenState) : ℕ := tok.cents_paid_in - tok.cents_consumed

def get_token (m : Mock) (token : String) : Mock :=
  { m with _tokens := m._tokens.set token ⟨0, 0, [], []⟩ }

def _sat_owed_for_dollars (dollars : ℕ) : ℤ := ⌈(dollars * 100000000 : ℚ) / cfg.BTC_USD⌉

/-- The second section of `token_add`; the first one has found the token. -/
def token_add (m : Mock) (token invoice_id : String) (dollars : ℕ) : Mock :=
  match m._tokens.get? token with
  | none => m
  | some tok =>
    { m with
      _invoices := m._invoices.set invoice_id
        ⟨token, dollars, _sat_owed_for_dollars cfg dollars, none, none⟩
      _tokens := m._tokens.set token { tok with invoice_ids := tok.invoice_ids ++ [invoice_id] } }

def _credit_invoice (m : Mock) (invoice_id : String) (inv : Invoice) (txid : String) (now : ℚ) :
    Mock :=
  let m := { m with
    _invoices := m._invoices.set invoice_id { inv with
      paid_txid := some txid
      credited_at := some now } }
  match m._tokens.get? inv.token with
  | none => m
  | some tok =>
    { m with
      _tokens := m._tokens.set inv.token { tok with
        cents_paid_in := tok.cents_paid_in + inv.dollars_owed * 100 } }

/-- The section of the invoice poller: an invoice that another pass has credited stays. -/
def poll_invoice (m : Mock) (invoice_id txid : String) (now : ℚ) : Mock :=
  match m._invoices.get? invoice_id with
  | none => m
  | some inv => if inv.paid_txid = none then m._credit_invoice invoice_id inv txid now else m

def _reap_expired_server (m : Mock) (machine_id : String) : Mock :=
  match m._servers.get? machine_id with
  | none => m
  | some s =>
    let m := { m with _servers := m._servers.erase machine_id }
    match m._tokens.get? s.token with
    | none => m
    | some tok =>
      { m with
        _tokens := m._tokens.set s.token { tok with
          server_ids := tok.server_ids.erase machine_id } }

/-- The server that `_try_autorenew` renews and the token it debits; `none` when there is
no such server or its token is underfunded. -/
def renewal (m : Mock) (machine_id : String) : Option (ServerState × TokenState) :=
  match m._servers.get? machine_id with
  | none => none
  | some s =>
    match m._tokens.get? s.token with
    | none => none
    | some tok => if available tok < s.monthly_cost_cents then none else some (s, tok)

def _try_autorenew (m : Mock) (machine_id : String) (now : ℚ) : Bool × Mock :=
  match m.renewal machine_id with
  | none => (false, m)
  | some (s, tok) =>
    let cycle_wall_seconds := 30 * 86400 / cfg.TIME_SCALE
    (true, { m with
      _tokens := m._tokens.set s.token { tok with
        cents_consumed := tok.cents_consumed + s.monthly_cost_cents }
      -- from the old expiration if it is still to come, from now if the reaper is late
      _servers := m._servers.set machine_id { s with
        expiration_wall_ts := max s.expiration_wall_ts now + cycle_wall_seconds } })

/-- `int(MONTHLY_COST_CENTS * days / 30)`. -/
def launch_cost_cents (days : ℕ) : ℕ := cfg.MONTHLY_COST_CENTS * days / 30

/-- What the first section of `token_server_create` lets pass. -/
def can_launch (m : Mock) (token : String) (days : ℕ) : Bool :=
  match m._tokens.get? token with
  | none => false
  | some tok => decide (launch_cost_cents cfg days ≤ available tok)

/-- The second section of `token_server_create`. -/
def token_server_create (m : Mock) (token : String) (days : ℕ) (machine_id : String) (now : ℚ) :
    Mock :=
  let m := { m with
    _servers := m._servers.set machine_id
      ⟨token, days, cfg.MONTHLY_COST_CENTS, now + days * 86400 / cfg.TIME_SCALE⟩ }
  match m._tokens.get? token with
  | none => m
  | some tok =>
    { m with
      _tokens := m._tokens.set token { tok with
        server_ids := tok.server_ids ++ [machine_id]
        cents_consumed := tok.cents_consumed + launch_cost_cents cfg days } }

end Mock

/-! ## Runs -/

/-- A request that `token_server_create` has let pass and not yet answered. -/
structure Launch where
  token : String
  days : ℕ
deriving DecidableEq, Repr

/-- A launch or a renewal that a token was debited for. -/
structure Charge where
  token : String
  cents : ℕ
deriving DecidableEq, Repr

structure Sim where
  mock : Mock
  launching : List Launch
  charges : List Charge

/-- The server as it starts. -/
def Sim.initial : Sim := ⟨⟨PyDict.empty, PyDict.empty, PyDict.empty⟩, [], []⟩

/-- One locked section, or a failed provisioning. -/
inductive Action where
  | get_token (token : String)
  | token_add (token invoice_id : String) (dollars : ℕ)
  | poll_invoice (invoice_id txid : String) (received_sat : ℤ) (now : ℚ)
  | can_launch (launch : Launch)
  | launch_failed (launch : Launch)
  | token_server_create (launch : Launch) (machine_id : String) (now : ℚ)
  | autorenew (machine_id : String) (now : ℚ)
  | reap (machine_id : String)
deriving DecidableEq, Repr

section
variable (cfg : Config)

/-- When a section runs, and leaves its early exits behind. Ids are drawn at random: a new
one is not in use. -/
def Enabled (s : Sim) : Action → Prop
  | .get_token token => s.mock._tokens.get? token = none
  | .token_add token invoice_id dollars =>
    1 ≤ dollars ∧ (s.mock._tokens.get? token).isSome = true ∧
      s.mock._invoices.get? invoice_id = none
  | .poll_invoice invoice_id _ received_sat _ =>
    ∃ inv ∈ s.mock._invoices.get? invoice_id, inv.sat_owed ≤ received_sat
  | .can_launch launch => 1 ≤ launch.days ∧ s.mock.can_launch cfg launch.token launch.days = true
  | .launch_failed launch => launch ∈ s.launching
  | .token_server_create launch machine_id _ =>
    launch ∈ s.launching ∧ s.mock._servers.get? machine_id = none
  | .autorenew _ _ => True
  | .reap _ => True

/-- What a section charges. -/
def charge (s : Sim) : Action → List Charge
  | .token_server_create launch _ _ => [⟨launch.token, Mock.launch_cost_cents cfg launch.days⟩]
  | .autorenew machine_id _ =>
    match s.mock.renewal machine_id with
    | none => []
    | some (server, _) => [⟨server.token, server.monthly_cost_cents⟩]
  | _ => []

def nextMock (s : Sim) : Action → Mock
  | .get_token token => s.mock.get_token token
  | .token_add token invoice_id dollars => s.mock.token_add cfg token invoice_id dollars
  | .poll_invoice invoice_id txid _ now => s.mock.poll_invoice invoice_id txid now
  | .can_launch _ => s.mock
  | .launch_failed _ => s.mock
  | .token_server_create launch machine_id now =>
    s.mock.token_server_create cfg launch.token launch.days machine_id now
  | .autorenew machine_id now => (s.mock._try_autorenew cfg machine_id now).2
  | .reap machine_id => s.mock._reap_expired_server machine_id

def nextLaunching (s : Sim) : Action → List Launch
  | .can_launch launch => launch :: s.launching
  | .launch_failed launch => s.launching.erase launch
  | .token_server_create launch _ _ => s.launching.erase launch
  | _ => s.launching

def next (s : Sim) (a : Action) : Sim :=
  ⟨nextMock cfg s a, nextLaunching s a, charge cfg s a ++ s.charges⟩

/-- The states of the runs whose steps all meet the condition. -/
def Reachable (ok : Sim → Action → Prop) (s : Sim) : Prop :=
  ReflTransGen (fun s s' => ∃ a, Enabled cfg s a ∧ ok s a ∧ s' = next cfg s a) Sim.initial s

/-- What a list of charges comes to for a token. -/
def total (charges : List Charge) (token : String) : ℕ :=
  ((charges.filter (·.token = token)).map (·.cents)).sum

/-- What the launches in flight will charge a token. -/
def reserved (launching : List Launch) (token : String) : ℕ :=
  total (launching.map fun launch =>
    ⟨launch.token, Mock.launch_cost_cents cfg launch.days⟩) token

/-- A launch that passes, and a renewal, leave the launches in flight covered. -/
def Covered (s : Sim) : Action → Prop
  | .can_launch launch => ∀ tok ∈ s.mock._tokens.get? launch.token,
    Mock.launch_cost_cents cfg launch.days + reserved cfg s.launching launch.token ≤
      Mock.available tok
  | .autorenew machine_id _ => ∀ renewed ∈ s.mock.renewal machine_id,
    renewed.1.monthly_cost_cents + reserved cfg s.launching renewed.1.token ≤
      Mock.available renewed.2
  | _ => True

end

/-! ## The two sides of an account -/

abbrev Tokens := PyDict String TokenState

/-- What was paid in for a token; nothing for a token that does not exist. -/
def paid (tokens : Tokens) (token : String) : ℕ :=
  ((tokens.get? token).map TokenState.cents_paid_in).getD 0

def consumed (tokens : Tokens) (token : String) : ℕ :=
  ((tokens.get? token).map TokenState.cents_consumed).getD 0

theorem paid_of_get {tokens : Tokens} {token : String} {tok : TokenState}
    (h : tokens.get? token = some tok) : paid tokens token = tok.cents_paid_in := by
  rw [paid, h, Option.map_some, Option.getD_some]

theorem consumed_of_get {tokens : Tokens} {token : String} {tok : TokenState}
    (h : tokens.get? token = some tok) : consumed tokens token = tok.cents_consumed := by
  rw [consumed, h, Option.map_some, Option.getD_some]

theorem paid_set (tokens : Tokens) (token t : String) (tok : TokenState) :
    paid (tokens.set token tok) t = if t = token then tok.cents_paid_in else paid tokens t := by
  unfold paid
  rw [PyDict.get?_set]
  by_cases ht : t = token
  · rw [if_pos ht, if_pos ht, Option.map_some, Option.getD_some]
  · rw [if_neg ht, if_neg ht]

theorem consumed_set (tokens : Tokens) (token t : String) (tok : TokenState) :
    consumed (tokens.set token tok) t =
      if t = token then tok.cents_consumed else consumed tokens t := by
  unfold consumed
  rw [PyDict.get?_set]
  by_cases ht : t = token
  · rw [if_pos ht, if_pos ht, Option.map_some, Option.getD_some]
  · rw [if_neg ht, if_neg ht]

/-- How an account moves: more may be paid in, the charges are consumed, and no token is
lost. -/
structure Moves (tokens tokens' : Tokens) (charges : List Charge) : Prop where
  paid : ∀ t, SporeStack.paid tokens t ≤ SporeStack.paid tokens' t
  consumed : ∀ t, SporeStack.consumed tokens' t = SporeStack.consumed tokens t + total charges t
  known : ∀ t, (tokens.get? t).isSome = true → (tokens'.get? t).isSome = true

theorem total_cons (c : Charge) (charges : List Charge) (t : String) :
    total (c :: charges) t = (if t = c.token then c.cents else 0) + total charges t := by
  unfold total
  by_cases ht : t = c.token
  · rw [if_pos ht, List.filter_cons_of_pos (by simp [ht]), List.map_cons, List.sum_cons]
  · rw [if_neg ht, List.filter_cons_of_neg (by simp [Ne.symm ht]), Nat.zero_add]

theorem total_append (charges charges' : List Charge) (t : String) :
    total (charges ++ charges') t = total charges t + total charges' t := by
  rw [total, List.filter_append, List.map_append, List.sum_append]
  rfl

@[simp] theorem total_nil (t : String) : total [] t = 0 := rfl

theorem Moves.refl (tokens : Tokens) : Moves tokens tokens [] :=
  ⟨fun _ => le_rfl, fun _ => rfl, fun _ h => h⟩

/-- An entry is replaced by one that was paid in more and has consumed the charge. -/
theorem Moves.set {tokens : Tokens} {token : String} {tok tok' : TokenState} {cents : ℕ}
    (h : tokens.get? token = some tok) (hpaid : tok.cents_paid_in ≤ tok'.cents_paid_in)
    (hconsumed : tok'.cents_consumed = tok.cents_consumed + cents) :
    Moves tokens (tokens.set token tok') [⟨token, cents⟩] := by
  refine ⟨fun t => ?_, fun t => ?_, fun t ht => ?_⟩
  · rw [paid_set]
    by_cases heq : t = token
    · rw [if_pos heq, heq, paid_of_get h]
      exact hpaid
    · rw [if_neg heq]
  · rw [consumed_set, total_cons, total_nil]
    by_cases heq : t = token
    · rw [if_pos heq, if_pos heq, heq, consumed_of_get h, hconsumed, Nat.add_zero]
    · rw [if_neg heq, if_neg heq, Nat.add_zero]
  · rw [PyDict.get?_set]
    by_cases heq : t = token
    · rw [if_pos heq]
      rfl
    · rw [if_neg heq]
      exact ht

/-- An entry is replaced by one that has consumed as much. -/
theorem Moves.update {tokens : Tokens} {token : String} {tok tok' : TokenState}
    (h : tokens.get? token = some tok) (hpaid : tok.cents_paid_in ≤ tok'.cents_paid_in)
    (hconsumed : tok'.cents_consumed = tok.cents_consumed) :
    Moves tokens (tokens.set token tok') [] := by
  have hmoves : Moves tokens (tokens.set token tok') [⟨token, 0⟩] :=
    Moves.set h hpaid hconsumed
  refine ⟨hmoves.paid, fun t => ?_, hmoves.known⟩
  rw [hmoves.consumed, total_cons, ite_self, Nat.zero_add]

/-! ## The sections, one by one -/

variable {cfg : Config}

theorem moves_get_token {m : Mock} {token : String} (hnew : m._tokens.get? token = none) :
    Moves m._tokens (m.get_token token)._tokens [] := by
  unfold Mock.get_token
  dsimp only
  refine ⟨fun t => ?_, fun t => ?_, fun t ht => ?_⟩
  · rw [paid_set]
    by_cases heq : t = token
    · rw [if_pos heq, heq, paid, hnew]
      exact Nat.le_refl 0
    · rw [if_neg heq]
  · rw [consumed_set, total_nil, Nat.add_zero]
    by_cases heq : t = token
    · rw [if_pos heq, heq, consumed, hnew]
      rfl
    · rw [if_neg heq]
  · rw [PyDict.get?_set]
    by_cases heq : t = token
    · rw [if_pos heq]
      rfl
    · rw [if_neg heq]
      exact ht

theorem moves_token_add (m : Mock) (token invoice_id : String) (dollars : ℕ) :
    Moves m._tokens (m.token_add cfg token invoice_id dollars)._tokens [] := by
  unfold Mock.token_add
  cases htok : m._tokens.get? token with
  | none => exact Moves.refl _
  | some tok => exact Moves.update htok le_rfl rfl

theorem moves_credit_invoice (m : Mock) (invoice_id : String) (inv : Invoice) (txid : String)
    (now : ℚ) : Moves m._tokens (m._credit_invoice invoice_id inv txid now)._tokens [] := by
  unfold Mock._credit_invoice
  dsimp only
  cases htok : m._tokens.get? inv.token with
  | none => exact Moves.refl _
  | some tok => exact Moves.update htok (Nat.le_add_right ..) rfl

theorem moves_poll_invoice (m : Mock) (invoice_id txid : String) (now : ℚ) :
    Moves m._tokens (m.poll_invoice invoice_id txid now)._tokens [] := by
  unfold Mock.poll_invoice
  cases m._invoices.get? invoice_id with
  | none => exact Moves.refl _
  | some inv =>
      dsimp only
      by_cases hunpaid : inv.paid_txid = none
      · rw [if_pos hunpaid]
        exact moves_credit_invoice m invoice_id inv txid now
      · rw [if_neg hunpaid]
        exact Moves.refl _

theorem moves_reap (m : Mock) (machine_id : String) :
    Moves m._tokens (m._reap_expired_server machine_id)._tokens [] := by
  unfold Mock._reap_expired_server
  cases m._servers.get? machine_id with
  | none => exact Moves.refl _
  | some server =>
      dsimp only
      cases htok : m._tokens.get? server.token with
      | none => exact Moves.refl _
      | some tok => exact Moves.update htok le_rfl rfl

theorem moves_token_server_create {m : Mock} {token : String}
    (hknown : (m._tokens.get? token).isSome = true) (days : ℕ) (machine_id : String) (now : ℚ) :
    Moves m._tokens (m.token_server_create cfg token days machine_id now)._tokens
      [⟨token, Mock.launch_cost_cents cfg days⟩] := by
  obtain ⟨tok, htok⟩ := Option.isSome_iff_exists.mp hknown
  unfold Mock.token_server_create
  dsimp only
  rw [htok]
  exact Moves.set htok le_rfl rfl

/-- What a renewal finds. -/
theorem renewal_eq_some {m : Mock} {machine_id : String} {server : ServerState} {tok : TokenState}
    (h : m.renewal machine_id = some (server, tok)) :
    m._tokens.get? server.token = some tok ∧
      server.monthly_cost_cents ≤ Mock.available tok := by
  unfold Mock.renewal at h
  cases hserver : m._servers.get? machine_id with
  | none =>
      rw [hserver] at h
      exact nomatch h
  | some server' =>
      rw [hserver] at h
      dsimp only at h
      cases htok : m._tokens.get? server'.token with
      | none =>
          rw [htok] at h
          exact nomatch h
      | some tok' =>
          rw [htok] at h
          dsimp only at h
          by_cases hshort : Mock.available tok' < server'.monthly_cost_cents
          · rw [if_pos hshort] at h
            exact nomatch h
          · rw [if_neg hshort] at h
            cases h
            exact ⟨htok, not_lt.mp hshort⟩

theorem moves_autorenew (s : Sim) (machine_id : String) (now : ℚ) :
    Moves s.mock._tokens (s.mock._try_autorenew cfg machine_id now).2._tokens
      (charge cfg s (.autorenew machine_id now)) := by
  unfold Mock._try_autorenew charge
  dsimp only
  cases hrenewal : s.mock.renewal machine_id with
  | none => exact Moves.refl _
  | some found =>
      obtain ⟨server, tok⟩ := found
      dsimp only
      exact Moves.set (renewal_eq_some hrenewal).1 le_rfl rfl

/-! ## A step -/

/-- Requests in flight have found their token. -/
def Known (s : Sim) : Prop :=
  ∀ launch ∈ s.launching, (s.mock._tokens.get? launch.token).isSome = true

/-- **What a step does to the accounts**: it debits its charges, and nothing else. -/
theorem moves_next {s : Sim} {a : Action} (h : Enabled cfg s a) (hknown : Known s) :
    Moves s.mock._tokens (next cfg s a).mock._tokens (charge cfg s a) := by
  cases a with
  | get_token token => exact moves_get_token h
  | token_add token invoice_id dollars => exact moves_token_add s.mock token invoice_id dollars
  | poll_invoice invoice_id txid received_sat now =>
      exact moves_poll_invoice s.mock invoice_id txid now
  | can_launch launch => exact Moves.refl _
  | launch_failed launch => exact Moves.refl _
  | token_server_create launch machine_id now =>
      exact moves_token_server_create (hknown launch h.1) launch.days machine_id now
  | autorenew machine_id now => exact moves_autorenew s machine_id now
  | reap machine_id => exact moves_reap s.mock machine_id

/-- The token of a launch that passes, and its balance. -/
theorem can_launch_eq_true {m : Mock} {token : String} {days : ℕ}
    (h : m.can_launch cfg token days = true) :
    ∃ tok, m._tokens.get? token = some tok ∧
      Mock.launch_cost_cents cfg days ≤ Mock.available tok := by
  unfold Mock.can_launch at h
  cases htok : m._tokens.get? token with
  | none =>
      rw [htok] at h
      exact absurd h Bool.false_ne_true
  | some tok =>
      rw [htok] at h
      exact ⟨tok, rfl, of_decide_eq_true h⟩

theorem known_next {s : Sim} {a : Action} (h : Enabled cfg s a) (hknown : Known s) :
    Known (next cfg s a) := by
  have hkept := (moves_next h hknown).known
  intro launch hmem
  apply hkept
  by_cases hold : launch ∈ s.launching
  · exact hknown launch hold
  cases a with
  | can_launch passed =>
      rcases List.mem_cons.mp hmem with rfl | hmem
      · obtain ⟨tok, htok, -⟩ := can_launch_eq_true h.2
        rw [htok]
        rfl
      · exact absurd hmem hold
  | launch_failed failed => exact absurd (List.mem_of_mem_erase hmem) hold
  | token_server_create launched machine_id now => exact absurd (List.mem_of_mem_erase hmem) hold
  | get_token token => exact absurd hmem hold
  | token_add token invoice_id dollars => exact absurd hmem hold
  | poll_invoice invoice_id txid received_sat now => exact absurd hmem hold
  | autorenew machine_id now => exact absurd hmem hold
  | reap machine_id => exact absurd hmem hold

theorem reserved_cons (launch : Launch) (launching : List Launch) (t : String) :
    reserved cfg (launch :: launching) t =
      (if t = launch.token then Mock.launch_cost_cents cfg launch.days else 0) +
        reserved cfg launching t :=
  total_cons _ _ t

theorem reserved_erase {launch : Launch} {launching : List Launch} (h : launch ∈ launching)
    (t : String) :
    reserved cfg launching t =
      (if t = launch.token then Mock.launch_cost_cents cfg launch.days else 0) +
        reserved cfg (launching.erase launch) t := by
  have hperm := List.perm_cons_erase h
  rw [← reserved_cons]
  unfold reserved total
  exact (((hperm.map _).filter _).map _).sum_eq

/-- What is consumed or promised to a launch in flight was paid in. -/
def Solvent (cfg : Config) (s : Sim) : Prop :=
  ∀ t, consumed s.mock._tokens t + reserved cfg s.launching t ≤ paid s.mock._tokens t

/-- **A step that leaves the launches in flight covered keeps every account solvent.** A
launch moves its cost from the promises to the charges; only passing one and renewing add
to the sum of both. -/
theorem solvent_next {s : Sim} {a : Action} (h : Enabled cfg s a) (hknown : Known s)
    (hcovered : Covered cfg s a) (hsolvent : Solvent cfg s) : Solvent cfg (next cfg s a) := by
  intro t
  have hmoves := moves_next h hknown
  have hpaid := hmoves.paid t
  have hconsumed := hmoves.consumed t
  have hs := hsolvent t
  have hframe : charge cfg s a = [] → nextLaunching s a = s.launching →
      consumed (next cfg s a).mock._tokens t + reserved cfg (next cfg s a).launching t ≤
        paid (next cfg s a).mock._tokens t := by
    intro hcharge hlaunching
    rw [hcharge, total_nil] at hconsumed
    have hreserved : (next cfg s a).launching = s.launching := hlaunching
    rw [hreserved]
    omega
  cases a with
  | get_token token => exact hframe rfl rfl
  | token_add token invoice_id dollars => exact hframe rfl rfl
  | poll_invoice invoice_id txid received_sat now => exact hframe rfl rfl
  | reap machine_id => exact hframe rfl rfl
  | can_launch launch =>
      -- a new promise, for which the condition leaves room
      obtain ⟨tok, htok, -⟩ := can_launch_eq_true h.2
      have hcover := hcovered tok htok
      rw [Mock.available, ← paid_of_get htok, ← consumed_of_get htok] at hcover
      have hreserved : reserved cfg (next cfg s (.can_launch launch)).launching t = _ :=
        reserved_cons launch s.launching t
      have htokens : (next cfg s (.can_launch launch)).mock._tokens = s.mock._tokens := rfl
      rw [hreserved, htokens]
      by_cases heq : t = launch.token
      · rw [if_pos heq, heq]
        rw [heq] at hs
        omega
      · rw [if_neg heq]
        omega
  | launch_failed launch =>
      -- a promise is taken back
      have hreserved : reserved cfg s.launching t = _ := reserved_erase h t
      have hlaunching : (next cfg s (.launch_failed launch)).launching =
        s.launching.erase launch := rfl
      have htokens : (next cfg s (.launch_failed launch)).mock._tokens = s.mock._tokens := rfl
      rw [hlaunching, htokens]
      omega
  | token_server_create launch machine_id now =>
      -- a promise becomes a charge
      have hreserved : reserved cfg s.launching t = _ := reserved_erase h.1 t
      have hlaunching : (next cfg s (.token_server_create launch machine_id now)).launching =
        s.launching.erase launch := rfl
      have hcharge : total (charge cfg s (.token_server_create launch machine_id now)) t =
          if t = launch.token then Mock.launch_cost_cents cfg launch.days else 0 := by
        rw [charge, total_cons, total_nil, Nat.add_zero]
      rw [hlaunching]
      omega
  | autorenew machine_id now =>
      cases hrenewal : s.mock.renewal machine_id with
      | none => exact hframe (by rw [charge, hrenewal]) rfl
      | some found =>
          -- a charge that was not promised; the condition asks room for it beside the promises
          obtain ⟨server, tok⟩ := found
          have hcover := hcovered _ hrenewal
          obtain ⟨htok, -⟩ := renewal_eq_some hrenewal
          rw [Mock.available, ← paid_of_get htok, ← consumed_of_get htok] at hcover
          have hcharge : charge cfg s (.autorenew machine_id now) =
              [⟨server.token, server.monthly_cost_cents⟩] := by rw [charge, hrenewal]
          rw [hcharge, total_cons, total_nil, Nat.add_zero] at hconsumed
          dsimp only at hcover hconsumed
          have hlaunching : (next cfg s (.autorenew machine_id now)).launching = s.launching := rfl
          rw [hlaunching]
          by_cases heq : t = server.token
          · rw [if_pos heq, heq] at hconsumed
            rw [heq] at hs hpaid ⊢
            omega
          · rw [if_neg heq] at hconsumed
            omega

/-! ## Runs -/

theorem known_of_reachable {ok : Sim → Action → Prop} {s : Sim} (h : Reachable cfg ok s) :
    Known s := by
  induction h with
  | refl => exact fun launch hmem => nomatch hmem
  | tail _ hstep ih =>
      obtain ⟨a, henabled, -, rfl⟩ := hstep
      exact known_next henabled ih

/-- The two sides of the ledger agree in every run. -/
theorem consumed_eq_total {ok : Sim → Action → Prop} {s : Sim} (h : Reachable cfg ok s)
    (t : String) : consumed s.mock._tokens t = total s.charges t := by
  induction h with
  | refl => rfl
  | @tail s₁ s₂ hrun hstep ih =>
      obtain ⟨a, henabled, -, rfl⟩ := hstep
      have hcharges : (next cfg s₁ a).charges = charge cfg s₁ a ++ s₁.charges := rfl
      rw [(moves_next henabled (known_of_reachable hrun)).consumed t, hcharges, total_append, ih,
        Nat.add_comm]

theorem solvent_of_reachable {s : Sim} (h : Reachable cfg (Covered cfg) s) : Solvent cfg s := by
  induction h with
  | refl => exact fun t => Nat.le_refl 0
  | tail hrun hstep ih =>
      obtain ⟨a, henabled, hcovered, rfl⟩ := hstep
      exact solvent_next henabled (known_of_reachable hrun) hcovered ih

/-- **The accounts of the simulated SporeStack.** In every run, what a token consumed is
the sum of its launches and renewals. In a run in which every launch that passes, and every
renewal, leaves the launches in flight covered, it is at most what was paid in. -/
theorem consumed_le_paid (cfg : Config) :
    (∀ s, Reachable cfg (fun _ _ => True) s → ∀ token, ∀ tok ∈ s.mock._tokens.get? token,
      tok.cents_consumed = total s.charges token) ∧
    (∀ s, Reachable cfg (Covered cfg) s → ∀ token, ∀ tok ∈ s.mock._tokens.get? token,
      tok.cents_consumed ≤ tok.cents_paid_in) := by
  refine ⟨fun s h token tok htok => ?_, fun s h token tok htok => ?_⟩
  · rw [← consumed_of_get htok]
    exact consumed_eq_total h token
  · have hsolvent := solvent_of_reachable h token
    rw [consumed_of_get htok, paid_of_get htok] at hsolvent
    omega

/-! ## Two launches on one balance -/

instance (s : Sim) : (a : Action) → Decidable (Enabled cfg s a)
  | .get_token token => inferInstanceAs (Decidable (s.mock._tokens.get? token = none))
  | .token_add token invoice_id dollars => inferInstanceAs (Decidable (1 ≤ dollars ∧
      (s.mock._tokens.get? token).isSome = true ∧ s.mock._invoices.get? invoice_id = none))
  | .poll_invoice invoice_id _ received_sat _ => inferInstanceAs (Decidable
      (∃ inv ∈ s.mock._invoices.get? invoice_id, inv.sat_owed ≤ received_sat))
  | .can_launch launch => inferInstanceAs (Decidable
      (1 ≤ launch.days ∧ s.mock.can_launch cfg launch.token launch.days = true))
  | .launch_failed launch => inferInstanceAs (Decidable (launch ∈ s.launching))
  | .token_server_create launch machine_id _ => inferInstanceAs (Decidable
      (launch ∈ s.launching ∧ s.mock._servers.get? machine_id = none))
  | .autorenew _ _ => inferInstanceAs (Decidable True)
  | .reap _ => inferInstanceAs (Decidable True)

/-- The condition on a list of actions that they can be taken one after the other. -/
def Allowed (cfg : Config) (ok : Sim → Action → Prop) : Sim → List Action → Prop
  | _, [] => True
  | s, a :: actions => Enabled cfg s a ∧ ok s a ∧ Allowed cfg ok (next cfg s a) actions

instance (ok : Sim → Action → Prop) [∀ s a, Decidable (ok s a)] :
    (s : Sim) → (actions : List Action) → Decidable (Allowed cfg ok s actions)
  | _, [] => isTrue trivial
  | s, a :: actions =>
    have := instDecidableAllowed ok (next cfg s a) actions
    inferInstanceAs (Decidable (Enabled cfg s a ∧ ok s a ∧ Allowed cfg ok (next cfg s a) actions))

instance (s : Sim) : (a : Action) → Decidable (Covered cfg s a)
  | .can_launch launch => inferInstanceAs (Decidable (∀ tok ∈ s.mock._tokens.get? launch.token,
      Mock.launch_cost_cents cfg launch.days + reserved cfg s.launching launch.token ≤
        Mock.available tok))
  | .autorenew machine_id _ => inferInstanceAs (Decidable (∀ renewed ∈ s.mock.renewal machine_id,
      renewed.1.monthly_cost_cents + reserved cfg s.launching renewed.1.token ≤
        Mock.available renewed.2))
  | .get_token _ => inferInstanceAs (Decidable True)
  | .token_add _ _ _ => inferInstanceAs (Decidable True)
  | .poll_invoice _ _ _ _ => inferInstanceAs (Decidable True)
  | .launch_failed _ => inferInstanceAs (Decidable True)
  | .token_server_create _ _ _ => inferInstanceAs (Decidable True)
  | .reap _ => inferInstanceAs (Decidable True)

theorem Reachable.play {ok : Sim → Action → Prop} {s : Sim} (h : Reachable cfg ok s)
    {actions : List Action} (hallowed : Allowed cfg ok s actions) :
    Reachable cfg ok (actions.foldl (next cfg) s) := by
  induction actions generalizing s with
  | nil => exact h
  | cons a actions ih =>
      obtain ⟨henabled, hok, hrest⟩ := hallowed
      exact ih (h.tail ⟨a, henabled, hok, rfl⟩) hrest

/-- The configuration of the simulation. -/
def Config.default : Config := ⟨3000, 1000, 50000⟩

/-- A token is paid 30 dollars, the price of one server for a month. -/
def demoPayment : List Action :=
  [.get_token "t", .token_add "t" "i" 30, .poll_invoice "i" "txid" 60000 0]

/-- The balance is compared twice before it is debited. -/
def demoRace : List Action := demoPayment ++
  [.can_launch ⟨"t", 30⟩, .can_launch ⟨"t", 30⟩, .token_server_create ⟨"t", 30⟩ "m-1" 1,
    .token_server_create ⟨"t", 30⟩ "m-2" 1]

theorem launched_on_one_balance :
    ∃ s, Reachable Config.default (fun _ _ => True) s ∧
      s.mock._tokens.get? "t" = some ⟨3000, 6000, ["m-1", "m-2"], ["i"]⟩ :=
  ⟨demoRace.foldl (next Config.default) Sim.initial,
    Reachable.play ReflTransGen.refl (by decide +kernel), by decide +kernel⟩

/-- Two launches in flight on a balance of 60 dollars that covers both, one of them for half the
time. -/
theorem consumed_le_paid_demo :
    ∃ s : Sim, s.mock._tokens.get? "t" = some ⟨6000, 4500, ["m-1", "m-2"], ["i", "j"]⟩ ∧
      4500 ≤ 6000 ∧ 4500 = total s.charges "t" := by
  let actions := demoPayment ++ [.token_add "t" "j" 30, .poll_invoice "j" "tx-2" 60000 1,
    .can_launch ⟨"t", 30⟩, .can_launch ⟨"t", 15⟩, .token_server_create ⟨"t", 15⟩ "m-1" 2,
    .token_server_create ⟨"t", 30⟩ "m-2" 2]
  let s := actions.foldl (next Config.default) Sim.initial
  have htok : s.mock._tokens.get? "t" = some ⟨6000, 4500, ["m-1", "m-2"], ["i", "j"]⟩ := by
    decide +kernel
  have hcovered : Reachable Config.default (Covered Config.default) s :=
    Reachable.play ReflTransGen.refl (by decide +kernel)
  have hrun : Reachable Config.default (fun _ _ => True) s :=
    Reachable.play ReflTransGen.refl (by decide +kernel)
  exact ⟨s, htok, (consumed_le_paid Config.default).2 s hcovered "t" _ htok,
    (consumed_le_paid Config.default).1 s hrun "t" _ htok⟩

end Superorganism.SporeStack

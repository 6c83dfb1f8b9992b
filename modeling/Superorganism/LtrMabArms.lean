/-
The arms of a community.

The active and the excluded models are two halves of the arms of the bandit, whatever
happens (`Arms`): an arm comes in with its scores and starts active, along whichever of the
three paths it comes, and an exclusion only moves it to the other side. An exclusion check
leaves the arm whose lower bound it found to be the highest, so there is always an active
arm (`arms_of_run`), and a query finds the scores of the arm it asks
(`process_query_scored`).
-/
import Superorganism.LtrMab

set_option autoImplicit false

open Superorganism.Py Superorganism.Mab

namespace Superorganism.LtrMab

variable {F : Type}

/-! ## The invariant -/

/-- The arms are the active and the excluded models; every active one has scores, and there
is one. -/
structure Arms (s : Sys F) : Prop where
  disjoint : Disjoint s.community.active_models s.community.excluded_models
  arms : ∀ a, a ∈ s.community.active_models ∪ s.community.excluded_models ↔
    (s.community.bandit.own.get? a).isSome
  scored : ∀ a ∈ s.community.active_models, (s.state.model_scores.get? a).isSome
  nonempty : s.community.active_models.Nonempty

/-- One system follows another: the invariant holds on, and what is excluded stays so. -/
structure Follows (s s' : Sys F) : Prop where
  arms : Arms s → Arms s'
  excluded : s.community.excluded_models ⊆ s'.community.excluded_models

theorem Follows.refl (s : Sys F) : Follows s s := ⟨id, subset_refl _⟩

theorem Follows.trans {s s' s'' : Sys F} (h : Follows s s') (h' : Follows s' s'') :
    Follows s s'' :=
  ⟨fun ha => h'.arms (h.arms ha), h.excluded.trans h'.excluded⟩

/-- What leaves the sets and the arms alone and forgets no scores. -/
theorem follows_of_same {s s' : Sys F}
    (hactive : s'.community.active_models = s.community.active_models)
    (hexcluded : s'.community.excluded_models = s.community.excluded_models)
    (hown : ∀ a, (s'.community.bandit.own.get? a).isSome = (s.community.bandit.own.get? a).isSome)
    (hscores : ∀ a, (s.state.model_scores.get? a).isSome → (s'.state.model_scores.get? a).isSome) :
    Follows s s' := by
  refine ⟨fun h => ⟨?_, fun a => ?_, fun a ha => ?_, ?_⟩, hexcluded ▸ subset_refl _⟩
  · rw [hactive, hexcluded]
    exact h.disjoint
  · rw [hactive, hexcluded, hown]
    exact h.arms a
  · rw [hactive] at ha
    exact hscores a (h.scored a ha)
  · rw [hactive]
    exact h.nonempty

/-! ## What no event takes away -/

/-- Replacing the entry of an arm adds none. -/
theorem isSome_set_own {own : PyDict String (PeerObservation F)} {name : String}
    (h : (own.get? name).isSome) (obs : PeerObservation F) (a : String) :
    ((own.set name obs).get? a).isSome = (own.get? a).isSome := by
  rw [PyDict.get?_set]
  by_cases ha : a = name
  · rw [if_pos ha, ha, h]
    rfl
  · rw [if_neg ha]

theorem own_receive (b : Bandit F) (d : Delivery F) : (b.receive d).1.own = b.own := by
  rcases Bandit.receive_cases b d with h | ⟨h, -, -⟩
  · rw [h]
  · rw [h]
    rfl

theorem scores_learn {state : SharedState F} {a : String} (name : String) (scores : Scores F)
    (loaded : Bool) (h : (state.model_scores.get? a).isSome) :
    ((state.learn name scores loaded).model_scores.get? a).isSome := by
  have hget : (state.learn name scores loaded).model_scores.get? a =
      if a = name then some scores else state.model_scores.get? a := PyDict.get?_set ..
  rw [hget]
  split
  · rfl
  · exact h

theorem follows_learn (s : Sys F) (name : String) (scores : Scores F) (loaded : Bool) :
    Follows s { s with state := s.state.learn name scores loaded } :=
  follows_of_same rfl rfl (fun _ => rfl) fun _ h => scores_learn name scores loaded h

theorem follows_announced (s : Sys F) (announced downloading : Finset String) :
    Follows s { s with community := { s.community with
      _announced_models := announced, _downloading := downloading } } :=
  follows_of_same rfl rfl (fun _ => rfl) fun _ h => h

theorem follows_send_gossip (crypto : Crypto F) (s : Sys F) (draws : Draws F)
    (ad : String → Advertisement) : Follows s (send_gossip crypto s draws ad).1 := by
  unfold send_gossip
  split
  · exact .refl s
  · dsimp only
    split
    · exact .refl s
    · exact follows_of_same rfl rfl (fun _ => rfl) fun _ h => h

/-! ## New arms -/

section

variable [PyFloat F]

theorem own_add_arm (b : Bandit F) (name a : String) :
    ((b.add_arm name).own.get? a).isSome ↔ a = name ∨ (b.own.get? a).isSome := by
  unfold Bandit.add_arm
  by_cases h : (b.own.get? name).isSome = true
  · rw [if_pos h]
    constructor
    · exact .inr
    · rintro (rfl | ha)
      · exact h
      · exact ha
  · rw [if_neg h]
    dsimp only
    rw [PyDict.get?_set]
    by_cases ha : a = name
    · rw [if_pos ha]
      exact ⟨fun _ => .inl ha, fun _ => rfl⟩
    · rw [if_neg ha]
      exact ⟨.inr, fun hor => hor.resolve_left ha⟩

theorem own_update {b b' : Bandit F} {now : ℚ} {name : String} {reward : F}
    (h : update b now name reward = .ok b') (a : String) :
    (b'.own.get? a).isSome = (b.own.get? a).isSome := by
  unfold update at h
  split at h
  · unfold UCB1.update at h
    split at h
    · cases h
    · rename_i own hown
      cases h
      exact isSome_set_own (by rw [hown]; rfl) _ a
  · unfold ThompsonSampling.update at h
    split at h
    · cases h
    · rename_i own hown
      cases h
      exact isSome_set_own (by rw [hown]; rfl) _ a

/-- The system with a new arm that is active. -/
def withArm (s : Sys F) (name : String) : Sys F :=
  { s with community := { s.community with
    bandit := s.community.bandit.add_arm name
    active_models := insert name s.community.active_models } }

theorem follows_withArm {s : Sys F} {name : String}
    (hnew : ¬ (s.community.bandit.own.get? name).isSome)
    (hscores : (s.state.model_scores.get? name).isSome) : Follows s (withArm s name) := by
  refine ⟨fun h => ⟨?_, fun a => ?_, fun a ha => ?_, Finset.insert_nonempty ..⟩, subset_refl _⟩
  · refine Finset.disjoint_insert_left.mpr ⟨fun hmem => hnew ?_, h.disjoint⟩
    exact (h.arms name).mp (Finset.mem_union_right _ hmem)
  · show a ∈ insert name s.community.active_models ∪ s.community.excluded_models ↔
      ((s.community.bandit.add_arm name).own.get? a).isSome
    rw [own_add_arm, ← h.arms a, Finset.insert_union, Finset.mem_insert]
  · rcases Finset.mem_insert.mp ha with rfl | hmem
    · exact hscores
    · exact h.scored a hmem

theorem follows_add_model (s : Sys F) (model_name : String) :
    Follows s (add_model s model_name) := by
  unfold add_model
  by_cases hown : (s.community.bandit.own.get? model_name).isSome = true
  · rw [if_pos hown]
    exact .refl s
  · rw [if_neg hown]
    by_cases hscores : (s.state.model_scores.get? model_name).isNone = true
    · rw [if_pos hscores]
      exact .refl s
    · rw [if_neg hscores]
      exact follows_withArm hown (by simpa [Option.isSome_iff_ne_none] using hscores)

theorem follows_alias (s : Sys F) (unique_name : String) :
    Follows s (_try_alias_to_local_base s unique_name).1 := by
  unfold _try_alias_to_local_base
  by_cases hdisable : s.state.disable_alias = true
  · rw [if_pos hdisable]
    exact .refl s
  · rw [if_neg hdisable]
    cases rsplit_base unique_name with
    | none => exact .refl s
    | some base =>
        dsimp only
        cases s.state.model_scores.get? base with
        | none => exact .refl s
        | some scores =>
            dsimp only
            by_cases hmodel : base ∉ s.state.models
            · rw [if_pos hmodel]
              exact .refl s
            · rw [if_neg hmodel]
              exact (follows_learn s unique_name scores true).trans (follows_add_model _ _)

theorem follows_start_download (s : Sys F) (arm_name : String) :
    Follows s (_start_download_if_idle s arm_name) := by
  unfold _start_download_if_idle
  by_cases hown : (s.community.bandit.own.get? arm_name).isSome = true
  · rw [if_pos hown]
    exact follows_announced s _ _
  · rw [if_neg hown]
    by_cases hdownloading : arm_name ∈ s.community._downloading
    · rw [if_pos hdownloading]
      exact .refl s
    · rw [if_neg hdownloading]
      have halias := follows_alias s arm_name
      generalize _try_alias_to_local_base s arm_name = result at halias
      obtain ⟨aliased, done⟩ := result
      cases done with
      | true => exact halias.trans (follows_announced aliased _ _)
      | false => exact follows_announced s _ _

theorem follows_download (s : Sys F) (model_name : String) (scores : Option (Scores F)) :
    Follows s (_download_and_materialize s model_name scores) := by
  unfold _download_and_materialize
  by_cases hdownloading : model_name ∉ s.community._downloading
  · rw [if_pos hdownloading]
    exact .refl s
  · rw [if_neg hdownloading]
    cases scores with
    | none => exact follows_announced s _ _
    | some scores =>
        have hadded := (follows_learn s model_name scores true).trans
          (follows_add_model { s with state := s.state.learn model_name scores true } model_name)
        exact hadded.trans (follows_announced _ _ _)

theorem follows_propose (s : Sys F) (base : String) (random : List UInt8) :
    Follows s (propose_model s base random) := by
  have hregister (state : SharedState F) (hstate : Follows s { s with state })
      (hscores : (state.model_scores.get? (base ++ "@" ++ Bytes.hex random)).isSome) :
      Follows s (if (s.community.bandit.own.get? (base ++ "@" ++ Bytes.hex random)).isSome then
        { s with state } else withArm { s with state } (base ++ "@" ++ Bytes.hex random)) := by
    by_cases hown : (s.community.bandit.own.get? (base ++ "@" ++ Bytes.hex random)).isSome = true
    · rw [if_pos hown]
      exact hstate
    · rw [if_neg hown]
      exact hstate.trans (follows_withArm hown hscores)
  unfold propose_model
  dsimp only
  by_cases hknown : (s.state.model_scores.get? (base ++ "@" ++ Bytes.hex random)).isSome = true
  · rw [if_pos hknown]
    exact hregister s.state (.refl s) hknown
  -- a proposal of a name that is new takes over the scores of its base, or is dropped
  · rw [if_neg hknown]
    cases s.state.model_scores.get? base with
    | none => exact .refl s
    | some scores =>
        refine hregister _ (follows_learn s _ scores _) ?_
        have hget : ((s.state.learn (base ++ "@" ++ Bytes.hex random) scores
            (decide (base ∈ s.state.models))).model_scores.get?
              (base ++ "@" ++ Bytes.hex random)) = some scores :=
          (PyDict.get?_set ..).trans (if_pos rfl)
        rw [hget]
        rfl

/-! ## Queries and gossip -/

theorem follows_process_query {s s' : Sys F} {draws : Draws F} {clock : ℕ → ℚ} {now : ℚ}
    {query_idx : ℕ} {answer : Option (String × F × F × F)}
    (h : process_query s draws clock now query_idx = .ok (s', answer)) : Follows s s' := by
  unfold process_query at h
  split at h
  · cases h
    exact .refl s
  · obtain ⟨selected, -, hrest⟩ := bind_eq_ok.mp h
    split at hrest
    · cases hrest
    · obtain ⟨bandit, hupdate, hok⟩ := bind_eq_ok.mp hrest
      cases hok
      exact follows_of_same rfl rfl (own_update hupdate) fun _ h => h

theorem follows_on_gossip (crypto : Crypto F) (s : Sys F) (now : ℚ) (payload : GossipMessage F) :
    Follows s (on_gossip crypto s now payload) := by
  unfold on_gossip
  dsimp only
  split
  · exact .refl s
  · split
    · exact .refl s
    · split
      · -- a known arm: only the tables change
        refine follows_of_same rfl rfl (fun a => ?_) fun _ h => h
        dsimp only
        rw [own_receive]
      · split
        · exact .refl s
        · split
          · exact .refl s
          · -- an unknown arm is announced, and comes by an alias if by anything
            exact (follows_announced s _ _).trans (follows_start_download _ _)

/-- The arm selected is active. -/
theorem select_arm_mem {b : Bandit F} {draws : Draws F} {clock : ℕ → ℚ} {active : Finset String}
    {a : String} (h : (select_arm b draws clock active).result = .ok a) : a ∈ active := by
  unfold select_arm at h
  split at h
  · exact (Finset.mem_sort _).mp (UCB1.select_arm_mem h)
  · exact (Finset.mem_sort _).mp (ThompsonSampling.select_arm_mem h)

theorem update_of_isSome {b : Bandit F} {name : String} (h : (b.own.get? name).isSome) (now : ℚ)
    (reward : F) : ∃ b', update b now name reward = .ok b' := by
  obtain ⟨own, hown⟩ := Option.isSome_iff_exists.mp h
  unfold update UCB1.update ThompsonSampling.update
  rw [hown]
  cases b.algorithm with
  | ucb1 c => exact ⟨_, rfl⟩
  | thompson => exact ⟨_, rfl⟩

/-- **A query finds the scores of the arm it asks.** -/
theorem process_query_scored {s : Sys F} (h : Arms s) {draws : Draws F} {clock : ℕ → ℚ}
    {selected : String}
    (hselect : (select_arm s.community.bandit draws clock s.community.active_models).result =
      .ok selected) (now : ℚ) (query_idx : ℕ) :
    ∃ s' scores, s.state.model_scores.get? selected = some scores ∧
      process_query s draws clock now query_idx = .ok (s', some (selected, scores 1 query_idx,
        scores 5 query_idx, scores 10 query_idx)) := by
  have hactive := select_arm_mem hselect
  have hown : (s.community.bandit.own.get? selected).isSome :=
    (h.arms selected).mp (Finset.mem_union_left _ hactive)
  obtain ⟨scores, hscores⟩ := Option.isSome_iff_exists.mp (h.scored selected hactive)
  obtain ⟨bandit, hupdate⟩ := update_of_isSome hown now (scores 1 query_idx)
  refine ⟨{ s with community := { s.community with bandit } }, scores, hscores, ?_⟩
  unfold process_query
  rw [if_neg (Finset.ne_empty_of_mem hactive), hselect, ok_bind, hscores]
  dsimp only
  rw [hupdate, ok_bind]

end

/-! ## Exclusions -/

section

variable {B : Type} [LinearOrder B]

theorem maxBy_spec (key : String → B) (name : String) (names : List String) :
    maxBy key name names ∈ name :: names ∧
      ∀ y ∈ name :: names, key y ≤ key (maxBy key name names) := by
  induction names generalizing name with
  | nil =>
      refine ⟨List.mem_cons_self, fun y hy => ?_⟩
      rw [List.mem_singleton.mp hy]
      exact le_refl _
  | cons x names ih =>
      have hstep : maxBy key name (x :: names) =
          maxBy key (if key name < key x then x else name) names := rfl
      obtain ⟨hmem, hmax⟩ := ih (if key name < key x then x else name)
      rw [hstep]
      generalize maxBy key (if key name < key x then x else name) names = best at hmem hmax
      -- the first of two equals is kept
      by_cases hlt : key name < key x
      · rw [if_pos hlt] at hmem hmax
        refine ⟨List.mem_cons_of_mem name hmem, fun y hy => ?_⟩
        rcases List.mem_cons.mp hy with rfl | hrest
        · exact hlt.le.trans (hmax x List.mem_cons_self)
        · exact hmax y hrest
      · rw [if_neg hlt] at hmem hmax
        refine ⟨?_, fun y hy => ?_⟩
        · rcases List.mem_cons.mp hmem with h | h
          · exact h ▸ List.mem_cons_self
          · exact List.mem_cons_of_mem name (List.mem_cons_of_mem x h)
        · rcases List.mem_cons.mp hy with rfl | hrest
          · exact hmax y List.mem_cons_self
          · rcases List.mem_cons.mp hrest with rfl | hin
            · exact (not_lt.mp hlt).trans (hmax name List.mem_cons_self)
            · exact hmax y (List.mem_cons_of_mem name hin)

/-- Active models have moved to the excluded ones, all of them with the property `gone`. -/
structure Moved (gone : String → Prop) (c c' : LTRMABCommunity F) : Prop where
  bandit : c'.bandit = c.bandit
  union : c'.active_models ∪ c'.excluded_models = c.active_models ∪ c.excluded_models
  excluded : c.excluded_models ⊆ c'.excluded_models
  disjoint : Disjoint c.active_models c.excluded_models →
    Disjoint c'.active_models c'.excluded_models
  gone : ∀ a ∈ c.active_models, a ∉ c'.active_models → gone a

theorem Moved.refl (gone : String → Prop) (c : LTRMABCommunity F) : Moved gone c c :=
  ⟨rfl, rfl, subset_refl _, id, fun _ h h' => absurd h h'⟩

theorem Moved.trans {gone : String → Prop} {c c' c'' : LTRMABCommunity F} (h : Moved gone c c')
    (h' : Moved gone c' c'') : Moved gone c c'' := by
  refine ⟨h'.bandit.trans h.bandit, h'.union.trans h.union, h.excluded.trans h'.excluded,
    fun hd => h'.disjoint (h.disjoint hd), fun a ha hnot => ?_⟩
  by_cases hmid : a ∈ c'.active_models
  · exact h'.gone a hmid hnot
  · exact h.gone a ha hmid

theorem moved_exclude_model {gone : String → Prop} (c : LTRMABCommunity F) {name : String}
    (h : gone name) : Moved gone c (exclude_model c name) := by
  unfold exclude_model
  by_cases hmem : name ∉ c.active_models
  · rw [if_pos hmem]
    exact .refl gone c
  · rw [if_neg hmem]
    have hin : name ∈ c.active_models := not_not.mp hmem
    refine ⟨rfl, ?_, Finset.subset_insert .., fun hd => ?_, fun a ha hnot => ?_⟩
    · show c.active_models.erase name ∪ insert name c.excluded_models = _
      rw [Finset.union_insert, ← Finset.insert_union, Finset.insert_erase hin]
    · refine Finset.disjoint_insert_right.mpr ⟨Finset.notMem_erase name c.active_models, ?_⟩
      exact hd.mono_left (Finset.erase_subset ..)
    · have hname : a = name := by
        by_contra hne
        exact hnot (Finset.mem_erase.mpr ⟨hne, ha⟩)
      rw [hname]
      exact h

/-- The loop excludes arms it goes through, not the best one, whose upper bound is too low. -/
theorem exclusion_loop_spec (best_name : String) (best_lcb : B) (arm_ucb : String → B)
    {gone : String → Prop} (names : List String)
    (hgone : ∀ a ∈ names, a ≠ best_name → arm_ucb a < best_lcb → gone a)
    (c : LTRMABCommunity F) (excluded : List String) :
    Moved gone c (exclusion_loop best_name best_lcb arm_ucb c excluded names).1 ∧
      ∀ a ∈ (exclusion_loop best_name best_lcb arm_ucb c excluded names).2, a ∈ excluded ∨ gone a := by
  -- the induction is on the names left, over any community and any list so far
  induction names generalizing c excluded with
  | nil => exact ⟨.refl gone c, fun a ha => .inl ha⟩
  | cons name names ih =>
      have hrest : ∀ a ∈ names, a ≠ best_name → arm_ucb a < best_lcb → gone a :=
        fun a ha => hgone a (List.mem_cons_of_mem name ha)
      rw [exclusion_loop]
      by_cases hbest : name = best_name
      · rw [if_pos hbest]
        exact ih hrest c excluded
      · rw [if_neg hbest]
        by_cases hlt : arm_ucb name < best_lcb
        · rw [if_pos hlt]
          have hname : gone name := hgone name List.mem_cons_self hbest hlt
          obtain ⟨hmoved, hlist⟩ := ih hrest (exclude_model c name) (excluded ++ [name])
          refine ⟨(moved_exclude_model c hname).trans hmoved, fun a ha => ?_⟩
          rcases hlist a ha with hin | hgone
          · rcases List.mem_append.mp hin with h | h
            · exact .inl h
            · exact .inr (List.mem_singleton.mp h ▸ hname)
          · exact .inr hgone
        · rw [if_neg hlt]
          exact ih hrest c excluded

variable [Zero B]

/-- The arm that `max` picks among those with enough evidence. -/
def best_name (c : LTRMABCommunity F) (clock : String → ℚ) (order : SetOrder)
    (readings : Readings B) : Option String :=
  match order.list (active_with_pulls c clock) with
  | [] => none
  | name :: names => some (maxBy readings.lcb_in_max name names)

omit [Zero B] in
theorem best_name_spec {c : LTRMABCommunity F} {clock : String → ℚ} {order : SetOrder}
    {readings : Readings B} {best : String} (h : best_name c clock order readings = some best) :
    best ∈ active_with_pulls c clock ∧
      ∀ y ∈ active_with_pulls c clock, readings.lcb_in_max y ≤ readings.lcb_in_max best := by
  have hmem := order.mem (active_with_pulls c clock)
  unfold best_name at h
  split at h
  · cases h
  · rename_i name names hlist
    cases h
    rw [hlist] at hmem
    obtain ⟨hbest, hmax⟩ := maxBy_spec readings.lcb_in_max name names
    exact ⟨(hmem _).mp hbest, fun y hy => hmax y ((hmem y).mpr hy)⟩

/-- An exclusion check changes nothing, or excludes arms with enough evidence whose upper
bound is below the lower bound of the best of these. -/
theorem check_exclusions_spec (c : LTRMABCommunity F) (clock : String → ℚ) (order : SetOrder)
    (readings : Readings B) :
    check_exclusions c clock order readings = (c, []) ∨
      ∃ best, best_name c clock order readings = some best ∧
        Moved (fun a => a ∈ active_with_pulls c clock ∧ a ≠ best ∧
          readings.arm_ucb a < readings.best_lcb best) c
          (check_exclusions c clock order readings).1 ∧
        ∀ a ∈ (check_exclusions c clock order readings).2, a ∈ active_with_pulls c clock ∧
          a ≠ best ∧ readings.arm_ucb a < readings.best_lcb best := by
  unfold check_exclusions best_name
  by_cases hcard : c.active_models.card ≤ 1
  · rw [if_pos hcard]
    exact .inl rfl
  · rw [if_neg hcard]
    have hmem := order.mem (active_with_pulls c clock)
    cases hlist : order.list (active_with_pulls c clock) with
    | nil => exact .inl rfl
    | cons name names =>
        rw [hlist] at hmem
        cases names with
        | nil => exact .inl rfl
        | cons name' names =>
            dsimp only
            generalize maxBy readings.lcb_in_max name (name' :: names) = best
            by_cases hzero : readings.best_lcb best = 0
            · rw [if_pos hzero]
              exact .inl rfl
            · rw [if_neg hzero]
              have hgone : ∀ a ∈ name :: name' :: names, a ≠ best →
                  readings.arm_ucb a < readings.best_lcb best →
                  (fun a => a ∈ active_with_pulls c clock ∧ a ≠ best ∧
                    readings.arm_ucb a < readings.best_lcb best) a :=
                fun a ha hne hlt => ⟨(hmem a).mp ha, hne, hlt⟩
              obtain ⟨hmoved, hexcluded⟩ := exclusion_loop_spec best (readings.best_lcb best)
                readings.arm_ucb (name :: name' :: names) hgone c []
              refine .inr ⟨best, rfl, hmoved, fun a ha => ?_⟩
              exact (hexcluded a ha).resolve_left List.not_mem_nil

/-- **The arm that `max` picks stays active.** -/
theorem check_exclusions_spares_best {c : LTRMABCommunity F} {clock : String → ℚ}
    {order : SetOrder} {readings : Readings B} {best : String}
    (h : best_name c clock order readings = some best) :
    best ∈ (check_exclusions c clock order readings).1.active_models ∧
      best ∉ (check_exclusions c clock order readings).2 := by
  have hactive : best ∈ c.active_models := (Finset.mem_filter.mp (best_name_spec h).1).1
  rcases check_exclusions_spec c clock order readings with hsame | ⟨best', hbest, hmoved, hlist⟩
  · rw [hsame]
    exact ⟨hactive, List.not_mem_nil⟩
  · obtain rfl : best = best' := Option.some.inj (h.symm.trans hbest)
    refine ⟨?_, fun hin => (hlist best hin).2.1 rfl⟩
    by_contra hnot
    exact (hmoved.gone best hactive hnot).2.1 rfl

/-- **An arm of highest lower bound stays active.** -/
theorem check_exclusions_spares (c : LTRMABCommunity F) (hc : c.active_models.Nonempty)
    (clock : String → ℚ) (order : SetOrder) (readings : Readings B) :
    ∃ best ∈ (check_exclusions c clock order readings).1.active_models,
      best ∉ (check_exclusions c clock order readings).2 ∧
      ∀ y ∈ c.active_models, readings.lcb_in_max y ≤ readings.lcb_in_max best := by
  obtain ⟨x, hx, hmax⟩ := Finset.exists_max_image c.active_models readings.lcb_in_max hc
  rcases check_exclusions_spec c clock order readings with hsame | ⟨best, hbest, hmoved, hlist⟩
  · rw [hsame]
    exact ⟨x, hx, List.not_mem_nil, hmax⟩
  · by_cases hpulls : x ∈ active_with_pulls c clock
    · -- the arm `max` found is as high as any
      obtain ⟨hactive, hnotin⟩ := check_exclusions_spares_best hbest
      exact ⟨best, hactive, hnotin, fun y hy => (hmax y hy).trans ((best_name_spec hbest).2 x hpulls)⟩
    · -- an arm with little evidence is not looked at
      refine ⟨x, ?_, fun h => hpulls (hlist x h).1, hmax⟩
      by_contra hnot
      exact hpulls (hmoved.gone x hx hnot).1

/-- With intervals that are not empty, every arm of highest lower bound does. -/
theorem check_exclusions_spares_all (c : LTRMABCommunity F) (clock : String → ℚ)
    (order : SetOrder) (readings : Readings B)
    (hsame : ∀ a, readings.best_lcb a = readings.lcb_in_max a)
    (hproper : ∀ a, readings.lcb_in_max a ≤ readings.arm_ucb a) {x : String}
    (hx : x ∈ c.active_models)
    (hmax : ∀ y ∈ c.active_models, readings.lcb_in_max y ≤ readings.lcb_in_max x) :
    x ∈ (check_exclusions c clock order readings).1.active_models := by
  rcases check_exclusions_spec c clock order readings with hunchanged | ⟨best, hbest, hmoved, -⟩
  · rw [hunchanged]
    exact hx
  · by_contra hnot
    have hlt := (hmoved.gone x hx hnot).2.2
    have hle : readings.best_lcb best ≤ readings.arm_ucb x := by
      calc readings.best_lcb best = readings.lcb_in_max best := hsame best
        _ ≤ readings.lcb_in_max x := hmax best (Finset.mem_filter.mp (best_name_spec hbest).1).1
        _ ≤ readings.arm_ucb x := hproper x
    exact absurd hlt (not_lt.mpr hle)

theorem follows_check_exclusions (s : Sys F) (clock : String → ℚ) (order : SetOrder)
    (readings : Readings B) :
    Follows s { s with community := (check_exclusions s.community clock order readings).1 } := by
  have hmoved : ∃ gone, Moved gone s.community (check_exclusions s.community clock order readings).1 := by
    rcases check_exclusions_spec s.community clock order readings with hsame | ⟨best, -, hmoved, -⟩
    · rw [hsame]
      exact ⟨fun _ => True, .refl _ _⟩
    · exact ⟨_, hmoved⟩
  obtain ⟨gone, hmoved⟩ := hmoved
  refine ⟨fun h => ⟨hmoved.disjoint h.disjoint, fun a => ?_, fun a ha => ?_, ?_⟩, hmoved.excluded⟩
  · rw [hmoved.union, hmoved.bandit]
    exact h.arms a
  · have hunion : a ∈ s.community.active_models ∪ s.community.excluded_models := by
      rw [← hmoved.union]
      exact Finset.mem_union_left _ ha
    refine h.scored a ((Finset.mem_union.mp hunion).resolve_right fun hex => ?_)
    exact Finset.disjoint_left.mp (hmoved.disjoint h.disjoint) ha (hmoved.excluded hex)
  · obtain ⟨best, hbest, -⟩ := check_exclusions_spares s.community h.nonempty clock order readings
    exact ⟨best, hbest⟩

/-! ## Every run -/

variable [PyFloat F]

theorem follows_apply (crypto : Crypto F) (s : Sys F) (e : Event F B) :
    Follows s (apply crypto s e) := by
  cases e with
  | process_query draws clock now query_idx =>
      rw [apply]
      cases h : process_query s draws clock now query_idx with
      | error e => exact .refl s
      | ok result => exact follows_process_query h
  | on_gossip now payload => exact follows_on_gossip crypto s now payload
  | send_gossip draws ad => exact follows_send_gossip crypto s draws ad
  | downloaded model_name scores => exact follows_download s model_name scores
  | add_model model_name => exact follows_add_model s model_name
  | propose_model base random => exact follows_propose s base random
  | check_exclusions clock order readings => exact follows_check_exclusions s clock order readings
  | evict_all_stale now => exact follows_of_same rfl rfl (fun _ => rfl) fun _ h => h
  | share name scores loaded => exact follows_learn s name scores loaded

theorem follows_run (crypto : Crypto F) (s : Sys F) (events : List (Event F B)) :
    Follows s (run crypto s events) := by
  induction events generalizing s with
  | nil => exact .refl s
  | cons e events ih => exact (follows_apply crypto s e).trans (ih _)

theorem arms_of_initial {s : Sys F} (h : Initial s) : Arms s := by
  obtain ⟨peer_id, public_key, algorithm, model_names, hcommunity, hnames, hscores⟩ := h
  have hactive : s.community.active_models = model_names.toFinset := by
    rw [hcommunity]
    rfl
  have hexcluded : s.community.excluded_models = ∅ := by
    rw [hcommunity]
    rfl
  have hown (a : String) : s.community.bandit.own.get? a =
      if a ∈ model_names then some Bandit.flat_prior else none := by
    rw [hcommunity]
    exact PyDict.get?_fromkeys ..
  refine ⟨?_, fun a => ?_, fun a ha => ?_, ?_⟩
  · rw [hexcluded]
    exact Finset.disjoint_empty_right _
  · rw [hactive, hexcluded, Finset.union_empty, List.mem_toFinset, hown]
    by_cases ha : a ∈ model_names
    · rw [if_pos ha]
      exact ⟨fun _ => rfl, fun _ => ha⟩
    · rw [if_neg ha]
      exact ⟨fun h => absurd h ha, fun h => absurd h Bool.false_ne_true⟩
  · rw [hactive] at ha
    exact hscores a (List.mem_toFinset.mp ha)
  · rw [hactive]
    exact (List.toFinset_nonempty_iff _).mpr hnames

/-- **The arms of a community in every run.** The active and the excluded models are disjoint
and together the arms of the bandit, every active one has scores and there always is one, an
excluded one is never active again, and an exclusion check leaves the arm that `max` picked, so an
arm of highest lower bound, and all of them if no interval is empty. -/
theorem arms_of_run (crypto : Crypto F) {start s s' : Sys F} (hstart : Initial start)
    (past later : List (Event F B)) (hs : run crypto start past = s)
    (hs' : run crypto s later = s') :
    Disjoint s.community.active_models s.community.excluded_models ∧
    (∀ a, a ∈ s.community.active_models ∪ s.community.excluded_models ↔
      (s.community.bandit.own.get? a).isSome) ∧
    (∀ a ∈ s.community.active_models, (s.state.model_scores.get? a).isSome) ∧
    s.community.active_models.Nonempty ∧
    (∀ a ∈ s.community.excluded_models, a ∉ s'.community.active_models) ∧
    ∀ clock order, ∀ readings : Readings B,
      (∀ best, best_name s.community clock order readings = some best →
        best ∈ (check_exclusions s.community clock order readings).1.active_models ∧
        best ∉ (check_exclusions s.community clock order readings).2 ∧
        ∀ y ∈ active_with_pulls s.community clock,
          readings.lcb_in_max y ≤ readings.lcb_in_max best) ∧
      (∃ best ∈ (check_exclusions s.community clock order readings).1.active_models,
        best ∉ (check_exclusions s.community clock order readings).2 ∧
        ∀ y ∈ s.community.active_models, readings.lcb_in_max y ≤ readings.lcb_in_max best) ∧
      ((∀ a, readings.best_lcb a = readings.lcb_in_max a) →
        (∀ a, readings.lcb_in_max a ≤ readings.arm_ucb a) →
        ∀ x ∈ s.community.active_models,
          (∀ y ∈ s.community.active_models, readings.lcb_in_max y ≤ readings.lcb_in_max x) →
          x ∈ (check_exclusions s.community clock order readings).1.active_models) := by
  subst hs
  subst hs'
  have harms := (follows_run crypto start past).arms (arms_of_initial hstart)
  have hlater := follows_run crypto (run crypto start past) later
  -- what is excluded at `s` is excluded at `s'`, where the two sets are disjoint again
  refine ⟨harms.disjoint, harms.arms, harms.scored, harms.nonempty, fun a ha hactive => ?_,
    fun clock order readings => ⟨fun best hbest => ?_, ?_, ?_⟩⟩
  · exact Finset.disjoint_left.mp (hlater.arms harms).disjoint hactive (hlater.excluded ha)
  · obtain ⟨hactive, hnotin⟩ := check_exclusions_spares_best hbest
    exact ⟨hactive, hnotin, (best_name_spec hbest).2⟩
  · exact check_exclusions_spares _ harms.nonempty clock order readings
  · exact fun hsame hproper x hx hmax =>
      check_exclusions_spares_all _ clock order readings hsame hproper hx hmax

/-- Two models in the order of their names, any other set in one of its orders. -/
def demoOrder : SetOrder where
  list s := if s = {"lightgbm", "xgboost"} then ["lightgbm", "xgboost"] else s.sort (· ≥ ·)
  nodup s := by
    split
    · decide
    · exact Finset.sort_nodup ..
  mem s a := by
    split
    · rename_i hs
      rw [hs, Finset.mem_insert, Finset.mem_singleton, List.mem_cons, List.mem_singleton]
    · exact Finset.mem_sort ..

/-- Bounds of `xgboost` that lie below those of `lightgbm`. -/
def demoReadings : Readings ℚ where
  lcb_in_max a := if a = "lightgbm" then 1 / 2 else 0
  best_lcb a := if a = "lightgbm" then 1 / 2 else 0
  arm_ucb a := if a = "lightgbm" then 1 else 1 / 4

/-- Ten pulls of either model are reported. -/
def demoHeard : List (Event ℚ ℚ) :=
  [.on_gossip 0 (pullsGossip "lightgbm" 10 1), .on_gossip 0 (pullsGossip "xgboost" 10 1)]

/-- An exclusion check follows, and a proposal. -/
def demoChecked : List (Event ℚ ℚ) :=
  demoHeard ++ [.check_exclusions (fun _ => 1) demoOrder demoReadings,
    .propose_model "lightgbm" [0xab]]

/-- The check finds `lightgbm` best and spares it, and excludes `xgboost`. -/
theorem arms_of_run_proposed :
    (best_name (run (B := ℚ) demoCrypto demoStart demoHeard).community (fun _ => 1) demoOrder
        demoReadings = some "lightgbm" ∧
      "lightgbm" ∈ (check_exclusions (run (B := ℚ) demoCrypto demoStart demoHeard).community
        (fun _ => 1) demoOrder demoReadings).1.active_models ∧
      "lightgbm" ∉ (check_exclusions (run (B := ℚ) demoCrypto demoStart demoHeard).community
        (fun _ => 1) demoOrder demoReadings).2 ∧
      ∀ y ∈ active_with_pulls (run (B := ℚ) demoCrypto demoStart demoHeard).community (fun _ => 1),
        demoReadings.lcb_in_max y ≤ demoReadings.lcb_in_max "lightgbm") ∧
    "lightgbm@ab" ∈ (run (B := ℚ) demoCrypto demoStart demoChecked).community.active_models ∧
    "xgboost" ∈ (run (B := ℚ) demoCrypto demoStart demoChecked).community.excluded_models ∧
    Disjoint (run (B := ℚ) demoCrypto demoStart demoChecked).community.active_models
      (run (B := ℚ) demoCrypto demoStart demoChecked).community.excluded_models := by
  have hbest : best_name (run (B := ℚ) demoCrypto demoStart demoHeard).community (fun _ => 1)
      demoOrder demoReadings = some "lightgbm" := by decide +kernel
  obtain ⟨-, -, -, -, -, hcheck⟩ := arms_of_run (B := ℚ) demoCrypto demoStart_initial demoHeard []
    rfl rfl
  obtain ⟨hspared, -⟩ := hcheck (fun _ => 1) demoOrder demoReadings
  obtain ⟨hdisjoint, -⟩ := arms_of_run (B := ℚ) demoCrypto demoStart_initial demoChecked [] rfl rfl
  exact ⟨⟨hbest, hspared "lightgbm" hbest⟩, by decide +kernel, by decide +kernel, hdisjoint⟩

end

end Superorganism.LtrMab

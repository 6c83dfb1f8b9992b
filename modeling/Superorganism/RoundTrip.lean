/-
Journeys of an object: over the wire as a message and through repositories.

A leg of a journey is a message that is written and read, or a repository that the object is
stored in and read from again, either by its own peer or as one received from another.
Along any journey the object stays what it is, and with it the hash of a solution and the
commitment of a campaign.
-/
import Superorganism.Refinement

set_option autoImplicit false

open Superorganism.Py Superorganism.Funding Superorganism.Gossip Superorganism.Sql

namespace Superorganism.Democracy

/-! ## Legs -/

inductive Leg where
  | wire
  /-- `add_one` and `get_stored_model`. -/
  | added (now : String) (t : Tables)
  /-- `store_remote` and `get_stored_model`. -/
  | received (now : String) (t : Tables)

variable (rt : Runtime)

def Runtime.travel (leg : Leg) (object : Object) : Except PyError (Option Object) :=
  match leg with
  | .wire => do
    let message ← object.build_message
    let model ← message.to_model rt
    pure (some model)
  | .added now t => do
    let stored := rt.add_one now object t
    let _ ← stored.1
    rt.get_stored_model object.item stored.2
  | .received now t => do
    let stored := rt.store_remote now object t
    let _ ← stored.1
    rt.get_stored_model object.item stored.2

/-- One leg after the other; a journey ends where nothing is read back. -/
def Runtime.journey : List Leg → Object → Except PyError (Option Object)
  | [], object => pure (some object)
  | leg :: legs, object => do
    match ← rt.travel leg object with
    | some model => Runtime.journey legs model
    | none => pure none

/-- The repository can take the object in: the constraints admit it, and no other text is
stored under the hash of its description. -/
structure Runtime.Takes (t : Tables) (object : Object) : Prop where
  sane : rt.Sane t
  admits : t.Admits (rt.row object)
  text : ∀ text, object.description = some text → ∀ content ∈ t.content_objects,
    rt.text_hash content.text_content = rt.text_hash text → content.text_content = text

/-- The leg can be made. -/
def Runtime.Open (leg : Leg) (object : Object) : Prop :=
  match leg with
  | .wire => True
  | .added _ t => rt.Takes t object
  | .received _ t => rt.Takes t object

/-! ## Every leg gives the object back -/

section

variable {rt} {object : Object} (hdate : rt.IsDatetime object.created_at)
  (hfits : (rt.row object).FitsColumns)

include hdate hfits

/-- A repository that can take the object in does, and gives it back. -/
theorem Runtime.Takes.stored {t : Tables} (h : rt.Takes t object) (now : String) :
    ∃ t', rt.add_one now object t = (.ok (), t') ∧ rt.store_remote now object t = (.ok .STORED, t') ∧
      rt.get_stored_model object.item t' = .ok (some object) := by
  have hadmits : (rt.prepare now object t).Admits (rt.row object) :=
    h.admits.congr fun _ => Runtime.prepare_hasRow
  obtain ⟨t', hinsert, hrows, hcontents⟩ :=
    Tables.insert_row_of_admits (fun _ => Runtime.prepare_content) hfits hadmits
  refine ⟨t', Runtime.add_one_of_ok hinsert, ?_, ?_⟩
  · have hid := h.admits.id
    rw [Runtime.row_id, Runtime.row_object_type] at hid
    have hnone : rt.get_stored_model object.item t = .ok none :=
      Runtime.get_stored_model_of_not_mem hid
    rw [Runtime.store_remote, hnone]
    exact Runtime.store_new_of_ok hinsert
  · have hprepare := h.sane.prepare now object
    have hsane : rt.Sane t' := hprepare.of_schema (hprepare.1.insert_row hinsert) hcontents
    refine hsane.get_stored_model_of_row hdate ((hrows _).mpr (.inr rfl)) ?_
    intro text htext content hcontent hhash
    rw [hcontents] at hcontent
    -- the text was there before, or it is the one just stored
    rcases Runtime.mem_prepare_content hcontent with hold | ⟨text', htext', rfl⟩
    · exact h.text text htext content hold hhash
    · exact Option.some.inj (htext'.symm.trans htext)

theorem Runtime.travel_eq {leg : Leg} (h : rt.Open leg object) :
    rt.travel leg object = .ok (some object) := by
  cases leg with
  | wire =>
      obtain ⟨message, hbuild, hread⟩ := object.to_model_build_message hdate
      simp only [Runtime.travel, hbuild, ok_bind, hread]
      rfl
  | added now t =>
      have htakes : rt.Takes t object := h
      obtain ⟨t', hadd, -, hget⟩ := htakes.stored hdate hfits now
      simp only [Runtime.travel, hadd, ok_bind, hget]
  | received now t =>
      have htakes : rt.Takes t object := h
      obtain ⟨t', -, hstore, hget⟩ := htakes.stored hdate hfits now
      simp only [Runtime.travel, hstore, ok_bind, hget]

theorem Runtime.journey_eq {legs : List Leg} (h : ∀ leg ∈ legs, rt.Open leg object) :
    rt.journey legs object = .ok (some object) := by
  induction legs with
  | nil => rfl
  | cons leg legs ih =>
      rw [Runtime.journey, Runtime.travel_eq hdate hfits (h leg (List.mem_cons_self ..)), ok_bind]
      exact ih fun leg' hleg' => h leg' (List.mem_cons_of_mem _ hleg')

end

/-! ## Journeys -/

/-- **What comes back is what was sent.** A model of any of the six types whose date is a
datetime and whose integers fit in 64 bits is read from its message as it was; a repository
whose constraints admit it, and that holds no other text under the hash of its description,
stores it and gives it back, whether it is added or received; and after any number of such
legs the object, the hash of a solution and the commitment of a campaign are unchanged. -/
theorem round_trips (rt : Runtime) (object : Object) (hdate : rt.IsDatetime object.created_at)
    (hfits : (rt.row object).FitsColumns) :
    (∃ message, object.build_message = .ok message ∧ message.to_model rt = .ok object) ∧
    (∀ now t, rt.Takes t object → ∃ t', rt.add_one now object t = (.ok (), t') ∧
      rt.store_remote now object t = (.ok .STORED, t') ∧
      rt.get_stored_model object.item t' = .ok (some object)) ∧
    ∀ legs, (∀ leg ∈ legs, rt.Open leg object) →
      ∃ arrived, rt.journey legs object = .ok (some arrived) ∧ arrived = object ∧
        (∀ solution, object = .solution solution → ∃ solution', arrived = .solution solution' ∧
          solution'.compute_hash rt.sha256 = solution.compute_hash rt.sha256) ∧
        ∀ campaign, object = .campaign campaign → ∃ campaign', arrived = .campaign campaign' ∧
          ∀ network_id, campaign'.compute_campaign_commitment_hex rt.sha256 network_id =
            campaign.compute_campaign_commitment_hex rt.sha256 network_id := by
  refine ⟨object.to_model_build_message hdate,
    fun now t htakes => htakes.stored hdate hfits now, fun legs hlegs => ?_⟩
  refine ⟨object, Runtime.journey_eq hdate hfits hlegs, rfl, fun solution hsolution => ?_,
    fun campaign hcampaign => ?_⟩
  · exact ⟨solution, hsolution, rfl⟩
  · exact ⟨campaign, hcampaign, fun _ => rfl⟩

/-- A repository that holds the issue. -/
def exampleRepository : Tables :=
  (exampleRuntime.runWrites [("2024-01-01T00:00:01+00:00", .add_issue (exampleIssue 1 ""))]).1

theorem exampleRepository_takes :
    exampleRuntime.Takes exampleRepository (.solution exampleSolution) where
  sane := (exampleRuntime.runWrites_keeps _).1
  admits := by
    refine ⟨by decide +kernel, fun s hs => ?_, fun p hp => ?_⟩
    · cases hs
    · have hissue : exampleSolution.issue_id.str ∈ exampleRepository.ids .ISSUE := by decide +kernel
      cases hp
      exact hissue
  text := by
    intro text htext content hcontent hhash
    have hcontents : ∀ content ∈ exampleRepository.content_objects,
        exampleRuntime.text_hash content.text_content ≠ exampleRuntime.text_hash "revised" := by
      decide +kernel
    cases htext
    exact absurd hhash (hcontents content hcontent)

/-- The solution is sent, received, sent again and added to a repository of its own. -/
theorem round_trips_solution :
    exampleRuntime.journey [.wire, .received "2024-01-01T00:00:02+00:00" exampleRepository,
      .wire, .added "2024-01-01T00:00:03+00:00" exampleRepository] (.solution exampleSolution) =
      .ok (some (.solution exampleSolution)) := by
  obtain ⟨-, -, hjourney⟩ :=
    round_trips exampleRuntime (.solution exampleSolution) exampleDate_isDatetime trivial
  obtain ⟨arrived, hlegs, rfl, -⟩ := hjourney
    [.wire, .received "2024-01-01T00:00:02+00:00" exampleRepository,
      .wire, .added "2024-01-01T00:00:03+00:00" exampleRepository] (by
    simp only [List.forall_mem_cons]
    exact ⟨trivial, exampleRepository_takes, trivial, exampleRepository_takes, by simp⟩)
  exact hlegs

end Superorganism.Democracy

/-
`democracy/network/replication.py`: the handlers of the six replicated types over one
repository.

A handler is its type: the functions it is built from are those of the repository for that
type. `store_remote` stores a model that came from a peer. A model whose id is stored is not
looked at further; a violated constraint is a rejection; and a vote that its voter has cast
already, under whatever id, counts as present.
-/
import Superorganism.Messages
import Superorganism.Repository

set_option autoImplicit false

open Superorganism.Py Superorganism.Funding Superorganism.Gossip

namespace Superorganism.Democracy

namespace Runtime

variable (rt : Runtime)

/-- `handler.get_all_models()`. -/
def get_all_models (object_type : ObjectType) (t : Tables) : Except PyError (List Object) :=
  match object_type with
  | .ISSUE => (rt.get_all_issues t).map (List.map .issue)
  | .ISSUE_VOTE => (rt.get_all_issue_votes t).map (List.map .issue_vote)
  | .SOLUTION => (rt.get_all_solutions t).map (List.map .solution)
  | .SOLUTION_VOTE => (rt.get_all_solution_votes t).map (List.map .solution_vote)
  | .FUNDING_CAMPAIGN => (rt.get_all_campaigns t).map (List.map .campaign)
  | .FUNDING_PLEDGE => (rt.get_all_pledges t).map (List.map .pledge)

/-- `handler.get_stored_model(item)`. -/
def get_stored_model (item : GossipItem) (t : Tables) : Except PyError (Option Object) :=
  match item.object_type with
  | .ISSUE => (rt.get_issue item.object_uuid t).map (Option.map .issue)
  | .ISSUE_VOTE => (rt.get_issue_vote item.object_uuid t).map (Option.map .issue_vote)
  | .SOLUTION => (rt.get_solution item.object_uuid t).map (Option.map .solution)
  | .SOLUTION_VOTE => (rt.get_solution_vote item.object_uuid t).map (Option.map .solution_vote)
  | .FUNDING_CAMPAIGN => (rt.get_campaign item.object_uuid t).map (Option.map .campaign)
  | .FUNDING_PLEDGE => (rt.get_pledge item.object_uuid t).map (Option.map .pledge)

/-- `handler._add_one(model)`. -/
def add_one (now : String) (object : Object) (t : Tables) : Except PyError Unit × Tables :=
  match object with
  | .issue issue => rt.add_issue now issue t
  | .issue_vote vote => add_issue_vote vote t
  | .solution solution => rt.add_solution now solution t
  | .solution_vote vote => add_solution_vote vote t
  | .campaign campaign => add_campaign campaign t
  | .pledge pledge => add_pledge pledge t

/-- What the plain handler makes of the answer of `add_one`. -/
def storeStatus (added : Except PyError Unit × Tables) : Except PyError StoreStatus × Tables :=
  match added with
  | (.ok (), t) => (.ok .STORED, t)
  | (.error e, t) => if e.isIntegrityError then (.ok .REJECTED, t) else (.error e, t)

/-- What the vote handler makes of the answer of `record_vote`. -/
def voteStatus (recorded : Except PyError VoteRecordResult × Tables) :
    Except PyError StoreStatus × Tables :=
  match recorded with
  | (.ok .CREATED, t) => (.ok .STORED, t)
  | (.ok .ALREADY_VOTED, t) => (.ok .ALREADY_PRESENT, t)
  | (.error e, t) => if e.isIntegrityError then (.ok .REJECTED, t) else (.error e, t)

/-- `store_remote` after the check for the id. -/
def store_new (now : String) (object : Object) (t : Tables) : Except PyError StoreStatus × Tables :=
  match object with
  | .issue_vote vote => voteStatus (record_issue_vote vote t)
  | .solution_vote vote => voteStatus (record_solution_vote vote t)
  | object => storeStatus (rt.add_one now object t)

def store_remote (now : String) (object : Object) (t : Tables) :
    Except PyError StoreStatus × Tables :=
  match rt.get_stored_model object.item t with
  | .error e => (.error e, t)
  | .ok (some _) => (.ok .ALREADY_PRESENT, t)
  | .ok none => rt.store_new now object t

end Runtime

end Superorganism.Democracy

import OpsPlatform.Interaction.Program
import OpsPlatform.Teams.Store

/-! `teams.Service` as programs over its three stores, and their execution in memory. -/
namespace OpsPlatform.Teams
open OpsPlatform.Go Interaction Program

/-- The calls the service makes on its stores and its clock. -/
inductive Op
  | teamCreate (ctx : Context) (team : Team)
  | teamGetByID (ctx : Context) (id : String)
  | membershipCreate (ctx : Context) (membership : Membership)
  | membershipUpdate (ctx : Context) (membership : Membership)
  | membershipGetActiveByUserID (ctx : Context) (userID : String)
  | membershipListActiveByTeamID (ctx : Context) (teamID : String)
  | supervisionCreate (ctx : Context) (supervision : Supervision)
  | supervisionUpdate (ctx : Context) (supervision : Supervision)
  | supervisionListActiveByTeamID (ctx : Context) (teamID : String)
  | supervisionListActiveByUserID (ctx : Context) (userID : String)
  | now

abbrev Op.Res : Op → Type
  | .teamCreate _ _ => Except Error Team
  | .teamGetByID _ _ => Except Error Team
  | .membershipCreate _ _ => Except Error Membership
  | .membershipUpdate _ _ => Except Error Membership
  | .membershipGetActiveByUserID _ _ => Except Error (Option Membership)
  | .membershipListActiveByTeamID _ _ => Except Error (List Membership)
  | .supervisionCreate _ _ => Except Error Supervision
  | .supervisionUpdate _ _ => Except Error Supervision
  | .supervisionListActiveByTeamID _ _ => Except Error (List Supervision)
  | .supervisionListActiveByUserID _ _ => Except Error (List Supervision)
  | .now => Time

abbrev M (α : Type) := Program Op.Res Error α

/-- `Service.CreateTeam`. -/
def createTeam (ctx : Context) (name : String) : M Team := do
  let trimmed := trimSpace name
  failIf (trimmed = "") errInvalidInput
  let now ← call .now ret
  call (.teamCreate ctx { id := "", name := trimmed, createdAt := now }) fromResult

/-- `Service.TeamExists`. -/
def teamExists (ctx : Context) (teamID : String) : M Bool := do
  if trimSpace teamID = "" then return false
  else call (.teamGetByID ctx teamID) fun
    | .ok _ => ret true
    | .error err => if err = errNotFound then ret false else fail err

/-- `Service.AddAssignee`: close the old membership, then open the new one. -/
def addAssignee (ctx : Context) (teamID userID addedByUserID : String) : M Membership := do
  let teamID := trimSpace teamID
  let userID := trimSpace userID
  let addedByUserID := trimSpace addedByUserID
  failIf (teamID = "" ∨ userID = "" ∨ addedByUserID = "") errInvalidInput
  let _ ← call (.teamGetByID ctx teamID) fromResult
  let now ← call .now ret
  let created : Membership :=
    { id := "", teamID, userID, addedByUserID, addedAt := now, removedAt := none }
  match ← call (.membershipGetActiveByUserID ctx userID) fromResult with
  | none => call (.membershipCreate ctx created) fromResult
  | some existing =>
    if existing.teamID = teamID then return existing
    else do
      let _ ← call (.membershipUpdate ctx { existing with removedAt := some now }) fromResult
      call (.membershipCreate ctx created) fromResult

/-- `Service.AddSupervisor`. -/
def addSupervisor (ctx : Context) (teamID userID addedByUserID : String) : M Supervision := do
  let teamID := trimSpace teamID
  let userID := trimSpace userID
  let addedByUserID := trimSpace addedByUserID
  failIf (teamID = "" ∨ userID = "" ∨ addedByUserID = "") errInvalidInput
  let _ ← call (.teamGetByID ctx teamID) fromResult
  let now ← call .now ret
  call (.supervisionCreate ctx
    { id := "", teamID, userID, addedByUserID, addedAt := now, removedAt := none }) fromResult

/-- The loop of `RemoveSupervisor`; the result is its `found` flag. -/
def closeSupervisions (ctx : Context) (now : Time) (userID : String) :
    List Supervision → Bool → M Bool
  | [], found => ret found
  | supervision :: rest, found =>
    if supervision.userID ≠ userID then closeSupervisions ctx now userID rest found
    else do
      let _ ← call (.supervisionUpdate ctx { supervision with removedAt := some now }) fromResult
      closeSupervisions ctx now userID rest true

/-- `Service.RemoveSupervisor`. -/
def removeSupervisor (ctx : Context) (teamID userID : String) : M Unit := do
  let teamID := trimSpace teamID
  let userID := trimSpace userID
  let active ← call (.supervisionListActiveByTeamID ctx teamID) fromResult
  let now ← call .now ret
  let found ← closeSupervisions ctx now userID active false
  failIf (¬ found) errNotSupervisor

/-- `Service.IsActiveSupervisorOf`. -/
def isActiveSupervisorOf (ctx : Context) (supervisorUserID assigneeUserID : String) :
    M Bool := do
  let supervisorUserID := trimSpace supervisorUserID
  let assigneeUserID := trimSpace assigneeUserID
  if supervisorUserID = "" ∨ assigneeUserID = "" then return false
  else
    match ← call (.membershipGetActiveByUserID ctx assigneeUserID) fromResult with
    | none => return false
    | some membership => do
      let supervisions ← call (.supervisionListActiveByTeamID ctx membership.teamID) fromResult
      return supervisions.any fun supervision => supervision.userID = supervisorUserID

/-- The body of the inner loop of `SupervisedAssigneeUserIDs`: the ids so far and the `seen` map. -/
def addMember (acc : List String × (String → Bool)) (member : Membership) :
    List String × (String → Bool) :=
  if acc.2 member.userID then acc
  else (acc.1 ++ [member.userID],Function.update acc.2 member.userID true)

/-- The outer loop of `SupervisedAssigneeUserIDs`. -/
def collectMembers (ctx : Context) :
    List Supervision → List String × (String → Bool) → M (List String)
  | [], acc => ret acc.1
  | supervision :: rest, acc => do
    let members ← call (.membershipListActiveByTeamID ctx supervision.teamID) fromResult
    collectMembers ctx rest (members.foldl addMember acc)

/-- `Service.SupervisedAssigneeUserIDs`. -/
def supervisedAssigneeUserIDs (ctx : Context) (supervisorUserID : String) : M (List String) := do
  let supervisorUserID := trimSpace supervisorUserID
  if supervisorUserID = "" then return []
  else do
    let supervisions ← call (.supervisionListActiveByUserID ctx supervisorUserID) fromResult
    collectMembers ctx supervisions ([],fun _ => false)

structure State where
  teams : MemoryStore
  memberships : MemoryMembershipStore
  supervisions : MemorySupervisionStore

def State.empty : State := ⟨.new,.new,.new⟩

/-- The in-memory stores under a clock that shows `now`. -/
def exec (now : Time) : (op : Op) → State → op.Res × State
  | .teamCreate _ team, s => ((s.teams.create team).1,{ s with teams := (s.teams.create team).2 })
  | .teamGetByID _ id, s => (s.teams.getByID id,s)
  | .membershipCreate _ row, s =>
    ((s.memberships.create row).1,{ s with memberships := (s.memberships.create row).2 })
  | .membershipUpdate _ row, s =>
    ((s.memberships.update row).1,{ s with memberships := (s.memberships.update row).2 })
  | .membershipGetActiveByUserID _ userID, s => (s.memberships.getActiveByUserID userID,s)
  | .membershipListActiveByTeamID _ teamID, s => (s.memberships.listActiveByTeamID teamID,s)
  | .supervisionCreate _ row, s =>
    ((s.supervisions.create row).1,{ s with supervisions := (s.supervisions.create row).2 })
  | .supervisionUpdate _ row, s =>
    ((s.supervisions.update row).1,{ s with supervisions := (s.supervisions.update row).2 })
  | .supervisionListActiveByTeamID _ teamID, s => (s.supervisions.listActiveByTeamID teamID,s)
  | .supervisionListActiveByUserID _ userID, s => (s.supervisions.listActiveByUserID userID,s)
  | .now, s => (now,s)

/-- The calls that write team data. -/
inductive Call
  | createTeam (name : String)
  | addAssignee (teamID userID addedByUserID : String)
  | addSupervisor (teamID userID addedByUserID : String)
  | removeSupervisor (teamID userID : String)

/-- The program of a call, its result dropped. -/
def Call.program (ctx : Context) : Call → M Unit
  | .createTeam name => do let _ ← Teams.createTeam ctx name
  | .addAssignee teamID userID by_ => do let _ ← Teams.addAssignee ctx teamID userID by_
  | .addSupervisor teamID userID by_ => do let _ ← Teams.addSupervisor ctx teamID userID by_
  | .removeSupervisor teamID userID => Teams.removeSupervisor ctx teamID userID

/-- The state after a call, whether it succeeds or not. -/
def State.after (s : State) (now : Time) (c : Call) : State :=
  ((c.program background).run (exec now) s).2

end OpsPlatform.Teams
